import Mathlib.Tactic.Choose
import Clausal.Skolem
import Clausal.Proofs.Semantics.Prenex

/-!
# Skolem form is sound and conservative

If the Skolem form of a prenex formula is true for all values of its universal
variables, the formula is true (`holds_of_skolemize`). Conversely, a true formula
has a true Skolem form once the symbols that head its witnesses are interpreted by
the values that make the existential quantifiers true (`exists_holds_skolemize`).

Both go through the prefix quantifier by quantifier. What a step needs of the
state before it is that all names in play count as used, so that a new name is one
that nothing depends on (`Skolemized.State.Ready`). What every step keeps is kept by
the run of a whole prefix (`Skolemized.State.run_induction`).
-/

universe u

namespace Clausal

variable {D : Type u} {M N : Structure D} {v w : Assignment D}

/-- An assignment differs from another only at the listed symbols. -/
def VariesOn (xs : List String) (v w : Assignment D) : Prop := ∀ y, y ∉ xs → w y = v y

theorem VariesOn.refl (xs : List String) (v : Assignment D) : VariesOn xs v v := fun _ _ => rfl

/-- Undoing the change at one more symbol leaves the changes at the listed ones. -/
theorem VariesOn.undo {xs : List String} {x : String} (varies : VariesOn (xs ++ [x]) v w) :
    VariesOn xs v (Function.update w x (v x)) := by
  intro y outside
  by_cases same : y = x
  · subst same
    exact Function.update_self y (v y) w
  · rw [Function.update_of_ne same]
    refine varies y fun member => ?_
    rcases List.mem_append.mp member with old | new
    · exact outside old
    · exact same (List.mem_singleton.mp new)

theorem variesOn_nil : VariesOn [] v w ↔ w = v :=
  ⟨fun varies => funext fun y => varies y List.not_mem_nil, fun same _ _ => congrFun same _⟩

/-- A structure with an assignment differs from another only in what heads the given
witnesses: constants, and functions of the given number of arguments. -/
structure AgreesOff (mapping : List (String × Term)) (M : Structure D) (v : Assignment D)
    (N : Structure D) (w : Assignment D) : Prop where
  symbol : ∀ c, (∀ entry ∈ mapping, entry.2 ≠ .sym c) → w c = v c
  function : ∀ f ds, (∀ entry ∈ mapping, ∀ args, entry.2 = .app f args →
    args.length ≠ ds.length) → N.function f ds = M.function f ds
  predicate : ∀ p ds, N.predicate p ds ↔ M.predicate p ds
  foreign : ∀ e, N.foreign e = M.foreign e

namespace AgreesOff

variable {mapping more : List (String × Term)} {K : Structure D} {u : Assignment D}

theorem refl (mapping : List (String × Term)) (M : Structure D) (v : Assignment D) :
    AgreesOff mapping M v M v :=
  ⟨fun _ _ => rfl, fun _ _ _ => rfl, fun _ _ => Iff.rfl, fun _ => rfl⟩

theorem mono (agrees : AgreesOff mapping M v N w) (subset : mapping ⊆ more) :
    AgreesOff more M v N w where
  symbol c other := agrees.symbol c fun entry member => other entry (subset member)
  function f ds other := agrees.function f ds fun entry member => other entry (subset member)
  predicate := agrees.predicate
  foreign := agrees.foreign

theorem trans (first : AgreesOff mapping M v N w) (second : AgreesOff mapping N w K u) :
    AgreesOff mapping M v K u where
  symbol c other := (second.symbol c other).trans (first.symbol c other)
  function f ds other := (second.function f ds other).trans (first.function f ds other)
  predicate p ds := (second.predicate p ds).trans (first.predicate p ds)
  foreign e := (second.foreign e).trans (first.foreign e)

end AgreesOff

/-- The structure with another meaning for a function symbol of one arity. -/
def Structure.withFunction (M : Structure D) (name : String) (arity : Nat) (h : List D → D) :
    Structure D :=
  { M with function := fun f ds =>
      if f = name ∧ ds.length = arity then h ds else M.function f ds }

/-- An assignment with new values for listed symbols. -/
def Assignment.overwrite (v : Assignment D) : List String → List D → Assignment D
  | x :: xs, d :: ds => Function.update (v.overwrite xs ds) x d
  | _, _ => v

/-- Overwriting an assignment with the values of another one that differs from it only
there gives the other one. -/
theorem Assignment.overwrite_map (xs : List String) (varies : VariesOn xs v w) :
    v.overwrite xs (xs.map w) = w := by
  have pointwise (y : String) : v.overwrite xs (xs.map w) y = if y ∈ xs then w y else v y := by
    clear varies
    induction xs with
    | nil => simp only [overwrite, List.not_mem_nil, ↓reduceIte]
    | cons x xs ih =>
        rw [List.map_cons, overwrite]
        by_cases same : y = x
        · subst same
          rw [Function.update_self, if_pos List.mem_cons_self]
        · rw [Function.update_of_ne same, ih]
          simp only [List.mem_cons, same, false_or]
  funext y
  rw [pointwise]
  by_cases listed : y ∈ xs
  · rw [if_pos listed]
  · rw [if_neg listed, varies y listed]

/-- The names of a witness are the new one and those of its arguments. -/
theorem Term.names_applied_subset (name : String) (xs : List String) :
    (Term.applied name (xs.map .sym)).names ⊆ name :: xs := by
  have inner : Term.namesList (xs.map .sym) = xs := by
    rw [Term.namesList_eq_flatMap, List.flatMap_map]
    exact List.flatMap_singleton' xs
  cases xs with
  | nil => exact List.Subset.refl _
  | cons x xs =>
      rw [List.map_cons, Term.applied, Term.names, ← List.map_cons (f := Term.sym), inner]
      · exact List.Subset.refl _
      · exact List.cons_ne_nil _ _

/-- A symbol that is not in use can be interpreted so that a witness headed by it takes
chosen values, while all names in use keep their meaning. The values may depend on
the arguments of the witness. -/
theorem exists_witness {name : String} {used : List String} (fresh : name ∉ used) (x : String)
    (xs : List String) (M : Structure D) (v : Assignment D) (pick : Assignment D → D) :
    ∃ (N : Structure D) (u : Assignment D),
      AgreesOff [(x, .applied name (xs.map .sym))] M v N u ∧
        ∀ w, VariesOn xs u w → ∃ w', VariesOn xs v w' ∧ Agreement used N w M w' ∧
          (Term.applied name (xs.map .sym)).value N w = pick w' := by
  cases xs with
  | nil =>
      refine ⟨M, Function.update v name (pick v), ⟨?_, fun _ _ _ => rfl, fun _ _ => Iff.rfl,
        fun _ => rfl⟩, ?_⟩
      · intro c other
        have differ : c ≠ name := fun same => other _ List.mem_cons_self (same ▸ rfl)
        exact Function.update_of_ne differ _ v
      · intro w varies
        obtain rfl := variesOn_nil.mp varies
        refine ⟨v, .refl _ v, agreement_update_of_not_mem fresh (pick v), ?_⟩
        rw [List.map_nil, Term.applied, Term.value, Function.update_self]
  | cons y ys =>
      let xs := y :: ys
      let N := M.withFunction name xs.length fun ds => pick (v.overwrite xs ds)
      have keeps (f : String) (ds : List D) (other : ¬ (f = name ∧ ds.length = xs.length)) :
          N.function f ds = M.function f ds := if_neg other
      refine ⟨N, v, ⟨fun _ _ => rfl, ?_, fun _ _ => Iff.rfl, fun _ => rfl⟩, ?_⟩
      · intro f ds other
        refine keeps f ds fun ⟨same, arity⟩ => ?_
        refine other _ List.mem_cons_self (xs.map .sym) (same ▸ rfl) ?_
        rw [List.length_map, arity]
      · intro w varies
        refine ⟨w, varies, ⟨fun _ _ => rfl, ?_, fun _ _ => Iff.rfl, fun _ => rfl⟩, ?_⟩
        · intro f member ds
          exact keeps f ds fun ⟨same, _⟩ => fresh (same ▸ member)
        · have values : Term.valueList N w (xs.map .sym) = xs.map w := by
            rw [Term.valueList_eq_map, List.map_map]
            rfl
          have arity : (xs.map w).length = xs.length := List.length_map _
          calc (Term.app name (xs.map .sym)).value N w
            _ = N.function name (xs.map w) := by rw [Term.value, values]
            _ = pick (v.overwrite xs (xs.map w)) := if_pos ⟨rfl, arity⟩
            _ = pick w := by rw [Assignment.overwrite_map xs varies]

/-- Putting a term in below a prefix gives its value to the variable, unless the prefix
binds the variable or a name of the term. -/
theorem Formula.holds_quantify_subst {f : Formula} (free : f.boundNames = []) {p : Prefix}
    {x : String} (t : Term) (unbound : ∀ b ∈ p, b.name ≠ x)
    (uncaptured : ∀ b ∈ p, b.name ∉ t.names) :
    ((f.subst [(x, t)]).quantify p).Holds M v ↔
      (f.quantify p).Holds M (Function.update v x (t.value M v)) := by
  have inside : ((f.quantify p).subst [(x, t)]) = (f.subst [(x, t)]).quantify p := by
    induction p with
    | nil => rfl
    | cons b p ih =>
        have kept : Substitution.erase [(x, t)] b.name = [(x, t)] := by
          have other : x ≠ b.name := Ne.symm (unbound b List.mem_cons_self)
          simp only [Substitution.erase, List.filter_cons, ne_eq, other, not_false_eq_true,
            decide_true, ↓reduceIte, List.filter_nil]
        rw [quantify_cons, quantify_cons, subst, kept,
          ih (fun c member => unbound c (List.mem_cons_of_mem b member))
            fun c member => uncaptured c (List.mem_cons_of_mem b member)]
  rw [← inside, Formula.holds_subst, Substitution.valued_single]
  intro y bound entry member
  rw [List.mem_singleton] at member
  subst member
  rw [boundNames_quantify, free, List.append_nil] at bound
  obtain ⟨b, inPrefix, rfl⟩ := List.mem_map.mp bound
  exact fun inside => uncaptured b inPrefix (t.symbols_subset_names inside)

namespace Skolemized

namespace State

/-- A universal quantifier adds its variable to the arguments of later witnesses. -/
theorem step_all (s : State) (x : String) :
    s.step ⟨.all, x⟩ =
      { s with result := { s.result with universals := s.result.universals ++ [x] } } := rfl

/-- The state after a witness headed by a fresh name is put in for a variable. -/
def witnessed (s : State) (x name : String) (constants functions : Int) : State :=
  ⟨⟨s.result.matrix.subst [(x, .applied name (s.result.universals.map .sym))],
      s.result.mapping ++ [(x, .applied name (s.result.universals.map .sym))],
      s.result.universals⟩,
    constants, functions, name :: s.used⟩

/-- Without universal variables in front, the witness is a constant. -/
theorem step_ex_constant {s : State} (leading : s.result.universals = []) (x : String) :
    s.step ⟨.ex, x⟩ =
      s.witnessed x (mint constantStem s.constants s.used).name
        (mint constantStem s.constants s.used).counter s.functions := by
  simp only [step, witnessed, leading, List.isEmpty_nil, ↓reduceIte, witness, List.map_nil,
    Term.applied]
  rfl

/-- Behind universal variables, the witness is a function of them. -/
theorem step_ex_function {s : State} (below : s.result.universals ≠ []) (x : String) :
    s.step ⟨.ex, x⟩ =
      s.witnessed x (mint functionStem s.functions s.used).name s.constants
        (mint functionStem s.functions s.used).counter := by
  obtain ⟨y, ys, universals⟩ := List.exists_cons_of_ne_nil below
  simp only [step, witnessed, universals, List.isEmpty_cons, Bool.false_eq_true, ↓reduceIte,
    witness, List.map_cons, Term.applied]
  rfl

/-- An existential quantifier gets a witness with a fresh name. -/
theorem step_ex (s : State) (x : String) :
    ∃ name constants functions, name ∉ s.used ∧
      s.step ⟨.ex, x⟩ = s.witnessed x name constants functions := by
  by_cases leading : s.result.universals = []
  · exact ⟨_, _, _, mint_name_not_mem constantStem s.used s.constants, step_ex_constant leading x⟩
  · exact ⟨_, _, _, mint_name_not_mem functionStem s.used s.functions, step_ex_function leading x⟩

/-- All names in play before a prefix is removed are in use, its variables are neither
repeated nor set aside already, and the matrix has no quantifiers. -/
structure Ready (s : State) (p : Prefix) : Prop where
  matrix : s.result.matrix.names ⊆ s.used
  universals : s.result.universals ⊆ s.used
  binders : p.map Binder.name ⊆ s.used
  distinct : (s.result.universals ++ p.map Binder.name).Nodup
  free : s.result.matrix.boundNames = []

namespace Ready

variable {s : State} {p : Prefix} {x : String}

/-- A universal quantifier keeps the state ready. -/
theorem all (ready : s.Ready (⟨.all, x⟩ :: p)) : (s.step ⟨.all, x⟩).Ready p where
  matrix := ready.matrix
  universals := List.append_subset.mpr
    ⟨ready.universals,
      List.cons_subset.mpr ⟨ready.binders List.mem_cons_self, List.nil_subset _⟩⟩
  binders := List.Subset.trans (List.subset_cons_self _ _) ready.binders
  distinct := by
    have distinct := ready.distinct
    rwa [List.map_cons, List.append_cons] at distinct
  free := ready.free

/-- The prefix behind a variable does not bind it again. -/
theorem unbound {q : Quantifier} (ready : s.Ready (⟨q, x⟩ :: p)) : ∀ b ∈ p, b.name ≠ x := by
  intro b member same
  have apart := (List.nodup_append.mp ready.distinct).2.1
  rw [List.map_cons, List.nodup_cons] at apart
  have listed : b.name ∈ p.map Binder.name := List.mem_map_of_mem member
  exact apart.1 (same ▸ listed)

/-- The prefix behind a variable captures nothing of a witness with a new name. -/
theorem uncaptured {q : Quantifier} {name : String} (ready : s.Ready (⟨q, x⟩ :: p))
    (fresh : name ∉ s.used) :
    ∀ b ∈ p, b.name ∉ (Term.applied name (s.result.universals.map .sym)).names := by
  intro b member inside
  have listed : b.name ∈ (⟨q, x⟩ :: p).map Binder.name :=
    List.mem_map_of_mem (List.mem_cons_of_mem _ member)
  rcases List.mem_cons.mp (Term.names_applied_subset name _ inside) with same | universal
  · exact fresh (same ▸ ready.binders listed)
  · exact (List.nodup_append.mp ready.distinct).2.2 b.name universal b.name listed rfl

/-- An existential quantifier keeps the state ready. -/
theorem ex {name : String} {mapping : List (String × Term)} {constants functions : Int}
    (ready : s.Ready (⟨.ex, x⟩ :: p)) :
    Ready ⟨⟨s.result.matrix.subst [(x, .applied name (s.result.universals.map .sym))], mapping,
      s.result.universals⟩, constants, functions, name :: s.used⟩ p where
  matrix := by
    intro y member
    rcases s.result.matrix.mem_names_subst _ member with old | ⟨z, known, put⟩
    · exact List.mem_cons_of_mem _ (ready.matrix old)
    · by_cases same : z = x
      · subst same
        rw [Substitution.apply_cons_self] at put
        rcases List.mem_cons.mp (Term.names_applied_subset name _ put) with rfl | universal
        · exact List.mem_cons_self
        · exact List.mem_cons_of_mem _ (ready.universals universal)
      · rw [Substitution.apply_cons_of_ne _ _ same, Substitution.apply_nil, Term.names,
          List.mem_singleton] at put
        exact List.mem_cons_of_mem _ (ready.matrix (put ▸ known))
  universals := List.subset_cons_of_subset _ ready.universals
  binders := List.subset_cons_of_subset _
    (List.Subset.trans (List.subset_cons_self _ _) ready.binders)
  distinct := ready.distinct.sublist
    (List.Sublist.append_left (List.sublist_cons_self _ _) _)
  free := (Formula.boundNames_subst _ _).trans ready.free

end Ready

/-- The state after a prefix is removed. -/
def run (s : State) (p : Prefix) : State := p.foldl step s

@[simp] theorem run_nil (s : State) : s.run [] = s := rfl

@[simp] theorem run_cons (s : State) (b : Binder) (p : Prefix) :
    s.run (b :: p) = (s.step b).run p := rfl

theorem run_append (s : State) (p r : Prefix) : s.run (p ++ r) = (s.run p).run r :=
  List.foldl_append

/-- What is true before a prefix is removed and kept by the removal of each of its quantifiers is
true in the end. It may depend on what is left of the prefix. -/
theorem run_induction {motive : State → Prefix → Prop}
    (all : ∀ s x p, motive s (⟨.all, x⟩ :: p) → motive (s.step ⟨.all, x⟩) p)
    (ex : ∀ s x p name constants functions, name ∉ s.used → motive s (⟨.ex, x⟩ :: p) →
      motive (s.witnessed x name constants functions) p)
    (p : Prefix) {s : State} (start : motive s p) : motive (s.run p) [] := by
  induction p generalizing s with
  | nil => exact start
  | cons b p ih =>
      obtain ⟨q, x⟩ := b
      cases q with
      | all => exact ih (all s x p start)
      | ex =>
          obtain ⟨name, constants, functions, fresh, after⟩ := s.step_ex x
          rw [run_cons, after]
          exact ih (ex s x p name constants functions fresh start)

/-- A run sets the universal variables of the prefix aside. -/
theorem universals_run (s : State) (p : Prefix) :
    (s.run p).result.universals = s.result.universals ++ p.universals := by
  have kept := run_induction (s := s)
    (motive := fun t r => t.result.universals ++ r.universals =
      s.result.universals ++ p.universals)
    (fun _ _ _ same => (List.append_assoc _ _ _).trans same)
    (fun _ _ _ _ _ _ _ same => same) p rfl
  rwa [Prefix.universals, List.filterMap_nil, List.append_nil] at kept

/-- A run only adds witnesses, behind those that are there. -/
theorem mapping_isPrefix_run (s : State) (p : Prefix) :
    s.result.mapping <+: (s.run p).result.mapping :=
  run_induction (motive := fun t _ => s.result.mapping <+: t.result.mapping)
    (fun _ _ _ earlier => earlier)
    (fun _ _ _ _ _ _ _ earlier => earlier.trans (List.prefix_append _ _)) p (List.prefix_refl _)

/-- If the matrix that a run leaves is true for all values of the universal variables of
the prefix, the matrix that it started with is true under the prefix. -/
theorem holds_of_run (p : Prefix) {s : State} (ready : s.Ready p)
    (holds : ∀ w, VariesOn p.universals v w → (s.run p).result.matrix.Holds M w) :
    (s.result.matrix.quantify p).Holds M v := by
  induction p generalizing s v with
  | nil => exact holds v (.refl _ v)
  | cons b p ih =>
      obtain ⟨q, x⟩ := b
      cases q with
      | all =>
          intro d
          refine ih (s := s.step ⟨.all, x⟩) ready.all fun w varies => holds w fun y outside => ?_
          have other : y ∉ x :: Prefix.universals p := outside
          have differ : y ≠ x := List.ne_of_not_mem_cons other
          rw [varies y (List.not_mem_of_not_mem_cons other), Function.update_of_ne differ]
      | ex =>
          obtain ⟨name, constants, functions, fresh, after⟩ := s.step_ex x
          rw [run_cons, after] at holds
          have inner := ih ready.ex holds
          rw [Formula.holds_quantify_subst ready.free _ ready.unbound (ready.uncaptured fresh)]
            at inner
          exact ⟨_, inner⟩

/-- If the matrix that a run starts with is true under the prefix for all values of the
variables set aside so far, the symbols that head the witnesses can be interpreted so
that the matrix that the run leaves is true for all values of the variables set aside
in the end. -/
theorem exists_holds_run (p : Prefix) {s : State} (ready : s.Ready p)
    (holds : ∀ w, VariesOn s.result.universals v w → (s.result.matrix.quantify p).Holds M w) :
    ∃ (N : Structure D) (u : Assignment D), AgreesOff (s.run p).result.mapping M v N u ∧
      ∀ w, VariesOn (s.run p).result.universals u w → (s.run p).result.matrix.Holds N w := by
  induction p generalizing s M v with
  | nil => exact ⟨M, v, .refl _ M v, holds⟩
  | cons b p ih =>
      obtain ⟨q, x⟩ := b
      cases q with
      | all =>
          refine ih (s := s.step ⟨.all, x⟩) ready.all fun w varies => ?_
          -- The hypothesis is used without the change at the new variable, which its
          -- quantifier then makes.
          have now : (s.result.matrix.quantify p).Holds M
              (Function.update (Function.update w x (v x)) x (w x)) :=
            holds _ varies.undo (w x)
          rwa [Function.update_idem, Function.update_eq_self] at now
      | ex =>
          obtain ⟨name, constants, functions, fresh, after⟩ := s.step_ex x
          have choice (w : Assignment D) : ∃ d, VariesOn s.result.universals v w →
              (s.result.matrix.quantify p).Holds M (Function.update w x d) := by
            by_cases varies : VariesOn s.result.universals v w
            · obtain ⟨d, truth⟩ := holds w varies
              exact ⟨d, fun _ => truth⟩
            · exact ⟨v x, fun varies' => absurd varies' varies⟩
          choose pick picked using choice
          obtain ⟨N, u, agrees, realizes⟩ :=
            exists_witness fresh x s.result.universals M v pick
          have kept : (s.result.matrix.quantify p).names ⊆ s.used := by
            rw [Formula.names_quantify]
            exact List.append_subset.mpr
              ⟨List.Subset.trans (List.subset_cons_self _ _) ready.binders, ready.matrix⟩
          have next := ih (s := s.step ⟨.ex, x⟩) (M := N) (v := u) (after ▸ ready.ex)
            (by
              rw [after, witnessed]
              intro w varies
              obtain ⟨w', origin, agree, value⟩ := realizes w varies
              rw [Formula.holds_quantify_subst ready.free _ ready.unbound
                (ready.uncaptured fresh), value]
              rw [Formula.holds_congr_of_agreement _ ((agree.mono kept).update x _)]
              exact picked w' origin)
          obtain ⟨K, r, further, truth⟩ := next
          refine ⟨K, r, (agrees.mono ?_).trans further, truth⟩
          rw [run_cons]
          refine List.Subset.trans ?_ (mapping_isPrefix_run _ _).subset
          rw [after]
          exact List.subset_append_right _ _

/-- At the start everything is ready, if the variables of the prefix are distinct and the
matrix has no quantifiers. -/
theorem ready_start {p : Prefix} {matrix : Formula} (distinct : (p.map Binder.name).Nodup)
    (free : matrix.boundNames = []) : (start p matrix).Ready p where
  matrix := List.subset_append_of_subset_left _ (List.subset_append_left _ _)
  universals := List.nil_subset _
  binders := List.subset_append_of_subset_left _ (List.subset_append_right _ _)
  distinct := distinct
  free := free

end State

end Skolemized

section

variable {p : Prefix} {matrix : Formula}

/-- The universal variables are those of the prefix, in order. -/
theorem universals_skolemize (p : Prefix) (matrix : Formula) :
    (skolemize p matrix).universals = p.universals :=
  Skolemized.State.universals_run (.start p matrix) p

/-- A Skolem form that is true for all values of its universal variables makes the prenex
formula true. -/
theorem holds_of_skolemize (distinct : (p.map Binder.name).Nodup)
    (free : matrix.boundNames = [])
    (holds : ∀ w, VariesOn (skolemize p matrix).universals v w →
      (skolemize p matrix).matrix.Holds M w) :
    (matrix.quantify p).Holds M v := by
  rw [universals_skolemize] at holds
  exact Skolemized.State.holds_of_run p (Skolemized.State.ready_start distinct free) holds

/-- A true prenex formula has a Skolem form that is true for all values of its universal
variables, once the symbols that head its witnesses are interpreted for it. -/
theorem exists_holds_skolemize (distinct : (p.map Binder.name).Nodup)
    (free : matrix.boundNames = []) (holds : (matrix.quantify p).Holds M v) :
    ∃ (N : Structure D) (u : Assignment D), AgreesOff (skolemize p matrix).mapping M v N u ∧
      ∀ w, VariesOn (skolemize p matrix).universals u w →
        (skolemize p matrix).matrix.Holds N w := by
  refine Skolemized.State.exists_holds_run p (Skolemized.State.ready_start distinct free) ?_
  intro w varies
  exact variesOn_nil.mp varies ▸ holds

end

end Clausal
