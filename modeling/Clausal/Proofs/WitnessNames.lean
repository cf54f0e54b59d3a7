import Clausal.Proofs.Removal
import Clausal.Proofs.Witnesses

/-!
# Names of witnesses

The constants of a Skolem form carry the first numbers whose names are free, and so do its
functions. The search for a name goes on from the last number with the same stem, and a name that
was made for a witness counts as used from then on. Neither can be seen in the result: a number is
skipped exactly if its name was reserved at the start (`Counted.mint`), and a name with one stem
never stands in the way of the other stem (`Counted.other`). So the two numberings do not depend on
each other (`Skolemized.witnessNames_spec`).
-/

namespace Clausal

/-- A positive number that makes a name with the stem which is not taken. -/
def Unreserved (stem : String) (taken : List String) (n : Nat) : Prop :=
  0 < n ∧ numbered stem n ∉ taken

instance (stem : String) (taken : List String) : DecidablePred (Unreserved stem taken) :=
  fun _ => inferInstanceAs (Decidable (_ ∧ _))

/-- The name with the stem and the free number at an index, counted from zero. -/
noncomputable def freeName (stem : String) (taken : List String) (index : Nat) : String :=
  numbered stem (Nat.nth (Unreserved stem taken) index)

section

variable (stem : String) (taken : List String)

/-- There are always numbers left for a stem. -/
theorem infinite_unreserved : {n | Unreserved stem taken n}.Infinite := by
  refine Set.infinite_of_forall_exists_gt fun n => ?_
  obtain ⟨k, _, free⟩ := exists_unused stem taken (n + 1)
  refine ⟨n + 1 + k, ⟨by omega, ?_⟩, by omega⟩
  push_cast
  exact free

/-- A free name is not one of those that are taken. -/
theorem freeName_not_mem (index : Nat) : freeName stem taken index ∉ taken :=
  (Nat.nth_mem_of_infinite (infinite_unreserved stem taken) index).2

/-- The free names of a stem are different. -/
theorem freeName_injective : Function.Injective (freeName stem taken) := by
  intro i j same
  refine Nat.nth_injective (infinite_unreserved stem taken) ?_
  exact Int.ofNat_inj.mp (numbered_injective stem same)

end

/-- The counter of a stem has passed as many free numbers as names were made. Of the names above
it, those are in use that were taken at the start. -/
structure Counted (stem : String) (taken used : List String) (counter : Int) (made : Nat) :
    Prop where
  passed : ∃ n : Nat, counter = n ∧ Nat.count (Unreserved stem taken) (n + 1) = made
  above : ∀ m, counter < m → (numbered stem m ∈ used ↔ numbered stem m ∈ taken)

namespace Counted

variable {stem : String} {taken used : List String} {counter : Int} {made : Nat}

theorem start (stem : String) (taken : List String) : Counted stem taken taken 0 0 where
  passed := ⟨0, rfl, by rw [Nat.count_succ, Nat.count_zero, if_neg fun free => lt_irrefl 0 free.1]⟩
  above _ _ := Iff.rfl

/-- The next name has the next free number. -/
theorem mint (counted : Counted stem taken used counter made) :
    (mint stem counter used).name = freeName stem taken made ∧
      Counted stem taken (mint stem counter used).used (mint stem counter used).counter
        (made + 1) := by
  obtain ⟨n, rfl, count⟩ := counted.passed
  obtain ⟨above, free, passed⟩ := nextUnused_spec stem used n
  obtain ⟨d, found⟩ : ∃ d : Nat, nextUnused stem used n = (n + 1 + d : Nat) :=
    ⟨(nextUnused stem used n - n - 1).toNat, by omega⟩
  rw [found] at above free passed
  have unreserved : Unreserved stem taken (n + 1 + d) :=
    ⟨by omega, fun member => free ((counted.above _ above).mpr member)⟩
  -- What lies between is in use, and above the counter that means it was taken at the start.
  have between : ∀ j, j < d → ¬Unreserved stem taken (n + 1 + j) := fun j below unreserved =>
    unreserved.2 ((counted.above _ (by omega)).mp (passed _ (by omega) (by omega)))
  have reached : Nat.count (Unreserved stem taken) (n + 1 + d) = made := by
    rw [Nat.count_add, count, Nat.count_of_forall_not between, add_zero]
  have number : Nat.nth (Unreserved stem taken) made = n + 1 + d := by
    rw [← reached, Nat.nth_count unreserved]
  constructor
  · rw [freeName, number, ← found]
    rfl
  · refine ⟨⟨n + 1 + d, found, ?_⟩, fun m beyond => ?_⟩
    · rw [Nat.count_succ, reached, if_pos unreserved]
    · change nextUnused stem used n < m at beyond
      change numbered stem m ∈ numbered stem (nextUnused stem used n) :: used ↔ _
      rw [List.mem_cons, counted.above m (by omega)]
      refine or_iff_right fun same => ?_
      rw [numbered_injective stem same] at beyond
      exact lt_irrefl _ beyond

/-- Another stem does not see the name. -/
theorem other {name : String} (counted : Counted stem taken used counter made)
    (apart : ∀ m, numbered stem m ≠ name) : Counted stem taken (name :: used) counter made where
  passed := counted.passed
  above m beyond := by rw [List.mem_cons, counted.above m beyond, or_iff_right (apart m)]

end Counted

namespace Prefix

/-- The existentially quantified variables without a universal quantifier to their left. -/
def independents (p : Prefix) : List String :=
  (p.takeWhile fun b => b.quantifier = .ex).map Binder.name

/-- The existentially quantified variables with a universal quantifier to their left. -/
def dependents (p : Prefix) : List String :=
  existentials (p.dropWhile fun b => b.quantifier = .ex)

/-- A variable is independent until the first universal quantifier and dependent from there on. -/
theorem independents_append_dependents (p : Prefix) :
    p.independents ++ p.dependents = p.existentials := by
  induction p with
  | nil => rfl
  | cons b p ih =>
      obtain ⟨q, x⟩ := b
      cases q with
      | all => rfl
      | ex => exact congrArg (x :: ·) ih

end Prefix

namespace Skolemized

/-- The variables whose witnesses are constants, with the constants. -/
def constants (r : Skolemized) : List (String × String) :=
  r.mapping.filterMap fun (x, t) =>
    match t with
    | .sym name => some (x, name)
    | _ => none

/-- The variables whose witnesses are headed by functions, with the names of the functions. -/
def functions (r : Skolemized) : List (String × String) :=
  r.mapping.filterMap fun (x, t) =>
    match t with
    | .app name _ => some (x, name)
    | _ => none

/-- No name has both stems. -/
theorem numbered_constantStem_ne (m n : Int) :
    numbered constantStem m ≠ numbered functionStem n := by
  intro same
  have texts := congrArg String.toList same
  simp [numbered, constantStem, functionStem] at texts

/-- The variables with free names in order. -/
noncomputable def inOrder (stem : String) (taken xs : List String) : List (String × String) :=
  xs.mapIdx fun i x => (x, freeName stem taken i)

namespace State

/-- The first free names for constants are those of the witnesses of some variables so far, the
first ones for functions those of others, and both counters agree with that. -/
structure Named (taken : List String) (s : State) (xs ys : List String) : Prop where
  constants : s.result.constants = inOrder constantStem taken xs
  functions : s.result.functions = inOrder functionStem taken ys
  constantsCounted : Counted constantStem taken s.used s.constants xs.length
  functionsCounted : Counted functionStem taken s.used s.functions ys.length

namespace Named

variable {taken xs ys : List String} {s : State} {x : String}

/-- A witness without arguments gets the next free name of a constant. -/
theorem constant (named : Named taken s xs ys) (leading : s.result.universals = []) :
    Named taken (s.step ⟨.ex, x⟩) (xs ++ [x]) ys := by
  obtain ⟨name, counted⟩ := named.constantsCounted.mint
  rw [step_ex_constant leading]
  refine ⟨?_, ?_, ?_, ?_⟩
  · rw [Skolemized.constants, witnessed, List.filterMap_append, leading, name]
    rw [inOrder, List.mapIdx_concat]
    exact congrArg (· ++ _) named.constants
  · rw [Skolemized.functions, witnessed, List.filterMap_append, leading]
    exact (List.append_nil _).trans named.functions
  · rw [List.length_append]
    exact counted
  · exact named.functionsCounted.other fun m same => numbered_constantStem_ne _ m same.symm

/-- A witness with arguments gets the next free name of a function. -/
theorem function (named : Named taken s xs ys) (below : s.result.universals ≠ []) :
    Named taken (s.step ⟨.ex, x⟩) xs (ys ++ [x]) := by
  obtain ⟨name, counted⟩ := named.functionsCounted.mint
  obtain ⟨u, us, universals⟩ := List.exists_cons_of_ne_nil below
  rw [step_ex_function below]
  refine ⟨?_, ?_, ?_, ?_⟩
  · rw [Skolemized.constants, witnessed, List.filterMap_append, universals]
    exact (List.append_nil _).trans named.constants
  · rw [Skolemized.functions, witnessed, List.filterMap_append, universals, name]
    rw [inOrder, List.mapIdx_concat]
    exact congrArg (· ++ _) named.functions
  · exact named.constantsCounted.other fun m same => numbered_constantStem_ne m _ same
  · rw [List.length_append]
    exact counted

/-- A universal quantifier needs no name. -/
theorem all (named : Named taken s xs ys) : Named taken (s.step ⟨.all, x⟩) xs ys :=
  ⟨named.constants, named.functions, named.constantsCounted, named.functionsCounted⟩

/-- Behind a universal quantifier all witnesses are headed by functions. -/
theorem run_below (named : Named taken s xs ys) (below : s.result.universals ≠ []) (p : Prefix) :
    Named taken (s.run p) xs (ys ++ p.existentials) := by
  induction p generalizing s ys with
  | nil => rwa [run_nil, Prefix.existentials, List.filter_nil, List.map_nil, List.append_nil]
  | cons b p ih =>
      obtain ⟨q, x⟩ := b
      cases q with
      | all => exact ih named.all (List.append_ne_nil_of_left_ne_nil below [x])
      | ex =>
          have still : (s.step ⟨.ex, x⟩).result.universals ≠ [] := by rwa [step_ex_function below]
          have rest := ih (named.function below) still
          rwa [List.append_assoc] at rest

/-- Up to the first universal quantifier all witnesses are constants. -/
theorem run (named : Named taken s xs ys) (leading : s.result.universals = []) (p : Prefix) :
    Named taken (s.run p) (xs ++ p.independents) (ys ++ p.dependents) := by
  induction p generalizing s xs with
  | nil =>
      rw [Prefix.independents, Prefix.dependents, Prefix.existentials]
      simpa using named
  | cons b p ih =>
      obtain ⟨q, x⟩ := b
      cases q with
      | all =>
          have below : (s.step ⟨.all, x⟩).result.universals ≠ [] :=
            List.append_ne_nil_of_right_ne_nil _ (List.cons_ne_nil x [])
          have independents : Prefix.independents (⟨.all, x⟩ :: p) = [] := rfl
          rw [independents, List.append_nil]
          exact named.all.run_below below p
      | ex =>
          have still : (s.step ⟨.ex, x⟩).result.universals = [] := by rwa [step_ex_constant leading]
          have rest := ih (named.constant leading) still
          rwa [List.append_assoc] at rest

end Named

end State

/-- The names that are given out in order are the first free ones. -/
theorem map_snd_inOrder (stem : String) (taken xs : List String) :
    (inOrder stem taken xs).map Prod.snd = (List.range xs.length).map (freeName stem taken) := by
  refine List.ext_getElem ?_ fun i _ _ => ?_ <;> simp [inOrder]

/-- The names that witnesses avoid are the symbols, the functions and the predicates of the matrix
and the variables that are quantified there or in the prefix. -/
theorem mem_reserved {p : Prefix} {matrix : Formula} {name : String} :
    name ∈ reserved p matrix ↔
      name ∈ matrix.boundNames ∨ name ∈ matrix.symbols ∨ name ∈ matrix.functions ∨
        name ∈ matrix.predicates ∨ name ∈ p.map Binder.name := by
  rw [reserved, List.mem_append, List.mem_append, Formula.mem_names]
  tauto

/-- The Skolem form of any prefix and any matrix has one witness for every existential variable, in
the order of the prefix: constants as long as no universal quantifier stands to the left, and
functions from there on. The constants carry the first numbers whose names are not reserved, and
the functions do so independently of them. Reserved are the symbols, functions and predicates of
the matrix and all quantified variables. So no witness has the name of another one or a reserved
name. There is such a Skolem form whenever the matrix holds no values from outside, and it is the
one on worksheets if the matrix is lawful. -/
theorem witnessNames_spec (p : Prefix) (matrix : Formula) :
    (matrix.foreignValues = [] → skolemize? p matrix = .ok (skolemize p matrix)) ∧
      (matrix.Lawful → Worksheet.skolemizeBy (.ofPrefix p) matrix =
        .ok (Worksheet.ofSkolemized (skolemize p matrix))) ∧
      (∀ name, name ∈ reserved p matrix ↔
        name ∈ matrix.boundNames ∨ name ∈ matrix.symbols ∨ name ∈ matrix.functions ∨
          name ∈ matrix.predicates ∨ name ∈ p.map Binder.name) ∧
      (skolemize p matrix).mapping.map Prod.fst = p.independents ++ p.dependents ∧
      (skolemize p matrix).constants = inOrder "sk_c" (reserved p matrix) p.independents ∧
      (skolemize p matrix).functions = inOrder "sk_f" (reserved p matrix) p.dependents ∧
      (((skolemize p matrix).constants ++ (skolemize p matrix).functions).map Prod.snd).Nodup ∧
      ∀ name ∈ ((skolemize p matrix).constants ++ (skolemize p matrix).functions).map Prod.snd,
        name ∉ reserved p matrix := by
  have start : State.Named (reserved p matrix) (.start p matrix) [] [] :=
    ⟨rfl, rfl, .start _ _, .start _ _⟩
  have named : State.Named (reserved p matrix) ((State.start p matrix).run p) p.independents
      p.dependents := start.run rfl p
  have constants : (skolemize p matrix).constants = _ := named.constants
  have functions : (skolemize p matrix).functions = _ := named.functions
  have names : ((skolemize p matrix).constants ++ (skolemize p matrix).functions).map Prod.snd =
      (List.range p.independents.length).map (freeName constantStem (reserved p matrix)) ++
        (List.range p.dependents.length).map (freeName functionStem (reserved p matrix)) := by
    rw [constants, functions, List.map_append, map_snd_inOrder, map_snd_inOrder]
  refine ⟨skolemize?_of_foreignValues_eq_nil p, Worksheet.skolemizeBy_ofPrefix p,
    fun _ => mem_reserved, ?_, constants, functions, ?_, ?_⟩
  · rw [map_fst_mapping_skolemize, p.independents_append_dependents]
  · rw [names]
    refine List.nodup_append.mpr ⟨?_, ?_, ?_⟩
    · exact List.nodup_range.map (freeName_injective _ _)
    · exact List.nodup_range.map (freeName_injective _ _)
    · intro a first b second same
      obtain ⟨i, _, rfl⟩ := List.mem_map.mp first
      obtain ⟨j, _, rfl⟩ := List.mem_map.mp second
      exact numbered_constantStem_ne _ _ same
  · rw [names]
    intro name member
    rcases List.mem_append.mp member with constant | function
    · obtain ⟨i, _, rfl⟩ := List.mem_map.mp constant
      exact freeName_not_mem _ _ i
    · obtain ⟨i, _, rfl⟩ := List.mem_map.mp function
      exact freeName_not_mem _ _ i

/-- Names of predicates and functions of the matrix and a variable of the prefix are left out. -/
example :
    let r := skolemize [⟨.ex, "a"⟩, ⟨.ex, "sk_c2"⟩, ⟨.all, "x"⟩, ⟨.ex, "y"⟩]
      (.atom (.pred "sk_c1" [.sym "a", .app "sk_f1" [.sym "y"]]))
    r.constants = [("a", "sk_c3"), ("sk_c2", "sk_c4")] ∧ r.functions = [("y", "sk_f2")] := by
  decide

end Skolemized

end Clausal
