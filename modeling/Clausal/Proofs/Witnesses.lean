import Clausal.Proofs.Run

/-!
# Witnesses put in all at once

The witnesses of a Skolem form are put in one after the other, each into the matrix with the
earlier ones. Putting all of them in at once has the same result, since no variable that is
replaced occurs in a witness (`matrix_skolemize`). Normal forms are made without
looking into atoms, so terms can be put in before or after (`Formula.normalForm_subst`).
Hence the conjunctive normal form of the Skolem form is that of the matrix with the witnesses
put in (`NormalForms.skolemCnf_eq_subst`).
-/

namespace Clausal

namespace Substitution

/-- The substitution that does what two do one after the other. Entries of the second for
symbols of the first are never found. -/
def compose (s t : Substitution) : Substitution :=
  s.map (fun entry => (entry.1, entry.2.subst t)) ++ t

/-- A symbol is replaced first by the one substitution and then by the other. -/
theorem apply_compose (s t : Substitution) (x : String) :
    (s.compose t).apply x = (s.apply x).subst t := by
  induction s with
  | nil => rfl
  | cons head tail ih =>
      obtain ⟨y, u⟩ := head
      have split : compose ((y, u) :: tail) t = (y, u.subst t) :: compose tail t := rfl
      rw [split]
      by_cases same : x = y
      · subst same
        rw [apply_cons_self, apply_cons_self]
      · rw [apply_cons_of_ne _ _ same, apply_cons_of_ne _ _ same, ih]

end Substitution

mutual

theorem Term.subst_subst (s t : Substitution) : (u : Term) →
    (u.subst s).subst t = u.subst (s.compose t)
  | .sym x => (s.apply_compose t x).symm
  | .app name args => by
      rw [Term.subst, Term.subst, Term.subst, Term.substList_substList s t args]
  | .foreign _ => rfl

theorem Term.substList_substList (s t : Substitution) : (us : List Term) →
    Term.substList t (Term.substList s us) = Term.substList (s.compose t) us
  | [] => rfl
  | u :: us => by
      rw [Term.substList, Term.substList, Term.substList, Term.subst_subst s t u,
        Term.substList_substList s t us]

end

mutual

/-- A substitution that leaves the names of a term alone leaves the term as it is. -/
theorem Term.subst_eq_self {s : Substitution} : (u : Term) →
    (∀ y ∈ u.names, s.apply y = .sym y) → u.subst s = u
  | .sym y, fixed => fixed y List.mem_cons_self
  | .app name args, fixed => by
      rw [Term.subst, Term.substList_eq_self args fun y member =>
        fixed y (List.mem_cons_of_mem name member)]
  | .foreign _, _ => rfl

theorem Term.substList_eq_self {s : Substitution} : (us : List Term) →
    (∀ y ∈ Term.namesList us, s.apply y = .sym y) → Term.substList s us = us
  | [], _ => rfl
  | u :: us, fixed => by
      rw [Term.substList, Term.subst_eq_self u fun y member =>
        fixed y (List.mem_append_left _ member), Term.substList_eq_self us fun y member =>
        fixed y (List.mem_append_right _ member)]

end

/-- If a symbol occurs in no term of a substitution, putting a term in for it afterwards is
one more entry. -/
theorem Substitution.compose_single {s : Substitution} {x : String} (t : Term)
    (absent : ∀ entry ∈ s, x ∉ entry.2.names) : s.compose [(x, t)] = s ++ [(x, t)] := by
  have kept : s.map (fun entry => (entry.1, entry.2.subst [(x, t)])) = s := by
    have unchanged (entry : String × Term) (member : entry ∈ s) :
        (entry.1, entry.2.subst [(x, t)]) = entry := by
      refine Prod.ext rfl (Term.subst_eq_self entry.2 fun y named => ?_)
      have differ : y ≠ x := fun same => absent entry member (same ▸ named)
      rw [apply_cons_of_ne _ t differ, apply_nil]
    calc
      _ = s.map id := List.map_congr_left unchanged
      _ = s := List.map_id s
  rw [compose, kept]

theorem Atom.subst_subst (a : Atom) (s t : Substitution) :
    (a.subst s).subst t = a.subst (s.compose t) := by
  cases a with
  | pred name args =>
      have terms : Term.subst t ∘ Term.subst s = Term.subst (s.compose t) :=
        funext fun u => u.subst_subst s t
      rw [Atom.subst, Atom.subst, Atom.subst, List.map_map, terms]
  | relation r lhs rhs =>
      rw [Atom.subst, Atom.subst, Atom.subst, lhs.subst_subst, rhs.subst_subst]

namespace Formula

@[simp] theorem subst_junction (j : Junction) (f g : Formula) (s : Substitution) :
    (junction j f g).subst s = junction j (f.subst s) (g.subst s) := rfl

@[simp] theorem subst_nil (f : Formula) : f.subst [] = f := by
  have term (u : Term) : u.subst [] = u := u.subst_eq_self fun _ _ => rfl
  induction f with
  | atom a =>
      cases a with
      | pred name args =>
          rw [subst, Atom.subst, List.map_congr_left fun u _ => term u, List.map_id']
      | relation r lhs rhs => rw [subst, Atom.subst, term lhs, term rhs]
  | neg f ih => rw [subst, ih]
  | binary c f g ihf ihg => rw [subst, ihf, ihg]
  | quant q x f ih =>
      have none_left : Substitution.erase [] x = [] := rfl
      rw [subst, none_left, ih]

/-- Two substitutions one after the other, where no quantifier exempts a variable. -/
theorem subst_subst {f : Formula} (free : f.boundNames = []) (s t : Substitution) :
    (f.subst s).subst t = f.subst (s.compose t) := by
  induction f with
  | atom a => rw [subst, subst, subst, a.subst_subst]
  | neg f ih => rw [subst, subst, subst, ih free]
  | binary c f g ihf ihg =>
      obtain ⟨left, right⟩ := List.append_eq_nil_iff.mp free
      rw [subst, subst, subst, ihf left, ihg right]
  | quant q x f ih => exact absurd free (List.cons_ne_nil _ _)

/-- Entries may be put in one after the other if no term holds the symbol of a later entry. -/
theorem foldl_subst {f : Formula} (free : f.boundNames = []) {s : Substitution}
    (apart : s.Pairwise fun earlier later => later.1 ∉ earlier.2.names) :
    s.foldl (fun g entry => g.subst [entry]) f = f.subst s := by
  induction s using List.reverseRecOn with
  | nil => exact f.subst_nil.symm
  | append_singleton s entry ih =>
      obtain ⟨earlier, _, absent⟩ := List.pairwise_append.mp apart
      have single := Substitution.compose_single entry.2 fun other member =>
        absent other member entry (List.mem_singleton_self entry)
      rw [List.foldl_append, ih earlier, List.foldl_cons, List.foldl_nil, subst_subst free, single]

/-- A substitution makes no junction. -/
theorem Whole.subst {outer : Junction} {f : Formula} (whole : f.Whole outer) (s : Substitution) :
    (f.subst s).Whole outer := by
  intro a b same
  cases f with
  | binary c f g => exact whole f g (congrArg (Formula.binary · f g) (Formula.binary.inj same).1)
  | atom a => cases same
  | neg f => cases same
  | quant q x f => cases same

/-- Distribution over the left part commutes with replacing symbols. -/
theorem subst_distributeLeft (outer : Junction) (g f : Formula) (s : Substitution) :
    (distributeLeft outer g f).subst s = distributeLeft outer (g.subst s) (f.subst s) := by
  induction f using induction_outer outer with
  | split a b iha ihb =>
      rw [distributeLeft_outer, subst_junction, iha, ihb, subst_junction, distributeLeft_outer]
  | whole f whole =>
      rw [distributeLeft_whole g whole, distributeLeft_whole _ (whole.subst s), subst_junction]

/-- Distribution splits both formulas by their junctions alone, which a substitution keeps. -/
theorem subst_distribute (outer : Junction) (f g : Formula) (s : Substitution) :
    (distribute outer f g).subst s = distribute outer (f.subst s) (g.subst s) := by
  induction g using induction_outer outer with
  | split a b iha ihb =>
      rw [distribute_outer, subst_junction, iha, ihb, subst_junction, distribute_outer]
  | whole g whole =>
      rw [distribute_whole f whole, distribute_whole _ (whole.subst s), subst_distributeLeft]

/-- Steps towards a normal form are the same with other symbols. -/
theorem Normalizes.subst {outer : Junction} {f g : Formula} (normalizes : Normalizes outer f g)
    (s : Substitution) : Normalizes outer (f.subst s) (g.subst s) := by
  induction normalizes with
  | atom a => exact .atom (a.subst s)
  | literal a => exact .literal (a.subst s)
  | outer _ _ ihf ihg => exact .outer ihf ihg
  | inner _ _ ihf ihg =>
      rw [subst_distribute]
      exact .inner ihf ihg

/-- The normal form of a formula with terms put in is its normal form with them put in. -/
theorem normalForm_subst {outer : Junction} {f g : Formula} (tree : f.IsLiteralTree)
    (found : f.normalForm outer = .ok g) (s : Substitution) :
    (f.subst s).normalForm outer = .ok (g.subst s) :=
  ((normalizes_of_normalForm tree found).subst s).normalForm

end Formula

/-- The existentially quantified variables, from the outside to the inside. -/
def Prefix.existentials (p : Prefix) : List String :=
  (p.filter fun b => b.quantifier = .ex).map Binder.name

/-- A variable is not quantified in both ways if all variables are different. -/
theorem Prefix.not_mem_universals {p : Prefix} (distinct : (p.map Binder.name).Nodup) {x : String}
    (existential : x ∈ p.existentials) : x ∉ p.universals := by
  intro universal
  obtain ⟨b, left, named⟩ := List.mem_map.mp existential
  obtain ⟨c, right, found⟩ := List.mem_filterMap.mp universal
  obtain ⟨inside, ex⟩ := List.mem_filter.mp left
  by_cases all : c.quantifier = .all
  · rw [if_pos all, Option.some.injEq] at found
    obtain rfl := List.inj_on_of_nodup_map distinct inside right (named.trans found.symm)
    rw [all] at ex
    cases ex
  · rw [if_neg all] at found
    cases found

namespace Skolemized

namespace State

/-- A run puts the witnesses in one after the other. -/
theorem matrix_run_eq_foldl (p : Prefix) {s : State} {matrix : Formula}
    (same : s.result.matrix = s.result.mapping.foldl (fun f entry => f.subst [entry]) matrix) :
    (s.run p).result.matrix =
      (s.run p).result.mapping.foldl (fun f entry => f.subst [entry]) matrix :=
  run_induction
    (motive := fun t _ =>
      t.result.matrix = t.result.mapping.foldl (fun f entry => f.subst [entry]) matrix)
    (fun _ _ _ same => same)
    (fun t x _ name _ _ _ same => by
      rw [witnessed, List.foldl_append, ← same]
      rfl) p same

/-- Variables that are in use and are not set aside, now or later, occur in no witness. -/
structure Avoids (s : State) (xs : List String) (p : Prefix) : Prop where
  used : xs ⊆ s.used
  universals : ∀ x ∈ xs, x ∉ s.result.universals ++ p.universals
  mapping : ∀ entry ∈ s.result.mapping, ∀ x ∈ xs, x ∉ entry.2.names

namespace Avoids

variable {s : State} {xs : List String} {p : Prefix} {x : String}

/-- A universal quantifier brings in no variable that is avoided. -/
theorem all (avoids : s.Avoids xs (⟨.all, x⟩ :: p)) : (s.step ⟨.all, x⟩).Avoids xs p where
  used := avoids.used
  universals y member := by
    rw [step_all, List.append_assoc]
    exact avoids.universals y member
  mapping := avoids.mapping

/-- A witness with a fresh name brings in no variable that is avoided. -/
theorem ex {name : String} {constants functions : Int} (fresh : name ∉ s.used)
    (avoids : s.Avoids xs (⟨.ex, x⟩ :: p)) :
    (s.witnessed x name constants functions).Avoids xs p where
  used := List.subset_cons_of_subset _ avoids.used
  universals := avoids.universals
  mapping := by
    refine List.forall_mem_append.mpr ⟨avoids.mapping, ?_⟩
    refine List.forall_mem_singleton.mpr fun y member inside => ?_
    rcases List.mem_cons.mp (Term.names_applied_subset name _ inside) with same | universal
    · exact fresh (same ▸ avoids.used member)
    · exact avoids.universals y member (List.mem_append_left _ universal)

/-- All steps avoid the variables. -/
theorem run (avoids : s.Avoids xs p) : (s.run p).Avoids xs [] :=
  run_induction (motive := fun t r => t.Avoids xs r) (fun _ _ _ => all)
    (fun _ _ _ _ _ _ fresh => ex fresh) p avoids

end Avoids

/-- At the start the existential variables occur in no witness. -/
theorem avoids_start {p : Prefix} (distinct : (p.map Binder.name).Nodup) (matrix : Formula) :
    (start p matrix).Avoids p.existentials p where
  used x existential := by
    obtain ⟨b, inside, named⟩ := List.mem_map.mp existential
    have bound := List.mem_map_of_mem (f := Binder.name) (List.mem_filter.mp inside).1
    exact List.mem_append_left _ (List.mem_append_right _ (named ▸ bound))
  universals _ existential := Prefix.not_mem_universals distinct existential
  mapping := List.forall_mem_nil _

/-- A run adds one witness for every existential quantifier, in order. -/
theorem map_fst_mapping_run (s : State) (p : Prefix) :
    (s.run p).result.mapping.map Prod.fst = s.result.mapping.map Prod.fst ++ p.existentials := by
  have listed := run_induction (s := s)
    (motive := fun t r => t.result.mapping.map Prod.fst ++ Prefix.existentials r =
      s.result.mapping.map Prod.fst ++ p.existentials)
    (fun _ _ _ same => same)
    (fun t x r _ _ _ _ same => by
      rw [witnessed, List.map_append, List.append_assoc]
      exact same) p rfl
  rwa [Prefix.existentials, List.filter_nil, List.map_nil, List.append_nil] at listed

end State

end Skolemized

section

variable {p : Prefix} {matrix : Formula}

/-- The witnesses stand for the existential variables, in order. -/
theorem map_fst_mapping_skolemize (p : Prefix) (matrix : Formula) :
    (skolemize p matrix).mapping.map Prod.fst = p.existentials :=
  Skolemized.State.map_fst_mapping_run (.start p matrix) p

/-- No variable that is replaced occurs in a witness. -/
theorem not_mem_names_mapping_skolemize (distinct : (p.map Binder.name).Nodup) (matrix : Formula)
    {x : String} (existential : x ∈ p.existentials) :
    ∀ entry ∈ (skolemize p matrix).mapping, x ∉ entry.2.names := fun entry member =>
  (Skolemized.State.avoids_start distinct matrix).run.mapping entry member x existential

/-- The matrix with witnesses is found by putting them in one after the other. -/
theorem matrix_skolemize_eq_foldl (p : Prefix) (matrix : Formula) :
    (skolemize p matrix).matrix =
      (skolemize p matrix).mapping.foldl (fun f entry => f.subst [entry]) matrix :=
  Skolemized.State.matrix_run_eq_foldl p (s := .start p matrix) rfl

/-- The matrix of a Skolem form is the matrix with all witnesses put in at once. -/
theorem matrix_skolemize (distinct : (p.map Binder.name).Nodup) (free : matrix.boundNames = []) :
    (skolemize p matrix).matrix = matrix.subst (skolemize p matrix).mapping := by
  rw [matrix_skolemize_eq_foldl]
  refine Formula.foldl_subst free ?_
  refine List.pairwise_of_forall_mem_list fun earlier put later member => ?_
  refine not_mem_names_mapping_skolemize distinct matrix ?_ earlier put
  rw [← map_fst_mapping_skolemize p matrix]
  exact List.mem_map_of_mem member

/-- No variable has two witnesses. -/
theorem nodup_mapping_skolemize (distinct : (p.map Binder.name).Nodup) (matrix : Formula) :
    ((skolemize p matrix).mapping.map Prod.fst).Nodup := by
  rw [map_fst_mapping_skolemize]
  exact distinct.sublist (List.filter_sublist.map _)

end

namespace NormalForms

namespace Staged

variable {r : NormalForms}

/-- No variable has two witnesses. -/
theorem nodup_mapping (staged : r.Staged) : (r.skolem.mapping.map Prod.fst).Nodup := by
  rw [staged.skolem]
  exact nodup_mapping_skolemize staged.nodup_binders r.matrix

/-- The two ways to the conjunctive normal form of the Skolem form meet: the witnesses can be
put in before the distribution or after it. -/
theorem skolemCnf_eq_subst (staged : r.Staged) :
    r.skolemCnf = r.cnf.subst r.skolem.mapping := by
  have tree := staged.isLiteralTree_matrix
  have atOnce : r.skolem.matrix = r.matrix.subst r.skolem.mapping := by
    rw [staged.skolem]
    exact matrix_skolemize staged.nodup_binders tree.boundNames_eq_nil
  have after : r.skolem.matrix.cnf = .ok (r.cnf.subst r.skolem.mapping) := by
    rw [atOnce]
    exact Formula.normalForm_subst tree staged.cnf r.skolem.mapping
  exact Except.ok.inj (staged.skolemCnf.symm.trans after)

end Staged

/-- The Skolem form of a text has the conjunctive normal form of the matrix with all witnesses
put in at once. In general both normal forms of literals under junctions are those of the
formula after a substitution, once the terms are put in there as well. -/
theorem skolemCnf_of_parse :
    (∀ (text : String) (f : Formula), Formula.parse text = .ok f →
      ∃ r : NormalForms, r.given = f ∧ ComesTo text r ∧
        (r.skolem.mapping.map Prod.fst).Nodup ∧
        r.skolemCnf = r.cnf.subst r.skolem.mapping) ∧
      ∀ (m : Formula) (s : Substitution), m.IsLiteralTree →
        ∃ c d, m.cnf = .ok c ∧ m.dnf = .ok d ∧
          (m.subst s).cnf = .ok (c.subst s) ∧ (m.subst s).dnf = .ok (d.subst s) := by
  refine ⟨fun text f read => ?_, fun m s tree => ?_⟩
  · obtain ⟨r, same, staged, run⟩ := exists_comesTo read
    exact ⟨r, same, run, staged.nodup_mapping, staged.skolemCnf_eq_subst⟩
  · obtain ⟨c, cnf⟩ := Formula.exists_normalForm .and tree
    obtain ⟨d, dnf⟩ := Formula.exists_normalForm .or tree
    exact ⟨c, d, cnf, dnf, Formula.normalForm_subst tree cnf s,
      Formula.normalForm_subst tree dnf s⟩

/-- Two witnesses, of which the second depends on a universal variable, in a disjunction that
is distributed; and a substitution that exchanges two symbols. -/
theorem skolemCnf_of_parse_two :
    (∃ r : NormalForms,
      Formula.parse "∃x ∀y ∃z (P(x, z) ∨ Q(y) ∧ x = z)" = .ok r.given ∧
        (∃ limit, ∀ threshold, ((ofText limit
          "∃x ∀y ∃z (P(x, z) ∨ Q(y) ∧ x = z)").runWith threshold).1 = .ok r) ∧
        r.skolemCnf = r.cnf.subst r.skolem.mapping) ∧
      ((Formula.or (.atom (.pred "P" [.sym "x"]))
          (.and (.atom (.pred "Q" [.sym "y"])) (.atom (.pred "R" [.sym "z"])))).subst
            [("x", .sym "y"), ("y", .sym "x")]).cnf =
        .ok (.and (.or (.atom (.pred "P" [.sym "y"])) (.atom (.pred "Q" [.sym "x"])))
          (.or (.atom (.pred "P" [.sym "y"])) (.atom (.pred "R" [.sym "z"])))) := by
  have read : Formula.parse "∃x ∀y ∃z (P(x, z) ∨ Q(y) ∧ x = z)" =
      .ok (.quant .ex "x" (.quant .all "y" (.quant .ex "z"
        (.or (.atom (.pred "P" [.sym "x", .sym "z"]))
          (.and (.atom (.pred "Q" [.sym "y"]))
            (.atom (.relation .eq (.sym "x") (.sym "z")))))))) := by
    decide +kernel
  obtain ⟨r, same, run, _, meet⟩ := skolemCnf_of_parse.1 _ _ read
  obtain ⟨c, d, cnf, _, exchanged, _⟩ := skolemCnf_of_parse.2
    (.or (.atom (.pred "P" [.sym "x"]))
      (.and (.atom (.pred "Q" [.sym "y"])) (.atom (.pred "R" [.sym "z"]))))
    [("x", .sym "y"), ("y", .sym "x")] ⟨trivial, trivial, trivial⟩
  obtain rfl := Except.ok.inj cnf
  exact ⟨⟨r, same ▸ read, run.exists_returned, meet⟩, exchanged⟩

end NormalForms

end Clausal
