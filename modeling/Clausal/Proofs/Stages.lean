import Clausal.NormalForms
import Clausal.Proofs.Logging
import Clausal.Proofs.Semantics.Clause
import Clausal.Proofs.Semantics.Nameless
import Clausal.Proofs.Semantics.Skolem

/-!
# The stages of a computation

The forms of a formula are related as the passes compute them (`NormalForms.Staged`).
Every formula has such forms: no pass can fail on what the passes before it made
(`NormalForms.exists_staged`). They are what is computed for a formula without values
from outside, whatever is logged on the way (`NormalForms.Staged.settles`).
-/

namespace Clausal

namespace Term

mutual

/-- Putting terms of the logic in brings no value from outside in. -/
theorem foreignValues_subst {s : Substitution} (logical : ∀ x, (s.apply x).foreignValues = []) :
    (t : Term) → (t.subst s).foreignValues = t.foreignValues
  | .sym x => logical x
  | .app _ args => foreignValuesList_substList logical args
  | .foreign _ => rfl

/-- Replacing symbols by terms of the logic keeps the foreign values of arguments. -/
theorem foreignValuesList_substList {s : Substitution}
    (logical : ∀ x, (s.apply x).foreignValues = []) :
    (ts : List Term) → foreignValuesList (Term.substList s ts) = foreignValuesList ts
  | [] => rfl
  | t :: ts => by
      rw [Term.substList, foreignValuesList, foreignValuesList, foreignValues_subst logical t,
        foreignValuesList_substList logical ts]

end

end Term

theorem Atom.foreignValues_subst {s : Substitution}
    (logical : ∀ x, (s.apply x).foreignValues = []) (a : Atom) :
    (a.subst s).foreignValues = a.foreignValues := by
  rw [foreignValues, foreignValues, terms_subst, List.flatMap_map]
  exact congrArg List.flatten (List.map_congr_left fun t _ => t.foreignValues_subst logical)

namespace Formula

/-- Standardizing apart brings no value from outside in. -/
theorem foreignValues_apart (f : Formula) : f.apart.foreignValues = f.foreignValues := by
  refine f.flatMap_atoms_renameApart (fun s renames a => a.foreignValues_subst fun x => ?_)
    .nil f.names
  obtain ⟨y, put⟩ := renames x
  rw [put]
  rfl

/-- Neither pass towards negation normal form brings a value from outside in. -/
theorem foreignValues_nnf_withoutArrows {f : Formula} (empty : f.foreignValues = []) :
    (f.withoutArrows.nnf false).foreignValues = [] := by
  rw [foreignValues_eq_nil_iff] at empty ⊢
  intro a member
  rw [collects_atoms.mem_nnf, collects_atoms.mem_withoutArrows] at member
  exact empty a member

theorem withTerms_of_foreignValues_eq_nil {f : Formula} (empty : f.foreignValues = []) :
    f.withTerms = .ok f := by
  rw [withTerms, empty]
  rfl

/-- Without values from outside a formula can be standardized apart. -/
theorem apart?_of_foreignValues_eq_nil {f : Formula} (empty : f.foreignValues = []) :
    f.apart? = .ok f.apart := by
  rw [apart?, withTerms_of_foreignValues_eq_nil empty]
  rfl

theorem mapError_eq_ok_iff {α ε δ : Type} {x : Except ε α} {g : ε → δ} {a : α} :
    x.mapError g = .ok a ↔ x = .ok a := by
  cases x <;> simp [Except.mapError]

theorem mapError_eq_error_iff {α ε δ : Type} {x : Except ε α} {g : ε → δ} {d : δ} :
    x.mapError g = .error d ↔ ∃ e, x = .error e ∧ d = g e := by
  cases x <;> simp [Except.mapError, eq_comm]

/-- A conjunctive form that is found needs no message. -/
theorem cnf?_of_cnf {f g : Formula} (found : f.cnf = .ok g) : f.cnf? = .ok g :=
  mapError_eq_ok_iff.mpr found

theorem dnf?_of_dnf {f g : Formula} (found : f.dnf = .ok g) : f.dnf? = .ok g :=
  mapError_eq_ok_iff.mpr found

/-- Clauses that are found need no message. -/
theorem clauses?_of_clauses {f : Formula} {cs : List Clause} (listed : f.clauses = .ok cs) :
    f.clauses? = .ok cs :=
  mapError_eq_ok_iff.mpr listed

/-- The trees of literals are the negation normal forms without quantifiers. -/
theorem isLiteralTree_iff {f : Formula} : f.IsLiteralTree ↔ f.IsNNF ∧ f.boundNames = [] := by
  constructor
  · intro tree
    induction f, tree using IsLiteralTree.induction with
    | atom a => exact ⟨trivial, rfl⟩
    | literal a => exact ⟨trivial, rfl⟩
    | junction j f g left right ihf ihg =>
        exact ⟨⟨ihf.1, ihg.1⟩, List.append_eq_nil_iff.mpr ⟨ihf.2, ihg.2⟩⟩
  · rintro ⟨normal, free⟩
    induction f, normal using IsNNF.induction with
    | atom a => trivial
    | literal a => trivial
    | junction j f g left right ihf ihg =>
        obtain ⟨freeLeft, freeRight⟩ := List.append_eq_nil_iff.mp free
        exact ⟨ihf freeLeft, ihg freeRight⟩
    | quant q x f scope ih => exact absurd free (List.cons_ne_nil _ _)

/-- Without its quantifiers a negation normal form is a tree of literals. -/
theorem isLiteralTree_bare {f : Formula} (normal : f.IsNNF) : f.bare.IsLiteralTree :=
  isLiteralTree_iff.mpr ⟨normal.bare, f.boundNames_bare⟩

theorem IsLiteralTree.boundNames_eq_nil {f : Formula} (tree : f.IsLiteralTree) :
    f.boundNames = [] :=
  (isLiteralTree_iff.mp tree).2

/-- A tree of literals stays one when symbols are replaced. -/
theorem IsLiteralTree.subst {f : Formula} (tree : f.IsLiteralTree) (s : Substitution) :
    (f.subst s).IsLiteralTree := by
  induction f, tree using IsLiteralTree.induction with
  | atom a => trivial
  | literal a => trivial
  | junction j f g left right ihf ihg => exact ⟨ihf, ihg⟩

end Formula

/-- Without values from outside in its matrix a prenex formula has a Skolem form. -/
theorem skolemize?_of_foreignValues_eq_nil (p : Prefix) {matrix : Formula}
    (empty : matrix.foreignValues = []) :
    skolemize? p matrix = .ok (skolemize p matrix) := by
  rw [skolemize?, Formula.withTerms_of_foreignValues_eq_nil empty]
  rfl

/-- Putting witnesses in keeps a tree of literals. -/
theorem Skolemized.State.isLiteralTree_run (p : Prefix) {s : State}
    (tree : s.result.matrix.IsLiteralTree) : (s.run p).result.matrix.IsLiteralTree :=
  run_induction (motive := fun t _ => t.result.matrix.IsLiteralTree) (fun _ _ _ still => still)
    (fun _ _ _ _ _ _ _ still => still.subst _) p tree

/-- With witnesses a tree of literals is still one. -/
theorem isLiteralTree_skolemize (p : Prefix) {matrix : Formula} (tree : matrix.IsLiteralTree) :
    (skolemize p matrix).matrix.IsLiteralTree :=
  Skolemized.State.isLiteralTree_run p (s := .start p matrix) tree

namespace NormalForms

/-- Every form is what its pass makes of the earlier ones. -/
structure Staged (r : NormalForms) : Prop where
  arrowless : r.arrowless = r.given.withoutArrows
  nnf : r.nnf = r.arrowless.nnf false
  apart : r.apart = r.nnf.apart
  prenex : r.apart.prenex = (r.binders, r.matrix)
  cnf : r.matrix.cnf = .ok r.cnf
  dnf : r.matrix.dnf = .ok r.dnf
  skolem : r.skolem = skolemize r.binders r.matrix
  skolemCnf : r.skolem.matrix.cnf = .ok r.skolemCnf
  clauses : r.skolemCnf.clauses = .ok r.clauses
  horn : r.horn = .ofClauses r.clauses

namespace Staged

variable {r : NormalForms}

/-- Renaming apart keeps the negation normal form. -/
theorem isNNF_apart (staged : r.Staged) : r.apart.IsNNF := by
  rw [staged.apart, staged.nnf]
  exact Formula.isNNF_apart (Formula.isNNF_nnf _ _)

/-- The prefix consists of the quantifiers of the renamed formula. -/
theorem binders_eq (staged : r.Staged) : r.binders = r.apart.binders :=
  congrArg Prod.fst (staged.prenex.symm.trans (Formula.prenex_of_isNNF staged.isNNF_apart))

/-- The matrix is the renamed formula without its quantifiers. -/
theorem matrix_eq (staged : r.Staged) : r.matrix = r.apart.bare :=
  congrArg Prod.snd (staged.prenex.symm.trans (Formula.prenex_of_isNNF staged.isNNF_apart))

/-- The matrix is a tree of literals. -/
theorem isLiteralTree_matrix (staged : r.Staged) : r.matrix.IsLiteralTree := by
  rw [staged.matrix_eq]
  exact Formula.isLiteralTree_bare staged.isNNF_apart

/-- The matrix with witnesses is a tree of literals. -/
theorem isLiteralTree_skolem (staged : r.Staged) : r.skolem.matrix.IsLiteralTree := by
  rw [staged.skolem]
  exact isLiteralTree_skolemize _ staged.isLiteralTree_matrix

/-- The variables of the prefix are distinct. -/
theorem nodup_binders (staged : r.Staged) : (r.binders.map Binder.name).Nodup := by
  rw [staged.binders_eq, Formula.map_name_binders, staged.apart]
  exact (Formula.bindersApart_apart _).rectified.nodup

end Staged

/-- Every formula has all its forms. -/
theorem exists_staged (given : Formula) : ∃ r : NormalForms, r.given = given ∧ r.Staged := by
  have normal := Formula.isNNF_apart (Formula.isNNF_nnf given.withoutArrows false)
  have tree := Formula.isLiteralTree_bare normal
  have skolemTree := isLiteralTree_skolemize
    (given.withoutArrows.nnf false).apart.binders tree
  obtain ⟨cnf, cnfFound⟩ := Formula.exists_normalForm .and tree
  obtain ⟨dnf, dnfFound⟩ := Formula.exists_normalForm .or tree
  obtain ⟨skolemCnf, skolemFound⟩ := Formula.exists_normalForm .and skolemTree
  obtain ⟨clauses, listed⟩ :=
    Formula.exists_clauses (Formula.distributed_normalForm skolemTree skolemFound)
  exact ⟨⟨given, _, _, _, _, _, cnf, dnf, _, skolemCnf, clauses, .ofClauses clauses⟩, rfl,
    rfl, rfl, rfl, Formula.prenex_of_isNNF normal, cnfFound, dnfFound, rfl, skolemFound, listed,
    rfl⟩

/-- The forms of a formula without values from outside are what is computed for it. -/
theorem Staged.settles {r : NormalForms} (staged : r.Staged)
    (empty : r.given.foreignValues = []) : (ofFormula r.given).Settles (.ok r) := by
  have logical : r.nnf.foreignValues = [] := by
    rw [staged.nnf, staged.arrowless]
    exact Formula.foreignValues_nnf_withoutArrows empty
  have bareLogical : r.matrix.foreignValues = [] := by
    rw [staged.matrix_eq, Formula.foreignValues, Formula.atoms_bare, staged.apart]
    exact (Formula.foreignValues_apart _).trans logical
  have apartMade : r.nnf.apart? = .ok r.apart := by
    rw [Formula.apart?_of_foreignValues_eq_nil logical, staged.apart]
  have skolemMade : skolemize? r.binders r.matrix = .ok r.skolem := by
    rw [skolemize?_of_foreignValues_eq_nil _ bareLogical, staged.skolem]
  have cnfMade := Formula.cnf?_of_cnf staged.cnf
  have dnfMade := Formula.dnf?_of_dnf staged.dnf
  have skolemCnfMade := Formula.cnf?_of_cnf staged.skolemCnf
  have clausesMade := Formula.clauses?_of_clauses staged.clauses
  simp only [ofFormula, noteSize, ← staged.arrowless, ← staged.nnf]
  refine .after_note (.after_note (.after_note ?_))
  refine .after_ok apartMade (.after_note ?_)
  rw [staged.prenex]
  refine .after_note (.after_note ?_)
  refine .after_ok cnfMade (.after_note ?_)
  refine .after_ok dnfMade (.after_note ?_)
  refine .after_ok skolemMade (.after_note ?_)
  refine .after_ok skolemCnfMade (.after_note ?_)
  refine .after_ok clausesMade (.after_note (.after_note ?_))
  rw [← staged.horn]
  exact Logged.settles_pure r

end NormalForms

end Clausal
