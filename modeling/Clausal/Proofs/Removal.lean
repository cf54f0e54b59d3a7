import Clausal.Proofs.Identifiers
import Clausal.Proofs.Replacement
import Clausal.Worksheet.Witness

/-!
# Skolem forms on worksheets

The prefix of a Skolem form on a worksheet may be any list of pairs. If it is the prefix of a prenex
formula, its quantifiers are removed one by one as they are for a formula, and the result is the
same (`Worksheet.skolemizeBy_ofPrefix`). A witness is put in by a table with one entry, and its
function has a name that may be given, since it is an identifier.
-/

namespace Clausal

mutual

/-- A function of a term after a substitution was there before, or came with a term put in. -/
theorem Term.mem_functions_subst {s : Substitution} {name : String} : (t : Term) →
    name ∈ (t.subst s).functions → name ∈ t.functions ∨ ∃ entry ∈ s, name ∈ entry.2.functions
  | .sym x, member => by
      rw [Term.subst] at member
      rcases s.apply_eq_or_mem x with fixed | ⟨entry, inside, found⟩
      · rw [fixed] at member
        exact absurd member List.not_mem_nil
      · exact .inr ⟨entry, inside, found ▸ member⟩
  | .app head args, member => by
      rcases List.mem_cons.mp member with same | inner
      · exact .inl (same ▸ List.mem_cons_self)
      · exact (Term.mem_functionsList_substList args inner).imp_left (List.mem_cons_of_mem head)
  | .foreign _, member => .inl member

theorem Term.mem_functionsList_substList {s : Substitution} {name : String} : (ts : List Term) →
    name ∈ Term.functionsList (Term.substList s ts) →
      name ∈ Term.functionsList ts ∨ ∃ entry ∈ s, name ∈ entry.2.functions
  | [], member => .inl member
  | t :: ts, member => by
      rw [Term.substList, Term.functionsList] at member
      rcases List.mem_append.mp member with first | rest
      · exact (t.mem_functions_subst first).imp_left (List.mem_append_left _)
      · exact (Term.mem_functionsList_substList ts rest).imp_left (List.mem_append_right _)

end

theorem Atom.mem_functions_subst {s : Substitution} {name : String} (a : Atom)
    (member : name ∈ (a.subst s).functions) :
    name ∈ a.functions ∨ ∃ entry ∈ s, name ∈ entry.2.functions := by
  rw [Atom.functions, a.terms_subst, List.flatMap_map] at member
  obtain ⟨t, inside, head⟩ := List.mem_flatMap.mp member
  exact (t.mem_functions_subst head).imp_left fun old => List.mem_flatMap.mpr ⟨t, inside, old⟩

namespace Formula

/-- An atom of a formula after a substitution is one of the formula with some of the terms put in:
those for symbols that are not bound there. -/
theorem mem_atoms_subst (f : Formula) {s : Substitution} {a : Atom}
    (member : a ∈ (f.subst s).atoms) : ∃ b ∈ f.atoms, ∃ t, t ⊆ s ∧ a = b.subst t := by
  induction f generalizing s with
  | atom b =>
      exact ⟨b, List.mem_singleton_self b, s, List.Subset.refl s, List.mem_singleton.mp member⟩
  | neg f ih => exact ih member
  | binary c f g ihf ihg =>
      rcases List.mem_append.mp member with first | second
      · obtain ⟨b, inside, put⟩ := ihf first
        exact ⟨b, List.mem_append_left _ inside, put⟩
      · obtain ⟨b, inside, put⟩ := ihg second
        exact ⟨b, List.mem_append_right _ inside, put⟩
  | quant q x f ih =>
      obtain ⟨b, inside, t, subset, put⟩ := ih member
      exact ⟨b, inside, t, List.Subset.trans subset (List.filter_subset_self _), put⟩

/-- Formulas stay lawful when symbols are replaced by lawful terms. -/
theorem Lawful.subst {f : Formula} (lawful : f.Lawful) {s : Substitution}
    (logical : ∀ entry ∈ s, entry.2.foreignValues = [])
    (names : ∀ entry ∈ s, ∀ name ∈ entry.2.functions, '\x00' ∉ name.toList) :
    (f.subst s).Lawful where
  logical := by
    rw [foreignValues_eq_nil_iff]
    intro a member
    obtain ⟨b, inside, t, subset, rfl⟩ := f.mem_atoms_subst member
    have put := Worksheet.Table.foreignValues_apply fun entry known => logical entry (subset known)
    rw [Atom.foreignValues_subst put]
    exact f.foreignValues_eq_nil_iff.mp lawful.logical b inside
  names name member := by
    obtain ⟨a, inside, head⟩ := List.mem_flatMap.mp member
    obtain ⟨b, before, t, subset, rfl⟩ := f.mem_atoms_subst inside
    rcases b.mem_functions_subst head with old | ⟨entry, known, put⟩
    · exact lawful.names name (List.mem_flatMap.mpr ⟨b, before, old⟩)
    · exact names entry (subset known) name put

end Formula

theorem Term.foreignValuesList_map_sym (xs : List String) :
    Term.foreignValuesList (xs.map .sym) = [] := by
  rw [Term.foreignValuesList_eq_flatMap, List.flatMap_map]
  exact List.flatMap_eq_nil_iff.mpr fun _ _ => rfl

/-- A witness has no foreign values. -/
theorem Term.foreignValues_applied (name : String) (xs : List String) :
    (Term.applied name (xs.map .sym)).foreignValues = [] := by
  cases xs with
  | nil => rfl
  | cons x xs => exact Term.foreignValuesList_map_sym (x :: xs)

/-- The only function of a witness is the one that was minted for it. -/
theorem Term.eq_of_mem_functions_applied {name head : String} {xs : List String}
    (member : head ∈ (Term.applied name (xs.map .sym)).functions) : head = name := by
  cases xs with
  | nil => cases member
  | cons x xs =>
      change head ∈ name :: Term.functionsList ((x :: xs).map .sym) at member
      rw [Term.functionsList_eq_flatMap, List.flatMap_map] at member
      rcases List.mem_cons.mp member with same | inner
      · exact same
      · obtain ⟨_, _, none⟩ := List.mem_flatMap.mp inner
        cases none

namespace Skolemized.State

/-- The matrix so far is lawful, and the counters will give numbers without a sign. -/
structure Lawful (s : State) : Prop where
  matrix : s.result.matrix.Lawful
  constants : 0 ≤ s.constants
  functions : 0 ≤ s.functions

/-- A witness whose name is an identifier keeps the state lawful. -/
theorem Lawful.witnessed {s : State} (lawful : s.Lawful) (x : String) {name : String}
    (identifier : isIdentifier name = true) {constants functions : Int} (counted : 0 ≤ constants)
    (numbered : 0 ≤ functions) : (s.witnessed x name constants functions).Lawful where
  matrix := by
    refine lawful.matrix.subst ?_ ?_
    · exact List.forall_mem_singleton.mpr (Term.foreignValues_applied _ _)
    · refine List.forall_mem_singleton.mpr fun head member => ?_
      rw [Term.eq_of_mem_functions_applied member]
      exact null_not_mem_of_isIdentifier identifier
  constants := counted
  functions := numbered

end Skolemized.State

namespace Worksheet

open Skolemized

/-- The universal variables are handed over as they are. -/
theorem toExpressions_map_sym (xs : List String) :
    (Term.toExpressions (xs.map .sym)).map Value.expression = xs.map .ofName := by
  induction xs with
  | nil => rfl
  | cons x xs ih => exact congrArg (Value.ofName x :: ·) ih

/-- A witness is put in by a table with one entry. -/
theorem inFormula_witness {f : Formula} (lawful : f.Lawful) (x name : String) (xs : List String) :
    Table.inFormula [(.ofName x, .expression (Term.applied name (xs.map .sym)).toExpression)] f =
      .ok (f.subst [(x, .applied name (xs.map .sym))]) := by
  have logical := Term.foreignValues_applied name xs
  have entries : ∀ entry ∈ [(x, Term.applied name (xs.map .sym))], entry.2.foreignValues = [] :=
    List.forall_mem_singleton.mpr logical
  have put := Table.inFormula_ofSubstitution f entries lawful
  rwa [Table.ofSubstitution, List.map_singleton, ofTerm_eq logical] at put

namespace Removal

variable {s : State}

/-- What is carried along on a worksheet where nothing but variables is quantified. -/
def ofState (s : State) : Removal :=
  ⟨s.result.matrix, s.result.mapping.map fun entry => (.ofName entry.1, entry.2.toExpression),
    s.result.universals.map .ofName, s.constants, s.functions, s.used⟩

/-- The state after a witness, as the procedure has it. -/
theorem ofState_witnessed (s : State) (x name : String) (constants functions : Int) :
    ofState (s.witnessed x name constants functions) =
      ⟨s.result.matrix.subst [(x, .applied name (s.result.universals.map .sym))],
        (ofState s).mapping ++
          [(.ofName x, (Term.applied name (s.result.universals.map .sym)).toExpression)],
        s.result.universals.map .ofName, constants, functions, name :: s.used⟩ := by
  rw [ofState, ofState, State.witnessed, List.map_append]
  rfl

/-- The next witness on a worksheet is the next one for a formula. -/
theorem witness_ofState (lawful : s.Lawful) (x : String) :
    ∃ name constants functions,
      s.step ⟨.ex, x⟩ = s.witnessed x name constants functions ∧
      (s.witnessed x name constants functions).Lawful ∧
      (ofState s).witness = .ok ((Term.applied name (s.result.universals.map .sym)).toExpression,
        { ofState s with constants, functions, used := name :: s.used }) := by
  cases universals : s.result.universals with
  | nil =>
      have stem : isIdentifier constantStem = true := by decide
      obtain ⟨identifier, counted⟩ := isIdentifier_mint stem lawful.constants s.used
      refine ⟨_, _, _, State.step_ex_constant universals x,
        lawful.witnessed x identifier counted lawful.functions, ?_⟩
      rw [witness, ofState, universals]
      rfl
  | cons y ys =>
      have below : s.result.universals ≠ [] := universals ▸ List.cons_ne_nil y ys
      have stem : isIdentifier functionStem = true := by decide
      obtain ⟨identifier, counted⟩ := isIdentifier_mint stem lawful.functions s.used
      refine ⟨_, _, _, State.step_ex_function below x,
        lawful.witnessed x identifier lawful.constants counted, ?_⟩
      have applied := applyFunction_toExpressions (Term.foreignValuesList_map_sym (y :: ys))
        (null_not_mem_of_isIdentifier identifier)
      rw [toExpressions_map_sym] at applied
      rw [witness, ofState, universals]
      change Except.map _ (applyFunction _ _) = _
      rw [applied]
      rfl

/-- One quantifier is removed on a worksheet as it is for a formula. -/
theorem step_ofBinder (lawful : s.Lawful) (b : Binder) :
    (ofState s).step (.ofBinder b) = .ok (ofState (s.step b)) ∧ (s.step b).Lawful := by
  obtain ⟨q, x⟩ := b
  cases q with
  | all =>
      refine ⟨?_, lawful.matrix, lawful.constants, lawful.functions⟩
      rw [State.step_all, ofState, ofState, List.map_append]
      rfl
  | ex =>
      obtain ⟨name, constants, functions, after, still, made⟩ := witness_ofState lawful x
      rw [after]
      refine ⟨?_, still⟩
      change ((ofState s).witness >>= fun made => _ >>= _) = _
      rw [made]
      change (Table.inFormula [(.ofName x, .expression _)] s.result.matrix >>= _) = _
      rw [inFormula_witness lawful.matrix, ofState_witnessed]
      rfl

/-- A whole prefix is removed on a worksheet as it is for a formula. -/
theorem run_ofPrefix (p : Prefix) (lawful : s.Lawful) :
    (p.map Value.ofBinder).foldlM step (ofState s) = .ok (ofState (s.run p)) := by
  induction p generalizing s with
  | nil => rfl
  | cons b p ih =>
      obtain ⟨removed, still⟩ := step_ofBinder lawful b
      rw [List.map_cons, List.foldlM_cons, removed]
      exact ih still

end Removal

/-- The Skolem form of a prenex formula as a value. -/
def ofSkolemized (r : Skolemized) : Value :=
  .skolem r.matrix (r.mapping.map fun entry => (.ofName entry.1, entry.2.toExpression))
    (r.universals.map .ofName)

theorem mapM_nameOf (p : Prefix) :
    (p.map Value.ofBinder).mapM (fun item => do
      let (_, bound) ← item.pair
      nameOf bound) = .ok (p.map Binder.name) := by
  induction p with
  | nil => rfl
  | cons b p ih =>
      rw [List.map_cons, List.mapM_cons, ih]
      rfl

/-- On a worksheet the Skolem form of a prefix and a matrix is the one of the prenex formula. -/
theorem skolemizeBy_ofPrefix (p : Prefix) {matrix : Formula} (lawful : matrix.Lawful) :
    skolemizeBy (.ofPrefix p) matrix = .ok (ofSkolemized (skolemize p matrix)) := by
  have start : (State.start p matrix).Lawful := ⟨lawful, le_rfl, le_rfl⟩
  rw [skolemizeBy, Formula.withTerms_of_foreignValues_eq_nil lawful.logical]
  change (List.mapM (m := Except Fault) _ (p.map Value.ofBinder) >>= _) = _
  rw [mapM_nameOf]
  change (List.foldlM Removal.step (Removal.ofState (.start p matrix)) _ >>= _) = _
  rw [Removal.run_ofPrefix p start]
  rfl

end Worksheet

end Clausal
