import Clausal.Apart
import Clausal.Proofs.FreshName
import Clausal.Proofs.Semantics.Free
import Clausal.Proofs.Semantics.Substitution

/-!
# Standardizing apart gives every quantifier its own variable

A renaming in force is harmless while the names it puts in are all in use, because
fresh names are not (`Formula.Covers`). Under that invariant the quantifiers of the
renamed formula bind variables of their own (`Formula.renameApart_spec`). It holds from
the start when all names of the formula count as used.
-/

namespace Clausal

/-- Only symbols are put in. -/
def Substitution.Renames (s : Substitution) : Prop := ∀ x, ∃ y, s.apply x = .sym y

theorem Substitution.Renames.nil : Renames [] := fun x => ⟨x, rfl⟩

theorem Substitution.Renames.cons {s : Substitution} (renames : s.Renames) (x y : String) :
    Renames ((x, .sym y) :: s) := by
  intro z
  by_cases same : z = x
  · exact ⟨y, same ▸ s.apply_cons_self x _⟩
  · rw [s.apply_cons_of_ne _ same]
    exact renames z

mutual

/-- Renaming symbols keeps the functions of a term. -/
theorem Term.functions_subst {s : Substitution} (renames : s.Renames) :
    (t : Term) → (t.subst s).functions = t.functions
  | .sym x => by
      obtain ⟨y, put⟩ := renames x
      rw [Term.subst, put]
      rfl
  | .app name args =>
      congrArg (name :: ·) (Term.functionsList_substList renames args)
  | .foreign _ => rfl

theorem Term.functionsList_substList {s : Substitution} (renames : s.Renames) :
    (ts : List Term) → Term.functionsList (Term.substList s ts) = Term.functionsList ts
  | [] => rfl
  | t :: ts => by
      rw [Term.substList, Term.functionsList, Term.functionsList, t.functions_subst renames,
        Term.functionsList_substList renames ts]

end

theorem Atom.functions_subst {s : Substitution} (renames : s.Renames) (a : Atom) :
    (a.subst s).functions = a.functions := by
  rw [functions, functions, terms_subst, List.flatMap_map]
  exact congrArg List.flatten (List.map_congr_left fun t _ => t.functions_subst renames)

namespace Formula

/-- Every quantifier binds a variable of its own, which does not occur outside its
scope. -/
def BindersApart : Formula → Prop
  | .atom _ => True
  | .neg f => f.BindersApart
  | .binary _ f g =>
      f.BindersApart ∧ g.BindersApart ∧ (∀ x ∈ f.boundNames, x ∉ g.names) ∧
        ∀ x ∈ g.boundNames, x ∉ f.names
  | .quant _ x f => x ∉ f.boundNames ∧ f.BindersApart

theorem boundNames_subset_names (f : Formula) : f.boundNames ⊆ f.names := by
  induction f with
  | atom a => exact List.nil_subset _
  | neg f ih => exact ih
  | binary c f g ihf ihg =>
      exact List.append_subset.mpr ⟨List.subset_append_of_subset_left _ ihf,
        List.subset_append_of_subset_right _ ihg⟩
  | quant q x f ih => exact List.cons_subset_cons x ih

/-- A formula whose quantifiers bind variables of their own is rectified. -/
theorem BindersApart.rectified {f : Formula} (apart : f.BindersApart) : f.Rectified := by
  induction f with
  | atom a => exact ⟨List.nodup_nil, fun x bound => absurd bound List.not_mem_nil⟩
  | neg f ih => exact ⟨(ih apart).nodup, (ih apart).inside⟩
  | binary c f g ihf ihg =>
      obtain ⟨left, right, leftOnly, rightOnly⟩ := apart
      refine ⟨List.nodup_append.mpr ⟨(ihf left).nodup, (ihg right).nodup, ?_⟩, ?_⟩
      · intro x bound y other same
        exact leftOnly x bound (same ▸ g.boundNames_subset_names other)
      · intro x bound member
        rcases List.mem_append.mp bound with first | second <;>
          rcases List.mem_append.mp member with here | there
        · exact (ihf left).inside x first here
        · exact leftOnly x first (g.free_subset_names there)
        · exact rightOnly x second (f.free_subset_names here)
        · exact (ihg right).inside x second there
  | quant q x f ih =>
      refine ⟨List.nodup_cons.mpr ⟨apart.1, (ih apart.2).nodup⟩, fun y bound member => ?_⟩
      obtain ⟨free, other⟩ := mem_free_quant.mp member
      rcases List.mem_cons.mp bound with same | deeper
      · exact other same
      · exact (ih apart.2).inside y deeper free

/-- All names of a formula, and all names that a renaming puts in for them, are in
use. -/
def Covers (env : Substitution) (used : List String) (f : Formula) : Prop :=
  ∀ y ∈ f.names, y ∈ used ∧ ∀ z ∈ (env.apply y).names, z ∈ used

namespace Covers

variable {env : Substitution} {used after : List String} {f g : Formula}

/-- Before any renaming, a formula is covered by its own names. -/
theorem of_names (f : Formula) : Covers [] f.names f := by
  intro y member
  refine ⟨member, fun z inside => ?_⟩
  rw [Substitution.apply_nil, Term.names, List.mem_singleton] at inside
  exact inside ▸ member

theorem mono (covered : Covers env used f) (subset : used ⊆ after) : Covers env after f :=
  fun y member => ⟨subset (covered y member).1,
    fun z inside => subset ((covered y member).2 z inside)⟩

theorem left {c : Connective} (covered : Covers env used (.binary c f g)) : Covers env used f :=
  fun y member => covered y (List.mem_append_left _ member)

theorem right {c : Connective} (covered : Covers env used (.binary c f g)) : Covers env used g :=
  fun y member => covered y (List.mem_append_right _ member)

/-- In the scope of a quantifier its new variable is in use as well. -/
theorem scope {q : Quantifier} {x m : String} (covered : Covers env used (.quant q x f)) :
    Covers ((x, .sym m) :: env) (m :: used) f := by
  intro y member
  obtain ⟨known, put⟩ := covered y (List.mem_cons_of_mem x member)
  refine ⟨List.mem_cons_of_mem m known, fun z inside => ?_⟩
  by_cases same : y = x
  · subst same
    rw [Substitution.apply_cons_self, Term.names, List.mem_singleton] at inside
    exact inside ▸ List.mem_cons_self
  · rw [Substitution.apply_cons_of_ne env _ same] at inside
    exact List.mem_cons_of_mem m (put z inside)

end Covers

section

variable (env : Substitution) (used : List String)

/-- The right part is renamed with the names in use that the left part leaves. -/
theorem renameApart_binary (c : Connective) (f g : Formula) :
    (binary c f g).renameApart env used =
      (.binary c (f.renameApart env used).1
          (g.renameApart env (f.renameApart env used).2).1,
        (g.renameApart env (f.renameApart env used).2).2) := rfl

/-- A quantifier gets a fresh variable, which its scope is renamed with. -/
theorem renameApart_quant (q : Quantifier) (x : String) (f : Formula) :
    (quant q x f).renameApart env used =
      (.quant q (mintVariable x used).name
          (f.renameApart ((x, .sym (mintVariable x used).name) :: env)
            ((mintVariable x used).name :: used)).1,
        (f.renameApart ((x, .sym (mintVariable x used).name) :: env)
            ((mintVariable x used).name :: used)).2) := rfl

end

/-- A name of the result that is not bound there comes from the formula or from the
renaming, whatever else was in use. -/
theorem mem_names_renameApart (f : Formula) {env : Substitution} {known : List String}
    (covered : Covers env known f) (used : List String) {y : String}
    (member : y ∈ (f.renameApart env used).1.names) :
    y ∈ known ∨ y ∈ (f.renameApart env used).1.boundNames := by
  induction f generalizing env known used with
  | atom a =>
      rcases a.mem_names_subst env member with old | ⟨x, inside, put⟩
      · exact .inl (covered y old).1
      · exact .inl ((covered x inside).2 y put)
  | neg f ih => exact ih covered used member
  | binary c f g ihf ihg =>
      rcases List.mem_append.mp member with first | second
      · exact (ihf covered.left used first).imp_right (List.mem_append_left _)
      · exact (ihg covered.right _ second).imp_right (List.mem_append_right _)
  | quant q x f ih =>
      rcases List.mem_cons.mp member with rfl | deeper
      · exact .inr List.mem_cons_self
      · rcases ih covered.scope _ deeper with listed | bound
        · rcases List.mem_cons.mp listed with rfl | old
          · exact .inr List.mem_cons_self
          · exact .inl old
        · exact .inr (List.mem_cons_of_mem _ bound)

/-- The result of a renaming that started and ended with given names in use: its
bound variables were not in use before and are afterwards. -/
structure RenamedApart (used : List String) (g : Formula) (after : List String) : Prop where
  subset : used ⊆ after
  minted : ∀ x ∈ g.boundNames, x ∈ after ∧ x ∉ used
  apart : g.BindersApart

/-- A renaming that covers the formula gives such a result. -/
theorem renameApart_spec (f : Formula) (env : Substitution) (used : List String)
    (covered : Covers env used f) :
    RenamedApart used (f.renameApart env used).1 (f.renameApart env used).2 := by
  induction f generalizing env used with
  | atom a =>
      exact ⟨List.Subset.refl used, fun x bound => absurd bound List.not_mem_nil, trivial⟩
  | neg f ih =>
      have inner := ih env used covered
      exact ⟨inner.subset, inner.minted, inner.apart⟩
  | binary c f g ihf ihg =>
      have left := ihf env used covered.left
      have right := ihg env _ (covered.right.mono left.subset)
      rw [renameApart_binary]
      refine ⟨List.Subset.trans left.subset right.subset, ?_, left.apart, right.apart, ?_, ?_⟩
      · intro x bound
        rcases List.mem_append.mp bound with first | second
        · exact ⟨right.subset (left.minted x first).1, (left.minted x first).2⟩
        · exact ⟨(right.minted x second).1,
            fun old => (right.minted x second).2 (left.subset old)⟩
      · intro x bound other
        rcases g.mem_names_renameApart covered.right _ other with old | second
        · exact (left.minted x bound).2 old
        · exact (right.minted x second).2 (left.minted x bound).1
      · intro x bound other
        rcases f.mem_names_renameApart covered.left _ other with old | first
        · exact (right.minted x bound).2 (left.subset old)
        · exact (right.minted x bound).2 (left.minted x first).1
  | quant q x f ih =>
      have fresh := mintVariable_name_not_mem x used
      have inner := ih ((x, .sym (mintVariable x used).name) :: env)
        ((mintVariable x used).name :: used) covered.scope
      rw [renameApart_quant]
      refine ⟨fun y old => inner.subset (List.mem_cons_of_mem _ old), ?_, ?_, inner.apart⟩
      · intro y bound
        rcases List.mem_cons.mp bound with rfl | deeper
        · exact ⟨inner.subset List.mem_cons_self, fresh⟩
        · exact ⟨(inner.minted y deeper).1,
            fun old => (inner.minted y deeper).2 (List.mem_cons_of_mem _ old)⟩
      · exact fun bound => (inner.minted _ bound).2 List.mem_cons_self

/-- After standardizing apart every quantifier binds a variable of its own. -/
theorem bindersApart_apart (f : Formula) : f.apart.BindersApart :=
  (f.renameApart_spec [] f.names (Covers.of_names f)).apart

/-- The bound variables are renamed in the order in which they are listed, whatever renaming is in
force. -/
theorem mintVariables_boundNames (f : Formula) (env : Substitution) (used : List String) :
    mintVariables f.boundNames used =
      ((f.renameApart env used).1.boundNames, (f.renameApart env used).2) := by
  induction f generalizing env used with
  | atom a => rfl
  | neg f ih => exact ih env used
  | binary c f g ihf ihg =>
      rw [boundNames, mintVariables_append, ihf env used, ihg env, renameApart_binary, boundNames]
  | quant q x f ih =>
      have scope := ih ((x, .sym (mintVariable x used).name) :: env)
        ((mintVariable x used).name :: used)
      rw [boundNames, mintVariables, renameApart_quant, boundNames]
      exact congrArg (fun minted => ((mintVariable x used).name :: minted.1, minted.2)) scope

/-- What renaming symbols leaves alone in every atom stays in the formula. -/
theorem flatMap_atoms_renameApart {α : Type} {part : Atom → List α}
    (kept : ∀ s : Substitution, s.Renames → ∀ a, part (a.subst s) = part a) (f : Formula)
    {env : Substitution} (renames : env.Renames) (used : List String) :
    (f.renameApart env used).1.atoms.flatMap part = f.atoms.flatMap part := by
  induction f generalizing env used with
  | atom a =>
      rw [renameApart, atoms, atoms, List.flatMap_singleton, List.flatMap_singleton,
        kept env renames]
  | neg f ih => exact ih renames used
  | binary c f g ihf ihg =>
      rw [renameApart_binary, atoms, atoms, List.flatMap_append, List.flatMap_append,
        ihf renames, ihg renames]
  | quant q x f ih => exact ih (renames.cons x _) _

/-- Renaming apart keeps the functions of a formula. -/
theorem functions_apart (f : Formula) : f.apart.functions = f.functions :=
  f.flatMap_atoms_renameApart (fun _ renames a => a.functions_subst renames) .nil f.names

end Formula

end Clausal
