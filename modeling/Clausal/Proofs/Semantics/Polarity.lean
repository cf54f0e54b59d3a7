import Clausal.Polarity
import Clausal.Proofs.Semantics.Free

/-!
# The meaning of negation normal form

Replacing implications and equivalences changes no truth value
(`Formula.holds_withoutArrows`), and the negation normal form read under a
polarity is true exactly if the formula has that polarity's truth value
(`Formula.holds_nnf`). Neither pass loses or invents an atom, a bound variable or a
free symbol (`Formula.Collects.mem_nnf`), and the second one does not change their order
(`Formula.Collects.nnf`).
-/

universe u

namespace Clausal.Formula

/-- Induction over negation normal forms: atoms, negated atoms, junctions and
quantifiers. -/
theorem IsNNF.induction {motive : (f : Formula) → f.IsNNF → Prop}
    (atom : ∀ a, motive (.atom a) trivial)
    (literal : ∀ a, motive (.neg (.atom a)) trivial)
    (junction : ∀ j f g (left : f.IsNNF) (right : g.IsNNF), motive f left → motive g right →
      motive (junction j f g) ⟨left, right⟩)
    (quant : ∀ q x f (scope : f.IsNNF), motive f scope → motive (.quant q x f) scope) :
    ∀ (f : Formula) (normal : f.IsNNF), motive f normal
  | .atom a, _ => atom a
  | .neg (.atom a), _ => literal a
  | .binary (.junction j) f g, ⟨left, right⟩ =>
      junction j f g left right (IsNNF.induction atom literal junction quant f left)
        (IsNNF.induction atom literal junction quant g right)
  | .quant q x f, scope => quant q x f scope (IsNNF.induction atom literal junction quant f scope)

variable {D : Type u} {M : Structure D} {v : Assignment D}

/-- Taking arrows out does not change the meaning of a formula. -/
theorem holds_withoutArrows (f : Formula) : f.withoutArrows.Holds M v ↔ f.Holds M v := by
  induction f generalizing v with
  | atom a => exact Iff.rfl
  | neg f ih => exact not_congr ih
  | binary c f g ihf ihg =>
      rcases c with j | _ | _
      · exact j.holds_congr ihf ihg
      · simp only [withoutArrows, Holds, Connective.Holds, Junction.Holds, ihf, ihg]
        exact imp_iff_not_or.symm
      · simp only [withoutArrows, Holds, Connective.Holds, Junction.Holds, ihf, ihg]
        rw [← imp_iff_not_or, ← imp_iff_not_or, ← iff_iff_implies_and_implies]
  | quant q x f ih => exact q.holds_congr fun d => ih

/-- The second pass keeps the truth value or, under a negation, turns it round. -/
theorem holds_nnf (f : Formula) (negated : Bool) :
    (f.nnf negated).Holds M v ↔ (f.Holds M v ↔ negated = false) := by
  induction f generalizing negated v with
  | atom a => cases negated <;> simp [nnf, Holds]
  | neg f ih => exact (ih (!negated)).trans (iff_not_eq_false_iff _ _)
  | binary c f g ihf ihg =>
      rcases c with j | _ | _
      · exact (Junction.holds_congr _ (ihf negated) (ihg negated)).trans
          (j.holds_under negated _ _)
      · exact (Junction.holds_congr _ (ihf (!negated)) (ihg negated)).trans
          (Junction.holds_under_arrow negated _ _)
      · have forward := (Junction.holds_congr (Junction.or.under negated) (ihf (v := v) (!negated))
          (ihg (v := v) negated)).trans (Junction.holds_under_arrow negated _ _)
        have backward := (Junction.holds_congr (Junction.or.under negated) (ihg (v := v) (!negated))
          (ihf (v := v) negated)).trans (Junction.holds_under_arrow negated _ _)
        have both := (Junction.holds_congr _ forward backward).trans
          (Junction.holds_under .and negated _ _)
        exact both.trans (iff_congr iff_iff_implies_and_implies.symm Iff.rfl)
  | quant q x f ih =>
      exact (Quantifier.holds_congr _ fun d => ih negated).trans (q.holds_under negated _)

/-- Moving negations inwards does not change the meaning of a formula. -/
theorem holds_nnf_false (f : Formula) : (f.nnf false).Holds M v ↔ f.Holds M v := by
  rw [holds_nnf, iff_true_right rfl]

/-- A list is read off a formula from left to right: connectives and kinds of quantifiers leave no
trace in it, and a quantifier does something to the list of its scope that depends on the variable
only and respects what is listed. -/
structure Collects {α : Type} (part : Formula → List α) (scope : String → List α → List α) :
    Prop where
  neg : ∀ f, part (.neg f) = part f
  binary : ∀ c f g, part (.binary c f g) = part f ++ part g
  quant : ∀ q x f, part (.quant q x f) = scope x (part f)
  mem_scope : ∀ x l l', (∀ y, y ∈ l ↔ y ∈ l') → ∀ y, y ∈ scope x l ↔ y ∈ scope x l'

/-- The atoms of a formula are collected from its parts. -/
theorem collects_atoms : Collects atoms fun _ l => l where
  neg _ := rfl
  binary _ _ _ := rfl
  quant _ _ _ := rfl
  mem_scope _ _ _ same := same

/-- The bound variables of a formula are collected from its parts. -/
theorem collects_boundNames : Collects boundNames List.cons where
  neg _ := rfl
  binary _ _ _ := rfl
  quant _ _ _ := rfl
  mem_scope x l l' same y := by rw [List.mem_cons, List.mem_cons, same]

/-- The free symbols of a formula are collected from its parts. -/
theorem collects_free : Collects free fun x l => l.filter (· ≠ x) where
  neg _ := rfl
  binary _ _ _ := rfl
  quant _ _ _ := rfl
  mem_scope x l l' same y := by rw [List.mem_filter, List.mem_filter, same]

namespace Collects

variable {α : Type} {part : Formula → List α} {scope : String → List α → List α}
  (collects : Collects part scope)
include collects

/-- The second pass keeps what is listed after the first one, whatever the polarity. -/
theorem nnf (f : Formula) (negated : Bool) : part (f.nnf negated) = part f.withoutArrows := by
  induction f generalizing negated with
  | atom a =>
      cases negated with
      | false => rfl
      | true => exact collects.neg _
  | neg f ih =>
      rw [Formula.nnf, withoutArrows, collects.neg]
      exact ih _
  | binary c f g ihf ihg =>
      rcases c with j | _ | _ <;>
        simp only [Formula.nnf, withoutArrows, collects.binary, collects.neg, ihf, ihg]
  | quant q x f ih => rw [Formula.nnf, withoutArrows, collects.quant, collects.quant, ih]

/-- The first pass doubles the sides of equivalences, but it lists nothing new and loses nothing. -/
theorem mem_withoutArrows (f : Formula) (y : α) :
    y ∈ part f.withoutArrows ↔ y ∈ part f := by
  induction f generalizing y with
  | atom a => exact Iff.rfl
  | neg f ih =>
      rw [withoutArrows, collects.neg, collects.neg]
      exact ih y
  | binary c f g ihf ihg =>
      rcases c with j | _ | _
      · simp only [withoutArrows, collects.binary, List.mem_append, ihf, ihg]
      · simp only [withoutArrows, collects.binary, collects.neg, List.mem_append, ihf, ihg]
      · simp only [withoutArrows, collects.binary, collects.neg, List.mem_append, ihf, ihg]
        rw [or_comm (a := y ∈ part g), or_self]
  | quant q x f ih =>
      rw [withoutArrows, collects.quant, collects.quant]
      exact collects.mem_scope x _ _ ih y

/-- What is collected from a formula is also collected from its negation normal form. -/
theorem mem_nnf (f : Formula) (negated : Bool) (y : α) :
    y ∈ part (f.nnf negated) ↔ y ∈ part f := by
  rw [collects.nnf, collects.mem_withoutArrows]

end Collects

/-- Moving negations inwards keeps the atoms that are left without arrows, in order. -/
theorem atoms_nnf (f : Formula) (negated : Bool) :
    (f.nnf negated).atoms = f.withoutArrows.atoms :=
  collects_atoms.nnf f negated

/-- Moving negations inwards keeps the bound variables that are left without arrows, in order. -/
theorem boundNames_nnf (f : Formula) (negated : Bool) :
    (f.nnf negated).boundNames = f.withoutArrows.boundNames :=
  collects_boundNames.nnf f negated

/-- Moving negations inwards keeps the free symbols. -/
theorem mem_free_nnf (f : Formula) (negated : Bool) (x : String) :
    x ∈ (f.nnf negated).free ↔ x ∈ f.free :=
  collects_free.mem_nnf f negated x

/-- Taking arrows out brings in no quantifiers and takes none away. -/
theorem boundNames_withoutArrows_eq_nil_iff (f : Formula) :
    f.withoutArrows.boundNames = [] ↔ f.boundNames = [] := by
  simp only [List.eq_nil_iff_forall_not_mem, collects_boundNames.mem_withoutArrows]

/-- A formula without values from outside is one whose atoms hold none. -/
theorem foreignValues_eq_nil_iff (f : Formula) :
    f.foreignValues = [] ↔ ∀ a ∈ f.atoms, a.foreignValues = [] := by
  rw [foreignValues, List.flatMap_eq_nil_iff]

end Clausal.Formula
