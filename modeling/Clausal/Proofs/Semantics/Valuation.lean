import Clausal.Proofs.Semantics.Structure

/-!
# Truth values for atoms

A formula without quantifiers is made of its atoms by connectives only. So it has a truth value as
soon as its atoms have, wherever these come from. A structure with an assignment is one source of
them (`Formula.holds_iff_holdsAt`), and formulas with the same value under all of them are
equivalent (`Formula.equivalent_of_holdsAt`).
-/

universe u

namespace Clausal

/-- Truth values for atoms. -/
abbrev Valuation := Atom → Prop

namespace Formula

/-- The truth value that the connectives make of those of the atoms. Quantifiers are passed over. -/
def HoldsAt (t : Valuation) : Formula → Prop
  | .atom a => t a
  | .neg f => ¬ f.HoldsAt t
  | .binary c f g => c.Holds (f.HoldsAt t) (g.HoldsAt t)
  | .quant _ _ f => f.HoldsAt t

variable {D : Type u} {M : Structure D} {v : Assignment D} {f g : Formula}

/-- Without quantifiers the truth of a formula is that of its atoms. -/
theorem holds_iff_holdsAt (free : f.boundNames = []) :
    f.Holds M v ↔ f.HoldsAt fun a => a.Holds M v := by
  induction f with
  | atom a => exact Iff.rfl
  | neg f ih => exact not_congr (ih free)
  | binary c f g ihf ihg =>
      obtain ⟨left, right⟩ := List.append_eq_nil_iff.mp free
      exact c.holds_congr (ihf left) (ihg right)
  | quant q x f ih => exact absurd free (List.cons_ne_nil x _)

theorem equivalent_of_holdsAt (left : f.boundNames = []) (right : g.boundNames = [])
    (same : ∀ t, f.HoldsAt t ↔ g.HoldsAt t) : Equivalent.{u} f g := by
  intro D M v
  exact (holds_iff_holdsAt left).trans ((same _).trans (holds_iff_holdsAt right).symm)

end Formula

end Clausal
