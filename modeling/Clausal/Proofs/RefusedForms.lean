import Clausal.Proofs.ClausalForms

/-!
# Formulas without normal forms

A formula has a conjunctive normal form exactly if it has a disjunctive one, which is if it is made
of literals by junctions. Otherwise both are refused because of the same part: of the parts that
stand below all junctions at the top of the formula, the leftmost that is no literal. It does not
matter which junctions are distributed on the way (`Formula.normalForm_eq_error_iff`), as no
distribution of what has a normal form is refused (`Formula.normalForms_refused`).
-/

namespace Clausal.Formula

/-- The parts below the junctions at the top of a formula, from left to right. -/
def parts : Formula → List Formula
  | .binary (.junction _) f g => f.parts ++ g.parts
  | f => [f]

/-- A normal form is refused at the leftmost part that is no literal, whatever the outer
junction. -/
theorem normalForm_eq_error_iff {outer : Junction} {f part : Formula} :
    f.normalForm outer = .error part ↔ f.parts.find? (fun g => !g.isSignedAtom) = some part := by
  induction f generalizing part with
  | atom a => simp [normalForm, parts, isSignedAtom]
  | neg f ih => cases f <;> simp [normalForm, parts, isSignedAtom]
  | binary c f g ihf ihg =>
      rcases c with j | _ | _
      · rw [normalForm, parts, List.find?_append]
        exact bind_eq_error_iff (fun _ => ihf) (fun _ => ihg) part
      · simp [normalForm, parts, isSignedAtom]
      · simp [normalForm, parts, isSignedAtom]
  | quant q x f ih => simp [normalForm, parts, isSignedAtom]

/-- Exactly literals under junctions have a normal form. -/
theorem exists_normalForm_iff {outer : Junction} {f : Formula} :
    (∃ g, f.normalForm outer = .ok g) ↔ f.IsLiteralTree :=
  ⟨fun ⟨_, found⟩ => isLiteralTree_of_normalForm found, exists_normalForm outer⟩

/-- A formula is brought into both normal forms or into none of them, and into both exactly if it is
made of atoms and negated atoms by junctions. If not, both fail alike, because of the leftmost part
below the junctions at the top that is no literal; it is named unless there are values from outside
in it. -/
theorem normalForms_refused (f : Formula) :
    ((∃ c, f.cnf? = .ok c) ↔ ∃ d, f.dnf? = .ok d) ∧
      ((∃ d, f.dnf? = .ok d) ↔ f.IsLiteralTree) ∧
      ∀ e, (f.cnf? = .error e ↔ f.dnf? = .error e) ∧
        (f.dnf? = .error e ↔ ∃ part,
          f.parts.find? (fun g => !g.isSignedAtom) = some part ∧
            e = failureAt .notLiteralTree part ∧
            (part.foreignValues = [] →
              e.message = part.applicative ++ " is not a quantifier-free NNF")) := by
  have conjunctive : (∃ c, f.cnf? = .ok c) ↔ f.IsLiteralTree :=
    (exists_congr fun _ => mapError_eq_ok_iff).trans exists_normalForm_iff
  have disjunctive : (∃ d, f.dnf? = .ok d) ↔ f.IsLiteralTree :=
    (exists_congr fun _ => mapError_eq_ok_iff).trans exists_normalForm_iff
  refine ⟨conjunctive.trans disjunctive.symm, disjunctive, fun e => ⟨?_, ?_⟩⟩
  · rw [cnf?, dnf?, mapError_eq_error_iff, mapError_eq_error_iff]
    refine exists_congr fun part => and_congr_left fun _ => ?_
    exact normalForm_eq_error_iff.trans normalForm_eq_error_iff.symm
  · rw [dnf?, mapError_eq_error_iff]
    refine exists_congr fun part => and_congr normalForm_eq_error_iff ⟨?_, And.left⟩
    rintro rfl
    refine ⟨rfl, fun empty => ?_⟩
    rw [failureAt_of_foreignValues_eq_nil .notLiteralTree empty]
    rfl

/-- The double negation is refused before the quantifier to the right of it, whichever junction is
the outer one. -/
example : (Formula.or (.atom (.pred "P" []))
      (.and (.neg (.neg (.atom (.pred "R" [])))) (.quant .ex "x" (.atom (.pred "Q" []))))).cnf? =
    .error (.notLiteralTree "Not(Not(R))") ∧
    (Formula.or (.atom (.pred "P" []))
      (.and (.neg (.neg (.atom (.pred "R" [])))) (.quant .ex "x" (.atom (.pred "Q" []))))).dnf? =
    .error (.notLiteralTree "Not(Not(R))") := by
  decide +kernel

end Clausal.Formula
