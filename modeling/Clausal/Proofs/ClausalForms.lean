import Clausal.Proofs.DistributedForms

/-!
# Formulas in conjunctive normal form

The clauses of a formula can be listed exactly if it is its own conjunctive normal form, so a
conjunctive normal form is left as it is when it is brought into that form again. The clauses say
what the formula says and hold its atoms in order. If they cannot be listed, the formula has other
parts than literals below its conjunctions and the disjunctions under them, and the leftmost of
these is reported (`Formula.clausal_spec`).
-/

namespace Clausal.Formula

/-- The operands of the junctions of one kind at the top of a formula, from left to right. -/
def operands (j : Junction) : Formula → List Formula
  | .binary (.junction k) f g => if k = j then f.operands j ++ g.operands j else [junction k f g]
  | f => [f]

/-- An atom or a negated atom. -/
def isSignedAtom : Formula → Bool
  | .atom _ => true
  | .neg (.atom _) => true
  | _ => false

/-- A junction has the operands of its parts. -/
theorem operands_junction (j : Junction) (f g : Formula) :
    (junction j f g).operands j = f.operands j ++ g.operands j := by
  rw [operands, if_pos rfl]

/-- What is not the junction is its own operand. -/
theorem operands_whole {j : Junction} {f : Formula} (whole : f.Whole j) : f.operands j = [f] := by
  cases f with
  | atom a => rfl
  | neg f => rfl
  | binary c f g =>
      rcases c with k | _ | _
      · have top : k ≠ j := fun same => whole f g (same ▸ rfl)
        rw [operands, if_neg top]
      · rfl
      · rfl
  | quant q x f => rfl

/-- What is collected from the operands of a junction in their order is refused at the first operand
that refuses it. -/
theorem refused_iff {α : Type} {j : Junction} {collect : Formula → Except Formula (List α)}
    {fault : Formula → Option Formula}
    (joined : ∀ f g, collect (junction j f g) =
      collect f >>= fun left => collect g >>= fun right => .ok (left ++ right))
    (whole : ∀ f, f.Whole j → ∀ part, collect f = .error part ↔ fault f = some part)
    (f part : Formula) :
    collect f = .error part ↔ (f.operands j).findSome? fault = some part := by
  induction f using induction_outer j generalizing part with
  | split f g ihf ihg =>
      rw [joined, operands_junction, List.findSome?_append]
      exact bind_eq_error_iff ihf ihg part
  | whole f top => rw [operands_whole top, List.findSome?_singleton, whole f top]

/-- A disjunction without literals names its first operand that is no literal. -/
theorem literals_eq_error_iff {f part : Formula} :
    f.literals = .error part ↔ (f.operands .or).find? (fun g => !g.isSignedAtom) = some part := by
  rw [← List.findSome?_guard]
  refine refused_iff (fun _ _ => rfl) (fun f whole part => ?_) f part
  cases f with
  | atom a => simp [literals, isSignedAtom, Option.guard]
  | neg f => cases f <;> simp [literals, isSignedAtom, Option.guard]
  | binary c f g =>
      rcases c with (_ | _) | _ | _
      · simp [literals, isSignedAtom, Option.guard]
      · exact absurd rfl (whole f g)
      · simp [literals, isSignedAtom, Option.guard]
      · simp [literals, isSignedAtom, Option.guard]
  | quant q x f => simp [literals, isSignedAtom, Option.guard]

/-- A conjunction without clauses names the first part of an operand that is no literal. -/
theorem clauses_eq_error_iff {f part : Formula} :
    f.clauses = .error part ↔
      ((f.operands .and).flatMap (operands .or)).find? (fun g => !g.isSignedAtom) = some part := by
  rw [List.find?_flatMap]
  refine refused_iff (fun _ _ => rfl) (fun f whole part => ?_) f part
  rw [← literals_eq_error_iff, clauses]
  · cases f.literals <;> simp [bind, Except.bind]
  · exact whole

/-- A part without values from outside is named in the applicative notation. -/
theorem failureAt_of_foreignValues_eq_nil (cause : String → Failure) {part : Formula}
    (empty : part.foreignValues = []) : failureAt cause part = cause part.applicative := by
  rw [failureAt, applicative?, withTerms_of_foreignValues_eq_nil empty]
  rfl

/-- The clauses of a formula can be listed exactly if it has a conjunctive normal form that is the
formula itself. Of literals under junctions the normal form is such a formula. The clauses have the
truth value of the formula for all truth values of atoms, and hold its atoms in order. If they
cannot be listed, then because of the leftmost of the parts below the conjunctions at the top, and
below the disjunctions at the top of these, that is no literal; it is named unless there are values
from outside in it. -/
theorem clausal_spec (f : Formula) :
    ((∃ cs, f.clauses? = .ok cs) ↔ f.cnf? = .ok f) ∧
      (f.IsLiteralTree → ∃ g, f.cnf? = .ok g ∧ g.cnf? = .ok g) ∧
      (∀ cs, f.clauses? = .ok cs →
        (∀ t, ClausesHoldAt t cs ↔ f.HoldsAt t) ∧ cs.flatten.map Literal.atom = f.atoms) ∧
      ∀ e, f.clauses? = .error e ↔ ∃ part,
        ((f.operands .and).flatMap (operands .or)).find? (fun g => !g.isSignedAtom) = some part ∧
          e = failureAt .notLiteral part ∧
          (part.foreignValues = [] → e = .notLiteral part.applicative) := by
  refine ⟨?_, fun tree => ?_, fun cs listed => ?_, fun e => ?_⟩
  · calc (∃ cs, f.clauses? = .ok cs)
      _ ↔ ∃ cs, f.clauses = .ok cs := exists_congr fun _ => mapError_eq_ok_iff
      _ ↔ Distributed .and f := exists_clauses_iff
      _ ↔ f.cnf = .ok f := normalForm_eq_self_iff.symm
      _ ↔ f.cnf? = .ok f := mapError_eq_ok_iff.symm
  · obtain ⟨g, found⟩ := exists_normalForm .and tree
    have distributed := distributed_normalForm tree found
    exact ⟨g, cnf?_of_cnf found, cnf?_of_cnf distributed.normalForm⟩
  · have listed := mapError_eq_ok_iff.mp listed
    exact ⟨fun t => (holdsAt_iff_of_clauses t listed).symm, (f.atoms_of_clauses listed).symm⟩
  · rw [clauses?, mapError_eq_error_iff]
    refine exists_congr fun part => ?_
    rw [clauses_eq_error_iff]
    refine and_congr_right fun _ => ⟨?_, And.left⟩
    rintro rfl
    exact ⟨rfl, failureAt_of_foreignValues_eq_nil .notLiteral⟩

/-- The double negation stands before the conjunction that is no literal either. -/
example :
    (Formula.and (.or (.atom (.pred "P" [])) (.neg (.atom (.pred "Q" []))))
      (.or (.neg (.neg (.atom (.pred "R" []))))
        (.and (.atom (.pred "S" [])) (.atom (.pred "T" []))))).clauses? =
      .error (.notLiteral "Not(Not(R))") := by
  decide +kernel

end Clausal.Formula
