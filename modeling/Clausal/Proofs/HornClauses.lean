import Clausal.Clause.Horn
import Clausal.Proofs.Semantics.Clause
import Clausal.Worksheet.Application

/-!
# Models of Horn clauses

A report on clauses numbers those with several positive literals, in order
(`HornReport.mem_violations_iff`, `HornReport.pairwise_violations`). A Horn clause has one positive
literal at most. So two valuations in which no negative literal of it is true agree on the positive
one that is, and whatever both of them make true satisfies the clause
(`Clause.holdsAt_inter_of_isHorn`): what satisfies a list of Horn clauses is closed under
intersection (`HornReport.ofClauses_spec`).
-/

namespace Clausal

/-- The atoms that are true under both of two valuations. -/
def Valuation.inter (t u : Valuation) : Valuation := fun a => t a ∧ u a

namespace Literal

variable {t u : Valuation} {l : Literal}

/-- A positive literal holds where its atom does. -/
theorem holdsAt_of_isPositive (positive : l.isPositive = true) : l.HoldsAt t ↔ t l.atom := by
  obtain ⟨a, _ | _⟩ := l
  · exact Iff.rfl
  · cases positive

/-- A negative literal holds where its atom does not. -/
theorem holdsAt_of_not_isPositive (negative : ¬ l.isPositive = true) :
    l.HoldsAt t ↔ ¬ t l.atom := by
  obtain ⟨a, _ | _⟩ := l
  · exact absurd rfl negative
  · exact Iff.rfl

/-- A negative literal is not refuted by fewer atoms. -/
theorem holdsAt_inter_of_not_isPositive (negative : ¬ l.isPositive = true)
    (holds : l.HoldsAt t ∨ l.HoldsAt u) : l.HoldsAt (t.inter u) := by
  simp only [holdsAt_of_not_isPositive negative] at holds ⊢
  exact fun both => holds.elim (· both.1) (· both.2)

end Literal

namespace Clause

variable {c : Clause}

/-- The positive literals of a Horn clause are all the same. -/
theorem eq_of_isHorn (horn : c.isHorn = true) {l m : Literal} (left : l ∈ c) (right : m ∈ c)
    (first : l.isPositive = true) (second : m.isPositive = true) : l = m := by
  have few : (c.filter Literal.isPositive).length ≤ 1 := by
    rw [← List.countP_eq_length_filter]
    exact of_decide_eq_true horn
  have left' : l ∈ c.filter Literal.isPositive := List.mem_filter.mpr ⟨left, first⟩
  have right' : m ∈ c.filter Literal.isPositive := List.mem_filter.mpr ⟨right, second⟩
  match found : c.filter Literal.isPositive, few with
  | [], _ =>
      rw [found] at left'
      cases left'
  | [k], _ =>
      rw [found, List.mem_singleton] at left' right'
      exact left'.trans right'.symm

/-- What is true under both of two valuations that satisfy a Horn clause satisfies it. -/
theorem holdsAt_inter_of_isHorn (horn : c.isHorn = true) {t u : Valuation} (left : HoldsAt t c)
    (right : HoldsAt u c) : HoldsAt (t.inter u) c := by
  obtain ⟨l, inside, holds⟩ := left
  obtain ⟨m, inside', holds'⟩ := right
  by_cases first : l.isPositive = true
  · by_cases second : m.isPositive = true
    · obtain rfl := eq_of_isHorn horn inside inside' first second
      rw [Literal.holdsAt_of_isPositive first] at holds holds'
      exact ⟨l, inside, (Literal.holdsAt_of_isPositive first).mpr ⟨holds, holds'⟩⟩
    · exact ⟨m, inside', Literal.holdsAt_inter_of_not_isPositive second (.inr holds')⟩
  · exact ⟨l, inside, Literal.holdsAt_inter_of_not_isPositive first (.inl holds)⟩

/-- A clause that is not a Horn clause has two positive literals at least. -/
theorem isHorn_eq_false_iff : c.isHorn = false ↔ 2 ≤ c.countP fun l => !l.negated := by
  rw [isHorn, decide_eq_false_iff_not, Nat.not_le]
  rfl

end Clause

namespace HornReport

/-- The numbers of the flags that are not set are counted from the given one on. -/
theorem mem_violations_iff {number n : Nat} {flags : List Bool} :
    n ∈ violations number flags ↔ ∃ i, flags[i]? = some false ∧ n = i + number := by
  induction flags generalizing number with
  | nil => simp [violations]
  | cons horn flags ih =>
      have later : n ∈ violations (number + 1) flags ↔
          ∃ i, (horn :: flags)[i + 1]? = some false ∧ n = i + 1 + number := by
        rw [ih]
        simp only [List.getElem?_cons_succ, Nat.add_assoc, Nat.add_comm number 1]
      rw [← Nat.or_exists_add_one, ← later]
      cases horn <;> simp [violations]

/-- The numbers come in order. -/
theorem pairwise_violations (number : Nat) (flags : List Bool) :
    (violations number flags).Pairwise (· < ·) := by
  induction flags generalizing number with
  | nil => exact .nil
  | cons horn flags ih =>
      cases horn with
      | true => exact ih (number + 1)
      | false =>
          refine .cons (fun n member => ?_) (ih (number + 1))
          obtain ⟨i, _, rfl⟩ := mem_violations_iff.mp member
          omega

variable {cs : List Clause}

/-- A clause has its number in the report if it has two positive literals, even of the same atom. -/
theorem mem_violating_iff {n : Nat} :
    n ∈ (ofClauses cs).violating ↔
      ∃ i c, cs[i]? = some c ∧ n = i + 1 ∧ 2 ≤ c.countP fun l => !l.negated := by
  refine mem_violations_iff.trans (exists_congr fun i => ?_)
  rw [List.getElem?_map, Option.map_eq_some_iff, ← exists_and_right]
  refine exists_congr fun c => ?_
  rw [Clause.isHorn_eq_false_iff, and_assoc, and_comm (a := 2 ≤ _)]

/-- All clauses are Horn clauses exactly if none is named. -/
theorem isHorn_ofClauses_iff : (ofClauses cs).isHorn = true ↔ (ofClauses cs).violating = [] :=
  List.isEmpty_iff

/-- If no clause is named, each is a Horn clause. -/
theorem isHorn_of_mem (horn : (ofClauses cs).isHorn = true) {c : Clause} (member : c ∈ cs) :
    c.isHorn = true := by
  obtain ⟨i, found⟩ := List.mem_iff_getElem?.mp member
  by_contra several
  have listed : i + 1 ∈ (ofClauses cs).violating := mem_violating_iff.mpr
    ⟨i, c, found, rfl, Clause.isHorn_eq_false_iff.mp (eq_false_of_ne_true several)⟩
  rw [isHorn_ofClauses_iff.mp horn] at listed
  cases listed

end HornReport

namespace Worksheet

/-- Where every item of a list has a value, the list has the values of its items. -/
theorem mapM_map_of_eq_ok {α β γ ε : Type} {f : β → Except ε γ} {g : α → β} {h : α → γ}
    (found : ∀ x, f (g x) = .ok (h x)) (xs : List α) : (xs.map g).mapM f = .ok (xs.map h) := by
  have values : f ∘ g = fun x => pure (h x) := funext found
  rw [List.mapM_map, values, List.mapM_pure]
  rfl

/-- What a literal counts in a clause. -/
def weight (l : Literal) : Nat := if l.isPositive then 1 else 0

/-- A literal counts one if it is positive and nothing otherwise. -/
theorem countOf_ofLiteral (l : Literal) : countOf (.ofLiteral l) = .ok (weight l) := by
  obtain ⟨a, _ | _⟩ := l <;> rfl

/-- The weights of the literals add up to the number of positive ones. -/
theorem foldr_weight (c : Clause) :
    (c.map weight).foldr (· + ·) 0 = c.countP Literal.isPositive := by
  induction c with
  | nil => rfl
  | cons l c ih => rw [List.map_cons, List.foldr_cons, ih, List.countP_cons, weight, Nat.add_comm]

/-- The check of a clause comes to whether it is a Horn clause. -/
theorem isHorn_ofClause (c : Clause) : isHorn (.ofClause c) = .ok c.isHorn := by
  change (List.mapM countOf (c.map Value.ofLiteral) >>= _) = _
  rw [mapM_map_of_eq_ok countOf_ofLiteral, Clause.isHorn, ← foldr_weight]
  rfl

/-- Clauses are reported on a worksheet as they are elsewhere. -/
theorem apply_horn (cs : List Clause) :
    Operation.apply .horn [.list (cs.map .ofClause)] = .ok (.horn (.ofClauses cs)) := by
  change (List.mapM isHorn (cs.map Value.ofClause) >>= _) = _
  rw [mapM_map_of_eq_ok isHorn_ofClause]
  rfl

end Worksheet

namespace HornReport

/-- The report numbers the clauses from one on, and lists in order those with at least two positive
literals. The clauses count as Horn if there are none, and then all that two valuations which
satisfy them make true alike satisfies them as well. Clauses on a worksheet have the same
report. -/
theorem ofClauses_spec (cs : List Clause) :
    (ofClauses cs).violating.Pairwise (· < ·) ∧
      (∀ n, n ∈ (ofClauses cs).violating ↔
        ∃ i c, cs[i]? = some c ∧ n = i + 1 ∧ 2 ≤ c.countP fun l => !l.negated) ∧
      ((ofClauses cs).isHorn = true ↔ (ofClauses cs).violating = []) ∧
      ((ofClauses cs).isHorn = true → ∀ t u : Valuation,
        ClausesHoldAt t cs → ClausesHoldAt u cs → ClausesHoldAt (t.inter u) cs) ∧
      Worksheet.Operation.apply .horn [.list (cs.map .ofClause)] = .ok (.horn (ofClauses cs)) := by
  refine ⟨pairwise_violations 1 _, fun n => mem_violating_iff, isHorn_ofClauses_iff, ?_,
    Worksheet.apply_horn cs⟩
  intro horn t u left right c member
  exact Clause.holdsAt_inter_of_isHorn (isHorn_of_mem horn member) (left c member)
    (right c member)

/-- A literal that is repeated counts twice, and a negated inequation is no positive literal. -/
example : ofClauses
    [[⟨.pred "P" [], false⟩, ⟨.pred "P" [], false⟩],
      [⟨.relation .ne (.sym "x") (.sym "y"), true⟩, ⟨.pred "P" [], false⟩],
      [⟨.relation .ne (.sym "x") (.sym "y"), false⟩, ⟨.pred "P" [], false⟩]] =
    ⟨false, [1, 3]⟩ := by
  decide

end HornReport

end Clausal
