import Mathlib.Logic.Function.Basic
import Clausal.Formula.Basic

/-!
# Structures

The meaning of formulas. A structure over a domain interprets function and
predicate symbols by their name and their number of arguments; an equation is
identity and an inequation its negation. Symbols get their values from an
assignment, which the quantifiers change at the variables they bind. A domain
with an assignment is never empty.

A formula depends only on what its names mean (`Formula.holds_congr_of_agreement`),
and junctions and quantifiers turn into their duals under a negation
(`Junction.holds_under`, `Quantifier.holds_under`).
-/

universe u

namespace Clausal

/-- An interpretation of function and predicate symbols over a domain. The length
of the argument list is the arity. Values handed in from outside stand for fixed
elements. -/
structure Structure (D : Type u) where
  function : String → List D → D
  predicate : String → List D → Prop
  foreign : Expression → D

/-- Values for symbols. -/
abbrev Assignment (D : Type u) := String → D

variable {D : Type u}

mutual

/-- The element that a term denotes. -/
def Term.value (M : Structure D) (v : Assignment D) : Term → D
  | .sym name => v name
  | .app name args => M.function name (Term.valueList M v args)
  | .foreign value => M.foreign value

def Term.valueList (M : Structure D) (v : Assignment D) : List Term → List D
  | [] => []
  | t :: ts => t.value M v :: Term.valueList M v ts

end

theorem Term.valueList_eq_map (M : Structure D) (v : Assignment D) (ts : List Term) :
    Term.valueList M v ts = ts.map (Term.value M v) := by
  induction ts with
  | nil => rfl
  | cons t ts ih => rw [Term.valueList, ih, List.map_cons]

/-- The fixed meaning of a relation. -/
def Relation.Holds : Relation → D → D → Prop
  | .eq, a, b => a = b
  | .ne, a, b => a ≠ b

def Atom.Holds (M : Structure D) (v : Assignment D) : Atom → Prop
  | .pred name args => M.predicate name (args.map (Term.value M v))
  | .relation r lhs rhs => r.Holds (lhs.value M v) (rhs.value M v)

def Junction.Holds : Junction → Prop → Prop → Prop
  | .and, p, q => p ∧ q
  | .or, p, q => p ∨ q

def Connective.Holds : Connective → Prop → Prop → Prop
  | .junction j, p, q => j.Holds p q
  | .implies, p, q => p → q
  | .iff, p, q => p ↔ q

def Quantifier.Holds : Quantifier → (D → Prop) → Prop
  | .all, p => ∀ d, p d
  | .ex, p => ∃ d, p d

/-- The truth of a formula. A quantifier ranges over the values of its
variable. -/
def Formula.Holds (M : Structure D) : Formula → Assignment D → Prop
  | .atom a, v => a.Holds M v
  | .neg f, v => ¬ f.Holds M v
  | .binary c f g, v => c.Holds (f.Holds M v) (g.Holds M v)
  | .quant q x f, v => q.Holds fun d => f.Holds M (Function.update v x d)

/-- A junction depends on the truth of its parts only. -/
theorem Junction.holds_congr (j : Junction) {p p' q q' : Prop} (left : p ↔ p') (right : q ↔ q') :
    j.Holds p q ↔ j.Holds p' q' := by
  rw [propext left, propext right]

/-- A connective depends on the truth of its parts only. -/
theorem Connective.holds_congr (c : Connective) {p p' q q' : Prop} (left : p ↔ p')
    (right : q ↔ q') : c.Holds p q ↔ c.Holds p' q' := by
  rw [propext left, propext right]

/-- A quantifier depends on the truth of its instances only. -/
theorem Quantifier.holds_congr (q : Quantifier) {p p' : D → Prop} (same : ∀ d, p d ↔ p' d) :
    q.Holds p ↔ q.Holds p' := by
  rw [funext fun d => propext (same d)]

/-- Under a negation a junction of negated parts is the negated junction. -/
theorem Junction.holds_under (j : Junction) (negated : Bool) (p q : Prop) :
    (j.under negated).Holds (p ↔ negated = false) (q ↔ negated = false) ↔
      (j.Holds p q ↔ negated = false) := by
  cases negated with
  | false => simp only [Junction.under, Bool.false_eq_true, ↓reduceIte, iff_true]
  | true => cases j <;> simp only [Junction.under, Junction.dual, Junction.Holds, ↓reduceIte,
      Bool.true_eq_false, iff_false, not_and_or, not_or]

/-- A part under one negation more is true exactly if its negation has the
polarity. -/
theorem iff_not_eq_false_iff (p : Prop) (negated : Bool) :
    (p ↔ (!negated) = false) ↔ (¬ p ↔ negated = false) := by
  cases negated <;> simp

/-- An implication is a disjunction whose left part stands under one negation
more. -/
theorem Junction.holds_under_arrow (negated : Bool) (p q : Prop) :
    (Junction.or.under negated).Holds (p ↔ (!negated) = false) (q ↔ negated = false) ↔
      ((p → q) ↔ negated = false) := by
  rw [iff_not_eq_false_iff, Junction.holds_under, Junction.Holds, imp_iff_not_or]

/-- Under a negation a quantifier over the negated property is the negated
quantifier. -/
theorem Quantifier.holds_under (q : Quantifier) (negated : Bool) (p : D → Prop) :
    (q.under negated).Holds (fun d => p d ↔ negated = false) ↔ (q.Holds p ↔ negated = false) := by
  cases negated with
  | false => simp only [Quantifier.under, Bool.false_eq_true, ↓reduceIte, iff_true]
  | true => cases q <;> simp only [Quantifier.under, Quantifier.dual, Quantifier.Holds, ↓reduceIte,
      Bool.true_eq_false, iff_false, not_forall, not_exists]

/-- A junction may be decided under a quantifier if one part does not depend on
the value. -/
theorem Quantifier.holds_junction_left [Nonempty D] (q : Quantifier) (j : Junction)
    (p : D → Prop) (r : Prop) : q.Holds (fun d => j.Holds (p d) r) ↔ j.Holds (q.Holds p) r := by
  cases q <;> cases j <;>
    simp only [Quantifier.Holds, Junction.Holds, forall_and_right, exists_and_right,
      forall_or_right, exists_or, exists_const]

theorem Quantifier.holds_junction_right [Nonempty D] (q : Quantifier) (j : Junction)
    (p : D → Prop) (r : Prop) : q.Holds (fun d => j.Holds r (p d)) ↔ j.Holds r (q.Holds p) := by
  cases q <;> cases j <;>
    simp only [Quantifier.Holds, Junction.Holds, forall_and_left, exists_and_left,
      forall_or_left, exists_or, exists_const]

/-- Two structures with assignments give the same meaning to the listed names, to
all predicates and to all values from outside. -/
structure Agreement (names : List String) (M : Structure D) (v : Assignment D)
    (N : Structure D) (w : Assignment D) : Prop where
  symbol : ∀ x ∈ names, v x = w x
  function : ∀ f ∈ names, ∀ ds, M.function f ds = N.function f ds
  predicate : ∀ p ds, M.predicate p ds ↔ N.predicate p ds
  foreign : ∀ e, M.foreign e = N.foreign e

variable {M N : Structure D} {v w : Assignment D}

theorem Agreement.mono {names fewer : List String} (agree : Agreement names M v N w)
    (subset : fewer ⊆ names) : Agreement fewer M v N w where
  symbol x member := agree.symbol x (subset member)
  function f member := agree.function f (subset member)
  predicate := agree.predicate
  foreign := agree.foreign

/-- Structures still agree when a variable gets the same value in both. -/
theorem Agreement.update {names : List String} (agree : Agreement names M v N w) (x : String)
    (d : D) : Agreement names M (Function.update v x d) N (Function.update w x d) where
  symbol y member := by
    by_cases same : y = x
    · subst same
      rw [Function.update_self, Function.update_self]
    · rw [Function.update_of_ne same, Function.update_of_ne same]
      exact agree.symbol y member
  function := agree.function
  predicate := agree.predicate
  foreign := agree.foreign

mutual

/-- A term depends on its names only. -/
theorem Term.value_congr_of_agreement : (t : Term) → Agreement t.names M v N w →
    t.value M v = t.value N w
  | .sym name, agree => agree.symbol name (List.mem_singleton_self name)
  | .app name args, agree => by
      have inner := Term.valueList_congr_of_agreement args
        (agree.mono (List.subset_cons_self name (Term.namesList args)))
      rw [Term.value, Term.value, inner]
      exact agree.function name List.mem_cons_self _
  | .foreign value, agree => agree.foreign value

theorem Term.valueList_congr_of_agreement : (ts : List Term) →
    Agreement (Term.namesList ts) M v N w → Term.valueList M v ts = Term.valueList N w ts
  | [], _ => rfl
  | t :: ts, agree => by
      rw [Term.valueList, Term.valueList,
        Term.value_congr_of_agreement t (agree.mono (List.subset_append_left _ _)),
        Term.valueList_congr_of_agreement ts (agree.mono (List.subset_append_right _ _))]

end

/-- Atoms hold together in structures that agree on their names. -/
theorem Atom.holds_congr_of_agreement (a : Atom) (agree : Agreement a.names M v N w) :
    a.Holds M v ↔ a.Holds N w := by
  have terms : ∀ t ∈ a.terms, t.value M v = t.value N w := by
    intro t member
    exact t.value_congr_of_agreement
      (agree.mono fun _ inside => List.mem_flatMap.mpr ⟨t, member, inside⟩)
  cases a with
  | pred name args =>
      have values : args.map (Term.value M v) = args.map (Term.value N w) :=
        List.map_congr_left terms
      rw [Atom.Holds, Atom.Holds, values]
      exact agree.predicate name _
  | relation r lhs rhs =>
      rw [Atom.Holds, Atom.Holds, terms lhs (by simp [Atom.terms]),
        terms rhs (by simp [Atom.terms])]

/-- A formula depends on its names and its predicates only. -/
theorem Formula.holds_congr_of_agreement (f : Formula) (agree : Agreement f.names M v N w) :
    f.Holds M v ↔ f.Holds N w := by
  induction f generalizing v w with
  | atom a => exact a.holds_congr_of_agreement agree
  | neg f ih => exact not_congr (ih agree)
  | binary c f g ihf ihg =>
      exact c.holds_congr (ihf (agree.mono (List.subset_append_left _ _)))
        (ihg (agree.mono (List.subset_append_right _ _)))
  | quant q x f ih =>
      refine q.holds_congr fun d => ih ?_
      exact (agree.mono (List.subset_cons_self x f.names)).update x d

/-- A name that is not listed may take any value. -/
theorem agreement_update_of_not_mem {names : List String} {x : String} (absent : x ∉ names)
    (d : D) : Agreement names M (Function.update v x d) M v where
  symbol y member := by
    have other : y ≠ x := fun same => absent (same ▸ member)
    exact Function.update_of_ne other d v
  function _ _ _ := rfl
  predicate _ _ := Iff.rfl
  foreign _ := rfl

/-- Two formulas are true in the same structures under the same assignments. -/
def Formula.Equivalent (f g : Formula) : Prop :=
  ∀ (D : Type u) (M : Structure D) (v : Assignment D), f.Holds M v ↔ g.Holds M v

end Clausal
