import Clausal.Proofs.Stages
import Clausal.Worksheet.Replacement

/-!
# Replacing symbols on worksheets

A table on a worksheet may hold any values. If it holds terms of the logic for symbols, replacing
by it in a formula of such terms is a substitution (`Worksheet.Table.inFormula_ofSubstitution`).
What is put in is converted as an argument of a function, which changes nothing in a term of the
logic; only the name of the function has to be one that may be given (`Formula.Lawful`).
-/

namespace Clausal

namespace Term

mutual

/-- A term of the logic is found again in its expression. -/
theorem ofExpression_toExpression : (t : Term) → t.foreignValues = [] →
    ofExpression t.toExpression = t
  | .sym _, _ => rfl
  | .app name args, empty => by
      rw [toExpression, ofExpression, ofExpressions_toExpressions args empty]

/-- Terms of the logic are recovered from their expressions. -/
theorem ofExpressions_toExpressions : (ts : List Term) → foreignValuesList ts = [] →
    ofExpressions (toExpressions ts) = ts
  | [], _ => rfl
  | t :: ts, empty => by
      obtain ⟨first, others⟩ := List.append_eq_nil_iff.mp empty
      rw [toExpressions, ofExpressions, ofExpression_toExpression t first,
        ofExpressions_toExpressions ts others]

end

/-- The expression of a term of the logic is a symbol or an application. -/
theorem plain_of_foreignValues_eq_nil {t : Term} (empty : t.foreignValues = []) :
    (∃ x, t = .sym x) ∨ ∃ name args, t = .app name args := by
  cases t with
  | sym x => exact .inl ⟨x, rfl⟩
  | app name args => exact .inr ⟨name, args, rfl⟩
  | foreign value => cases empty

end Term

/-- The terms of a formula are terms of the logic, and its functions have names that may be
given. -/
structure Formula.Lawful (f : Formula) : Prop where
  logical : f.foreignValues = []
  names : ∀ name ∈ f.functions, '\x00' ∉ name.toList

namespace Worksheet

open Value

section

variable {t : Term} (empty : t.foreignValues = [])
include empty

/-- A term of the logic is handed over as an expression. -/
theorem ofTerm_eq : ofTerm t = .expression t.toExpression := by
  rcases Term.plain_of_foreignValues_eq_nil empty with ⟨x, rfl⟩ | ⟨name, args, rfl⟩ <;> rfl

/-- The expression of a term is no function symbol by itself. -/
theorem functorName?_toExpression : functorName? (.expression t.toExpression) = none := by
  rcases Term.plain_of_foreignValues_eq_nil empty with ⟨x, rfl⟩ | ⟨name, args, rfl⟩ <;> rfl

/-- The expression of a term of the logic is taken as that term. -/
theorem term?_toExpression : term? (.expression t.toExpression) = .ok t := by
  have plain : t.toExpression.isPlain := by
    rcases Term.plain_of_foreignValues_eq_nil empty with ⟨x, rfl⟩ | ⟨name, args, rfl⟩ <;> rfl
  rw [term?, if_pos plain, t.ofExpression_toExpression empty]

end

/-- Values that are all expressions are a list of expressions. -/
theorem expressions?_map_expression (es : List Expression) :
    expressions? (es.map .expression) = some es := by
  rw [expressions?, List.mapM_map]
  induction es with
  | nil => rfl
  | cons e es ih =>
      rw [List.mapM_cons, ih]
      rfl

/-- Expressions can be arguments as they are. -/
theorem mapM_argument?_map_expression (es : List Expression) :
    (es.map Value.expression).mapM argument? = .ok es := by
  induction es with
  | nil => rfl
  | cons e es ih =>
      rw [List.map_cons, List.mapM_cons, ih]
      rfl

/-- Expressions are not converted again. -/
theorem convertedItems_map_expression (meaning : Meaning) (es : List Expression) :
    convertedItems meaning (es.map .expression) = .ok (es.map .expression) := by
  induction es with
  | nil => rfl
  | cons e es ih =>
      rw [List.map_cons, convertedItems, converted, ih]
      rfl

section

variable {ts : List Term} (empty : Term.foreignValuesList ts = [])
include empty

/-- Among the expressions of terms there are no function symbols. -/
theorem filterMap_functorName? :
    ((Term.toExpressions ts).map .expression).filterMap functorName? = [] := by
  induction ts with
  | nil => rfl
  | cons t ts ih =>
      obtain ⟨first, others⟩ := List.append_eq_nil_iff.mp empty
      rw [Term.toExpressions, List.map_cons,
        List.filterMap_cons_none (functorName?_toExpression first), ih others]

/-- The expressions of terms of the logic are taken as those terms. -/
theorem mapM_term? : ((Term.toExpressions ts).map Value.expression).mapM term? = .ok ts := by
  induction ts with
  | nil => rfl
  | cons t ts ih =>
      obtain ⟨first, others⟩ := List.append_eq_nil_iff.mp empty
      rw [Term.toExpressions, List.map_cons, List.mapM_cons, term?_toExpression first, ih others]
      rfl

/-- Converting the expressions of terms changes nothing, also a second time. -/
theorem convertedTwice_toExpressions :
    convertedTwice meaning ((Term.toExpressions ts).map .expression) =
      .ok ((Term.toExpressions ts).map .expression) := by
  rw [convertedTwice, convertedItems_map_expression]
  change (if List.isEmpty (List.filterMap functorName? _) then _ else _) = _
  rw [filterMap_functorName? empty, List.isEmpty_nil, if_pos rfl, convertedItems_map_expression]

/-- A function whose name may be given is applied to terms of the logic as they are. -/
theorem applyFunction_toExpressions {name : String} (lawful : '\x00' ∉ name.toList) :
    applyFunction name ((Term.toExpressions ts).map .expression) =
      .ok (.app name (Term.toExpressions ts)) := by
  have allowed : name.toList.contains '\x00' = false := by
    rw [← Bool.not_eq_true, List.contains_iff_mem]
    exact lawful
  rw [applyFunction, applyFunctionWith, allowed, convertedTwice_toExpressions empty]
  change ((List.map Value.expression _).mapM argument? >>= _) = _
  rw [mapM_argument?_map_expression]
  rfl

end

namespace Table

/-- The table of a substitution. -/
def ofSubstitution (s : Substitution) : Table :=
  s.map fun entry => (.ofName entry.1, .ofTerm entry.2)

/-- The table has a value for a symbol if the substitution has. -/
theorem valueFor?_sym (s : Substitution) (x : String) :
    (ofSubstitution s).valueFor? (.sym x) = (s.lookup x).map .ofTerm := by
  induction s with
  | nil => rfl
  | cons head tail ih =>
      obtain ⟨y, t⟩ := head
      rw [valueFor?, ofSubstitution, List.map_cons, List.find?_cons, List.lookup_cons]
      by_cases same : x = y
      · subst same
        simp only [ofName, sameAs, decide_true, beq_self_eq_true, Option.map_some]
      · have differ : (x == y) = false := beq_false_of_ne same
        simp only [ofName, sameAs, Expression.sym.injEq, Ne.symm same, decide_false, differ]
        exact ih

/-- The table has no value for an application. -/
theorem valueFor?_app (s : Substitution) (name : String) (args : List Expression) :
    (ofSubstitution s).valueFor? (.app name args) = none := by
  rw [valueFor?, Option.map_eq_none_iff, List.find?_eq_none]
  intro entry member
  obtain ⟨⟨x, t⟩, _, rfl⟩ := List.mem_map.mp member
  simp only [ofName, sameAs, reduceCtorEq, decide_false, Bool.false_eq_true, not_false_eq_true]

/-- A bound variable is left out of the table as it is left out of the substitution. -/
theorem erase_ofSubstitution (s : Substitution) (x : String) :
    (ofSubstitution s).erase x = ofSubstitution (s.erase x) := by
  rw [erase, ofSubstitution, ofSubstitution, Substitution.erase, List.filter_map]
  refine congrArg (List.map _) (List.filter_congr fun entry _ => ?_)
  simp only [Function.comp_apply, ofName, sameAs, Expression.sym.injEq, ne_eq, decide_not]

variable {s : Substitution}

/-- A symbol is replaced by a term of the logic. -/
theorem foreignValues_apply (logical : ∀ entry ∈ s, entry.2.foreignValues = []) (x : String) :
    (s.apply x).foreignValues = [] :=
  Substitution.apply_of_forall (P := fun t => t.foreignValues = []) rfl logical

mutual

/-- In a term of the logic the symbols of a table are replaced as by the substitution. -/
theorem inExpression_ofSubstitution (logical : ∀ entry ∈ s, entry.2.foreignValues = []) :
    (t : Term) → t.foreignValues = [] → (∀ name ∈ t.functions, '\x00' ∉ name.toList) →
      (ofSubstitution s).inExpression t.toExpression = .ok (.expression (t.subst s).toExpression)
  | .sym x, _, _ => by
      have put := foreignValues_apply logical x
      rw [Term.toExpression, inExpression, valueFor?_sym, Term.subst]
      · revert put
        rw [Substitution.apply]
        cases s.lookup x with
        | none => exact fun _ => rfl
        | some t => exact fun put => congrArg Except.ok (ofTerm_eq put)
      · exact fun _ _ => Expression.noConfusion
      · exact fun _ _ => Expression.noConfusion
  | .app name args, empty, lawful => by
      obtain ⟨head, others⟩ := List.forall_mem_cons.mp lawful
      have inside := inExpressions_ofSubstitution logical args empty others
      rw [Term.toExpression, inExpression, valueFor?_app, Term.subst, Term.toExpression]
      change (inExpressions (ofSubstitution s) (Term.toExpressions args) >>= _) = _
      rw [inside]
      change (if expressions? _ = _ then _ else _) = _
      rw [expressions?_map_expression]
      by_cases same : Term.toExpressions (Term.substList s args) = Term.toExpressions args
      · rw [if_pos (congrArg some same), same]
      · have logicalArgs : Term.foreignValuesList (Term.substList s args) = [] :=
          (Term.foreignValuesList_substList (foreignValues_apply logical) args).trans empty
        rw [if_neg fun equal => same (Option.some.inj equal),
          applyFunction_toExpressions logicalArgs head]
        rfl

/-- Replacing in arguments by the table is the substitution. -/
theorem inExpressions_ofSubstitution (logical : ∀ entry ∈ s, entry.2.foreignValues = []) :
    (ts : List Term) → Term.foreignValuesList ts = [] →
      (∀ name ∈ Term.functionsList ts, '\x00' ∉ name.toList) →
      (ofSubstitution s).inExpressions (Term.toExpressions ts) =
        .ok ((Term.toExpressions (Term.substList s ts)).map .expression)
  | [], _, _ => rfl
  | t :: ts, empty, lawful => by
      obtain ⟨first, rest⟩ := List.append_eq_nil_iff.mp empty
      obtain ⟨here, there⟩ := List.forall_mem_append.mp lawful
      rw [Term.toExpressions, inExpressions, inExpression_ofSubstitution logical t first here,
        inExpressions_ofSubstitution logical ts rest there]
      rfl

end

/-- Replacing in an atom by the table is the substitution. -/
theorem inAtom_ofSubstitution (logical : ∀ entry ∈ s, entry.2.foreignValues = []) (a : Atom)
    (empty : a.foreignValues = []) (lawful : ∀ name ∈ a.functions, '\x00' ∉ name.toList) :
    (ofSubstitution s).inAtom a = .ok (a.subst s) := by
  cases a with
  | pred name args =>
      have logicalArgs : Term.foreignValuesList args = [] :=
        (Term.foreignValuesList_eq_flatMap args).trans empty
      have lawfulArgs : ∀ name ∈ Term.functionsList args, '\x00' ∉ name.toList := by
        rw [Term.functionsList_eq_flatMap]
        exact lawful
      have kept : Term.foreignValuesList (Term.substList s args) = [] :=
        (Term.foreignValuesList_substList (foreignValues_apply logical) args).trans logicalArgs
      rw [inAtom, inExpressions_ofSubstitution logical args logicalArgs lawfulArgs]
      change (List.mapM term? _ >>= _) = _
      rw [mapM_term? kept, Atom.subst, ← Term.substList_eq_map]
      rfl
  | relation r lhs rhs =>
      obtain ⟨left, right⟩ : lhs.foreignValues = [] ∧ rhs.foreignValues = [] := by
        simpa [Atom.foreignValues, Atom.terms] using empty
      obtain ⟨lawfulLeft, lawfulRight⟩ : (∀ name ∈ lhs.functions, '\x00' ∉ name.toList) ∧
          ∀ name ∈ rhs.functions, '\x00' ∉ name.toList := by
        simpa [Atom.functions, Atom.terms, or_imp, forall_and] using lawful
      have keptLeft := (lhs.foreignValues_subst (foreignValues_apply logical)).trans left
      have keptRight := (rhs.foreignValues_subst (foreignValues_apply logical)).trans right
      rw [inAtom, inExpression_ofSubstitution logical lhs left lawfulLeft,
        inExpression_ofSubstitution logical rhs right lawfulRight]
      change (term? _ >>= fun s => term? _ >>= _) = _
      rw [term?_toExpression keptLeft, term?_toExpression keptRight]
      rfl

/-- In a lawful formula the symbols of a table are replaced as by the substitution. -/
theorem inFormula_ofSubstitution (f : Formula)
    (logical : ∀ entry ∈ s, entry.2.foreignValues = []) (lawful : f.Lawful) :
    (ofSubstitution s).inFormula f = .ok (f.subst s) := by
  obtain ⟨empty, names⟩ := lawful
  induction f generalizing s with
  | atom a =>
      have alone : a.foreignValues = [] := by
        simpa [Formula.foreignValues, Formula.atoms] using empty
      have named : ∀ name ∈ a.functions, '\x00' ∉ name.toList := by
        simpa [Formula.functions, Formula.atoms] using names
      rw [inFormula, inAtom_ofSubstitution logical a alone named]
      rfl
  | neg f ih =>
      rw [inFormula, ih logical empty names]
      rfl
  | binary c f g ihf ihg =>
      obtain ⟨left, right⟩ : f.foreignValues = [] ∧ g.foreignValues = [] := by
        rw [Formula.foreignValues, Formula.atoms, List.flatMap_append] at empty
        exact List.append_eq_nil_iff.mp empty
      obtain ⟨namedLeft, namedRight⟩ : (∀ name ∈ f.functions, '\x00' ∉ name.toList) ∧
          ∀ name ∈ g.functions, '\x00' ∉ name.toList := by
        rw [Formula.functions, Formula.atoms, List.flatMap_append] at names
        exact List.forall_mem_append.mp names
      rw [inFormula, ihf logical left namedLeft, ihg logical right namedRight]
      rfl
  | quant q x f ih =>
      have fewer : ∀ entry ∈ s.erase x, entry.2.foreignValues = [] := fun entry member =>
        logical entry (List.mem_filter.mp member).1
      rw [inFormula, erase_ofSubstitution, ih fewer empty names]
      rfl

end Table

end Worksheet

end Clausal
