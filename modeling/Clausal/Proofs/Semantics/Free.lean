import Clausal.Proofs.Semantics.Structure

/-!
# Free symbols

The occurrences of symbols that no quantifier binds. Of an assignment a formula depends on the
values of its free symbols only (`Formula.holds_congr_of_free`).

A formula is rectified when no variable is bound by two quantifiers and no bound variable occurs
outside the scope of its quantifier (`Formula.Rectified`). Function and predicate names do not
count: they may be spelled like variables. The function names are listed apart
(`Formula.functions`).
-/

universe u

namespace Clausal

mutual

/-- The symbols of a term, from left to right and with repetitions. -/
def Term.symbols : Term → List String
  | .sym name => [name]
  | .app _ args => Term.symbolsList args
  | .foreign _ => []

def Term.symbolsList : List Term → List String
  | [] => []
  | t :: ts => t.symbols ++ Term.symbolsList ts

end

mutual

/-- The function names of a term, from left to right and with repetitions. -/
def Term.functions : Term → List String
  | .sym _ => []
  | .app name args => name :: Term.functionsList args
  | .foreign _ => []

def Term.functionsList : List Term → List String
  | [] => []
  | t :: ts => t.functions ++ Term.functionsList ts

end

theorem Term.functionsList_eq_flatMap (ts : List Term) :
    Term.functionsList ts = ts.flatMap Term.functions := by
  induction ts with
  | nil => rfl
  | cons t ts ih => rw [functionsList, ih, List.flatMap_cons]

/-- The symbols of an atom. -/
def Atom.symbols (a : Atom) : List String := a.terms.flatMap Term.symbols

/-- The function names of an atom. -/
def Atom.functions (a : Atom) : List String := a.terms.flatMap Term.functions

namespace Formula

/-- The symbols that occur in the atoms of a formula, bound or not. -/
def symbols (f : Formula) : List String := f.atoms.flatMap Atom.symbols

/-- The function names of a formula. -/
def functions (f : Formula) : List String := f.atoms.flatMap Atom.functions

/-- The occurrences of symbols that no quantifier binds, from left to right. -/
def free : Formula → List String
  | .atom a => a.terms.flatMap Term.symbols
  | .neg f => f.free
  | .binary _ f g => f.free ++ g.free
  | .quant _ x f => f.free.filter (· ≠ x)

/-- A quantifier binds its variable and nothing else. -/
theorem mem_free_quant {q : Quantifier} {x y : String} {f : Formula} :
    y ∈ (quant q x f).free ↔ y ∈ f.free ∧ y ≠ x := by
  rw [free, List.mem_filter, decide_eq_true_eq]

end Formula

mutual

/-- The names of a term are its symbols and its function names. -/
theorem Term.mem_names {y : String} : (t : Term) →
    (y ∈ t.names ↔ y ∈ t.symbols ∨ y ∈ t.functions)
  | .sym name => (or_iff_left List.not_mem_nil).symm
  | .app name args => by
      rw [Term.names, Term.symbols, Term.functions, List.mem_cons, List.mem_cons,
        Term.mem_namesList args, or_left_comm]
  | .foreign _ => (or_iff_left List.not_mem_nil).symm

theorem Term.mem_namesList {y : String} : (ts : List Term) →
    (y ∈ Term.namesList ts ↔ y ∈ Term.symbolsList ts ∨ y ∈ Term.functionsList ts)
  | [] => (or_iff_left List.not_mem_nil).symm
  | t :: ts => by
      rw [Term.namesList, Term.symbolsList, Term.functionsList, List.mem_append, List.mem_append,
        List.mem_append, t.mem_names, Term.mem_namesList ts, or_or_or_comm]

end

theorem Term.symbols_subset_names (t : Term) : t.symbols ⊆ t.names :=
  fun _ symbol => t.mem_names.mpr (.inl symbol)

/-- A name in an atom is a symbol or a function. -/
theorem Atom.mem_names {y : String} (a : Atom) :
    y ∈ a.names ↔ y ∈ a.symbols ∨ y ∈ a.functions := by
  simp only [Atom.names, Atom.symbols, Atom.functions, List.mem_flatMap, Term.mem_names,
    and_or_left, exists_or]

/-- The names in use in a formula are its quantified variables and the names in its atoms. -/
theorem Formula.mem_names {y : String} (f : Formula) :
    y ∈ f.names ↔ y ∈ f.boundNames ∨ y ∈ f.symbols ∨ y ∈ f.functions := by
  induction f with
  | atom a =>
      simp only [names, boundNames, symbols, functions, atoms, List.flatMap_singleton, a.mem_names,
        List.not_mem_nil, false_or]
  | neg f ih => exact ih
  | binary c f g ihf ihg =>
      simp only [names, boundNames, symbols, functions, atoms, List.flatMap_append, List.mem_append]
        at ihf ihg ⊢
      rw [ihf, ihg, or_or_or_comm, or_or_or_comm (b := y ∈ f.atoms.flatMap Atom.functions)]
  | quant q x f ih =>
      rw [names, boundNames, List.mem_cons, List.mem_cons, ih, or_assoc]
      rfl

theorem Formula.free_subset_names (f : Formula) : f.free ⊆ f.names := by
  induction f with
  | atom a =>
      intro y member
      obtain ⟨t, inside, symbol⟩ := List.mem_flatMap.mp member
      exact List.mem_flatMap.mpr ⟨t, inside, t.symbols_subset_names symbol⟩
  | neg f ih => exact ih
  | binary c f g ihf ihg =>
      exact List.append_subset.mpr ⟨List.subset_append_of_subset_left _ ihf,
        List.subset_append_of_subset_right _ ihg⟩
  | quant q x f ih =>
      intro y member
      exact List.mem_cons_of_mem x (ih (mem_free_quant.mp member).1)

theorem Formula.functions_subset_names (f : Formula) : f.functions ⊆ f.names :=
  fun _ function => f.mem_names.mpr (.inr (.inr function))

section

variable {D : Type u} {M : Structure D} {v w : Assignment D}

mutual

/-- The value of a term depends on the values of its symbols only. -/
theorem Term.value_congr_of_symbols : (t : Term) → (∀ x ∈ t.symbols, v x = w x) →
    t.value M v = t.value M w
  | .sym name, same => same name (List.mem_singleton_self name)
  | .app name args, same => by
      rw [Term.value, Term.value, Term.valueList_congr_of_symbols args same]
  | .foreign _, _ => rfl

theorem Term.valueList_congr_of_symbols : (ts : List Term) →
    (∀ x ∈ Term.symbolsList ts, v x = w x) → Term.valueList M v ts = Term.valueList M w ts
  | [], _ => rfl
  | t :: ts, same => by
      obtain ⟨first, others⟩ := List.forall_mem_append.mp same
      rw [Term.valueList, Term.valueList, Term.value_congr_of_symbols t first,
        Term.valueList_congr_of_symbols ts others]

end

/-- A term does not depend on a symbol that does not occur in it, not even if a function has that
name. -/
theorem Term.value_update_of_not_mem {t : Term} {x : String} (absent : x ∉ t.symbols) (d : D) :
    t.value M (Function.update v x d) = t.value M v := by
  refine t.value_congr_of_symbols fun y inside => Function.update_of_ne ?_ d v
  rintro rfl
  exact absent inside

theorem Atom.holds_congr_of_symbols (a : Atom) (same : ∀ x ∈ a.symbols, v x = w x) :
    a.Holds M v ↔ a.Holds M w := by
  have terms : ∀ t ∈ a.terms, t.value M v = t.value M w := by
    intro t inside
    exact t.value_congr_of_symbols fun x symbol =>
      same x (List.mem_flatMap.mpr ⟨t, inside, symbol⟩)
  cases a with
  | pred name args =>
      have values : args.map (Term.value M v) = args.map (Term.value M w) :=
        List.map_congr_left terms
      rw [Atom.Holds, Atom.Holds, values]
  | relation r lhs rhs =>
      rw [Atom.Holds, Atom.Holds, terms lhs (by simp [Atom.terms]),
        terms rhs (by simp [Atom.terms])]

namespace Formula

/-- A formula depends on the values of its free symbols only. -/
theorem holds_congr_of_free (f : Formula) (same : ∀ x ∈ f.free, v x = w x) :
    f.Holds M v ↔ f.Holds M w := by
  induction f generalizing v w with
  | atom a => exact a.holds_congr_of_symbols same
  | neg f ih => exact not_congr (ih same)
  | binary c f g ihf ihg =>
      obtain ⟨left, right⟩ := List.forall_mem_append.mp same
      exact c.holds_congr (ihf left) (ihg right)
  | quant q x f ih =>
      refine q.holds_congr fun d => ih fun y member => ?_
      by_cases bound : y = x
      · subst bound
        rw [Function.update_self, Function.update_self]
      · rw [Function.update_of_ne bound, Function.update_of_ne bound]
        exact same y (mem_free_quant.mpr ⟨member, bound⟩)

/-- A formula does not depend on a symbol that does not occur free in it. -/
theorem holds_update_of_not_mem_free {f : Formula} {x : String} (absent : x ∉ f.free) (d : D) :
    f.Holds M (Function.update v x d) ↔ f.Holds M v := by
  refine f.holds_congr_of_free fun y member => Function.update_of_ne ?_ d v
  rintro rfl
  exact absent member

end Formula

end

namespace Formula

/-- No variable is bound by two quantifiers, and no bound variable occurs outside the scope of its
quantifier. -/
structure Rectified (f : Formula) : Prop where
  nodup : f.boundNames.Nodup
  inside : ∀ x ∈ f.boundNames, x ∉ f.free

namespace Rectified

variable {f g : Formula} {c : Connective} {q : Quantifier} {x : String}

theorem left (rectified : (binary c f g).Rectified) : f.Rectified where
  nodup := (List.nodup_append.mp rectified.nodup).1
  inside y bound member :=
    rectified.inside y (List.mem_append_left _ bound) (List.mem_append_left _ member)

theorem right (rectified : (binary c f g).Rectified) : g.Rectified where
  nodup := (List.nodup_append.mp rectified.nodup).2.1
  inside y bound member :=
    rectified.inside y (List.mem_append_right _ bound) (List.mem_append_right _ member)

/-- A variable bound in the scope of a quantifier is not its variable, so that what is free in the
scope is free outside of it. -/
theorem scope (rectified : (quant q x f).Rectified) : f.Rectified where
  nodup := (List.nodup_cons.mp rectified.nodup).2
  inside y bound member := by
    have other : y ≠ x := by
      rintro rfl
      exact (List.nodup_cons.mp rectified.nodup).1 bound
    exact rectified.inside y (List.mem_cons_of_mem x bound) (mem_free_quant.mpr ⟨member, other⟩)

/-- A variable bound in the left operand does not occur in the right one, neither free nor
bound. -/
theorem left_absent (rectified : (binary c f g).Rectified) :
    ∀ y ∈ f.boundNames, y ∉ g.boundNames ∧ y ∉ g.free := by
  intro y bound
  refine ⟨fun other => ?_, fun member => ?_⟩
  · exact (List.nodup_append.mp rectified.nodup).2.2 y bound y other rfl
  · exact rectified.inside y (List.mem_append_left _ bound) (List.mem_append_right _ member)

/-- Variables bound on the right do not occur free or bound on the left. -/
theorem right_absent (rectified : (binary c f g).Rectified) :
    ∀ y ∈ g.boundNames, y ∉ f.boundNames ∧ y ∉ f.free := by
  intro y bound
  refine ⟨fun other => ?_, fun member => ?_⟩
  · exact (List.nodup_append.mp rectified.nodup).2.2 y other y bound rfl
  · exact rectified.inside y (List.mem_append_right _ bound) (List.mem_append_left _ member)

end Rectified

end Formula

end Clausal
