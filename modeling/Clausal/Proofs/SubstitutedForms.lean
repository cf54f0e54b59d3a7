import Clausal.Proofs.Replacement
import Clausal.Proofs.Semantics.Nameless

/-!
# Substitutions in arbitrary formulas

A substitution of terms in which no bound variable of the formula occurs puts every term in at all
free occurrences of its symbol and nowhere else. So the formula says afterwards what it said before
of the values of the terms (`Formula.subst_spec`). On worksheets a table of the terms does the same.
-/

universe u

namespace Clausal

namespace Term

mutual

/-- A term outside of all quantifiers has no bound symbols. -/
theorem inward_nameless_nil : (t : Term) → (t.nameless []).inward = t.nameless []
  | .sym _ => rfl
  | .app name args => by rw [nameless, NamelessTerm.inward, inwardList_namelessList_nil args]
  | .foreign _ => rfl

theorem inwardList_namelessList_nil : (ts : List Term) →
    NamelessTerm.inwardList (namelessList [] ts) = namelessList [] ts
  | [] => rfl
  | t :: ts => by
      rw [namelessList, NamelessTerm.inwardList, inward_nameless_nil t,
        inwardList_namelessList_nil ts]

end

end Term

/-- A symbol one quantifier further inside is replaced by the same term. -/
theorem fill_inward_namelessSymbol {terms : String → NamelessTerm}
    (outside : ∀ x, (terms x).inward = terms x) (scope : List String) (y : String) :
    ((namelessSymbol scope y).fill terms).inward = (namelessSymbol scope y).inward.fill terms := by
  rw [namelessSymbol]
  cases scope.idxOf? y with
  | none => exact outside y
  | some index => rfl

namespace Formula

/-- Under quantifiers that capture nothing, terms are put in for the symbols that are still free. -/
theorem nameless_subst (f : Formula) {s : Substitution} {scope : List String}
    {terms : String → NamelessTerm} (outside : ∀ x, (terms x).inward = terms x)
    (uncaptured : ∀ x ∈ f.boundNames, ∀ entry ∈ s, x ∉ entry.2.symbols)
    (kept : ∀ y, (s.apply y).nameless scope = (namelessSymbol scope y).fill terms) :
    (f.subst s).nameless scope = (f.nameless scope).fill terms := by
  induction f generalizing s scope with
  | atom a => exact congrArg NamelessFormula.atom (a.nameless_subst fun y _ => kept y)
  | neg f ih => exact congrArg NamelessFormula.neg (ih uncaptured kept)
  | binary c f g ihf ihg =>
      rw [subst, nameless, nameless, NamelessFormula.fill]
      rw [ihf (fun x member => uncaptured x (List.mem_append_left _ member)) kept,
        ihg (fun x member => uncaptured x (List.mem_append_right _ member)) kept]
  | quant q x f ih =>
      rw [subst, nameless, nameless, NamelessFormula.fill]
      refine congrArg (NamelessFormula.quant q) (ih (fun y member entry left => ?_) fun y => ?_)
      · exact uncaptured y (List.mem_cons_of_mem x member) entry (List.mem_filter.mp left).1
      · by_cases same : y = x
        · subst same
          rw [s.apply_erase_self, Term.nameless, namelessSymbol_cons_self]
          rfl
        · have absent : x ∉ (s.apply y).symbols :=
            Substitution.not_mem_symbols_apply same (uncaptured x List.mem_cons_self)
          rw [s.apply_erase_of_ne same, Term.nameless_cons scope _ absent, kept,
            fill_inward_namelessSymbol outside, namelessSymbol_cons_of_ne same]

/-- A substitution whose terms hold no variable that the formula binds. A formula after it is true
exactly if the formula before it is, with the value of its term for every symbol that has one. All
its terms are put in at once, at the free occurrences of their symbols and at no others. If there
are no values from outside, a table with the terms replaces the symbols of a lawful formula in the
same way. -/
theorem subst_spec (f : Formula) (s : Substitution)
    (uncaptured : ∀ x ∈ f.boundNames, ∀ entry ∈ s, x ∉ entry.2.symbols) :
    (∀ (D : Type u) (M : Structure D) (v : Assignment D),
        (f.subst s).Holds M v ↔ f.Holds M fun x =>
          match s.lookup x with
          | some t => t.value M v
          | none => v x) ∧
      ((f.subst s).nameless [] = (f.nameless []).fill fun x =>
        match s.lookup x with
        | some t => t.nameless []
        | none => .free x) ∧
      ((∀ entry ∈ s, entry.2.foreignValues = []) → f.Lawful →
        (Worksheet.Table.ofSubstitution s).inFormula f = .ok (f.subst s)) := by
  refine ⟨?_, ?_, Worksheet.Table.inFormula_ofSubstitution f⟩
  · intro D M v
    have values : s.valued M v = fun x =>
        match s.lookup x with
        | some t => t.value M v
        | none => v x := by
      funext x
      rw [Substitution.valued, Substitution.apply]
      cases s.lookup x <;> rfl
    rw [f.holds_subst s uncaptured, values]
  · have terms : (fun x => (s.apply x).nameless []) = fun x =>
        match s.lookup x with
        | some t => t.nameless []
        | none => .free x := by
      funext x
      rw [Substitution.apply]
      cases s.lookup x <;> rfl
    rw [← terms]
    exact f.nameless_subst (fun x => (s.apply x).inward_nameless_nil) uncaptured fun _ => rfl

/-- What is put in for `x` holds `y`, which is replaced as well. Below the quantifier `x` is not
replaced, and the function of that name is not captured. -/
theorem subst_spec_shadowed :
    (∀ (M : Structure Nat) (v : Assignment Nat),
        Holds M (.and (.atom (.pred "R" [.app "f" [.sym "y"], .app "x" [.sym "z"]]))
            (.quant .ex "x" (.atom (.pred "R" [.sym "x", .app "x" [.sym "z"]])))) v ↔
          Holds M (.and (.atom (.pred "R" [.sym "x", .sym "y"]))
              (.quant .ex "x" (.atom (.pred "R" [.sym "x", .sym "y"])))) fun x =>
            match List.lookup x [("x", Term.app "f" [.sym "y"]), ("y", .app "x" [.sym "z"])] with
            | some t => t.value M v
            | none => v x) ∧
      Formula.nameless [] (.and (.atom (.pred "R" [.app "f" [.sym "y"], .app "x" [.sym "z"]]))
          (.quant .ex "x" (.atom (.pred "R" [.sym "x", .app "x" [.sym "z"]])))) =
        .binary (.junction .and)
          (.atom (.pred "R" [.app "f" [.free "y"], .app "x" [.free "z"]]))
          (.quant .ex (.atom (.pred "R" [.bound 0, .app "x" [.free "z"]]))) ∧
      (Worksheet.Table.ofSubstitution
          [("x", .app "f" [.sym "y"]), ("y", .app "x" [.sym "z"])]).inFormula
          (.and (.atom (.pred "R" [.sym "x", .sym "y"]))
            (.quant .ex "x" (.atom (.pred "R" [.sym "x", .sym "y"])))) =
        .ok (.and (.atom (.pred "R" [.app "f" [.sym "y"], .app "x" [.sym "z"]]))
          (.quant .ex "x" (.atom (.pred "R" [.sym "x", .app "x" [.sym "z"]])))) := by
  let f : Formula := .and (.atom (.pred "R" [.sym "x", .sym "y"]))
    (.quant .ex "x" (.atom (.pred "R" [.sym "x", .sym "y"])))
  let s : Substitution := [("x", .app "f" [.sym "y"]), ("y", .app "x" [.sym "z"])]
  have uncaptured : ∀ x ∈ f.boundNames, ∀ entry ∈ s, x ∉ entry.2.symbols := by decide
  obtain ⟨meaning, occurrences, replaced⟩ := subst_spec f s uncaptured
  exact ⟨meaning Nat, occurrences, replaced (by decide) ⟨rfl, by decide⟩⟩

end Formula

end Clausal
