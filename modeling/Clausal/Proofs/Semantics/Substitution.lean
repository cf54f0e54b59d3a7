import Clausal.Formula.Substitution
import Clausal.Proofs.Semantics.Free

/-!
# The meaning of a substitution

A formula after a substitution says what the formula said before it of the values
of the terms put in (`Formula.holds_subst`). No variable that the formula binds may
occur in the terms, since a quantifier would capture it. Without quantifiers the
symbols of the formula afterwards are those of the terms put in
(`Formula.symbols_subst`).
-/

universe u

namespace Clausal

variable {D : Type u} {M : Structure D} {v : Assignment D}

namespace Substitution

/-- The values of the terms put in for symbols. -/
def valued (s : Substitution) (M : Structure D) (v : Assignment D) : Assignment D :=
  fun x => (s.apply x).value M v

@[simp] theorem apply_nil (x : String) : apply [] x = .sym x := rfl

theorem apply_cons_self (s : Substitution) (x : String) (t : Term) :
    apply ((x, t) :: s) x = t := by
  simp only [apply, List.lookup_cons_self, Option.getD_some]

/-- A replacement does not matter for other symbols. -/
theorem apply_cons_of_ne (s : Substitution) {x y : String} (t : Term) (other : y ≠ x) :
    apply ((x, t) :: s) y = s.apply y := by
  have differ : (y == x) = false := beq_false_of_ne other
  simp only [apply, List.lookup_cons, differ]

/-- The term put in for a symbol is the symbol itself or stands in the
substitution. -/
theorem apply_eq_or_mem (s : Substitution) (x : String) :
    s.apply x = .sym x ∨ ∃ entry ∈ s, s.apply x = entry.2 := by
  induction s with
  | nil => exact .inl rfl
  | cons head tail ih =>
      obtain ⟨y, t⟩ := head
      by_cases same : x = y
      · subst same
        exact .inr ⟨(x, t), List.mem_cons_self, apply_cons_self tail x t⟩
      · rw [apply_cons_of_ne tail t same]
        rcases ih with fixed | ⟨entry, member, found⟩
        · exact .inl fixed
        · exact .inr ⟨entry, List.mem_cons_of_mem _ member, found⟩

/-- What is true of a symbol and of all terms put in is true of the term put in for it. -/
theorem apply_of_forall {P : Term → Prop} {s : Substitution} {x : String} (symbol : P (.sym x))
    (terms : ∀ entry ∈ s, P entry.2) : P (s.apply x) := by
  rcases s.apply_eq_or_mem x with fixed | ⟨entry, member, found⟩
  · rw [fixed]
    exact symbol
  · rw [found]
    exact terms entry member

/-- A symbol that is in no term put in is not in what replaces another symbol. -/
theorem not_mem_symbols_apply {s : Substitution} {x y : String} (other : y ≠ x)
    (absent : ∀ entry ∈ s, x ∉ entry.2.symbols) : x ∉ (s.apply y).symbols := by
  refine apply_of_forall (P := fun t => x ∉ t.symbols) ?_ absent
  rw [Term.symbols, List.mem_singleton]
  exact other.symm

/-- A symbol with an entry is replaced. -/
theorem exists_apply_eq_of_mem (s : Substitution) {x : String} (known : x ∈ s.map Prod.fst) :
    ∃ entry ∈ s, s.apply x = entry.2 := by
  induction s with
  | nil => cases known
  | cons head tail ih =>
      obtain ⟨y, t⟩ := head
      by_cases same : x = y
      · subst same
        exact ⟨(x, t), List.mem_cons_self, apply_cons_self tail x t⟩
      · obtain ⟨entry, member, found⟩ := ih (List.mem_of_ne_of_mem same known)
        exact ⟨entry, List.mem_cons_of_mem _ member, (apply_cons_of_ne tail t same).trans found⟩

theorem apply_erase_self (s : Substitution) (x : String) : (s.erase x).apply x = .sym x := by
  have absent : (s.erase x).lookup x = none := by
    rw [List.lookup_eq_none_iff]
    intro entry member
    have kept := (List.mem_filter.mp member).2
    exact bne_iff_ne.mpr (Ne.symm (of_decide_eq_true kept))
  rw [apply, absent, Option.getD_none]

/-- Other symbols are replaced as before. -/
theorem apply_erase_of_ne (s : Substitution) {x y : String} (other : y ≠ x) :
    (s.erase x).apply y = s.apply y := by
  induction s with
  | nil => rfl
  | cons head tail ih =>
      obtain ⟨z, t⟩ := head
      by_cases dropped : z = x
      · subst dropped
        have shorter : erase ((z, t) :: tail) z = erase tail z := by
          simp only [erase, ne_eq, not_true_eq_false, decide_false, Bool.false_eq_true,
            not_false_eq_true, List.filter_cons_of_neg]
        rw [shorter, ih, apply_cons_of_ne tail t other]
      · have kept : erase ((z, t) :: tail) x = (z, t) :: erase tail x := by
          simp only [erase, ne_eq, dropped, not_false_eq_true, decide_true,
            List.filter_cons_of_pos]
        rw [kept]
        by_cases same : y = z
        · subst same
          rw [apply_cons_self, apply_cons_self]
        · rw [apply_cons_of_ne _ t same, apply_cons_of_ne _ t same, ih]

/-- Putting one term in changes the value of one symbol. -/
theorem valued_single (x : String) (t : Term) :
    valued [(x, t)] M v = Function.update v x (t.value M v) := by
  funext y
  by_cases same : y = x
  · subst same
    rw [Function.update_self, valued, apply_cons_self]
  · rw [Function.update_of_ne same, valued, apply_cons_of_ne _ t same]
    rfl

/-- Under a quantifier the values of the terms put in stay, unless the variable
occurs in them. -/
theorem valued_erase_update (s : Substitution) {x : String}
    (uncaptured : ∀ entry ∈ s, x ∉ entry.2.symbols) (d : D) :
    (s.erase x).valued M (Function.update v x d) = Function.update (s.valued M v) x d := by
  funext y
  by_cases same : y = x
  · subst same
    rw [Function.update_self, valued, apply_erase_self, Term.value, Function.update_self]
  · rw [Function.update_of_ne same, valued, valued, apply_erase_of_ne s same]
    exact Term.value_update_of_not_mem (not_mem_symbols_apply same uncaptured) d

end Substitution

mutual

/-- Replacing symbols in a term is the same as assigning the values of the new terms to them. -/
theorem Term.value_subst (s : Substitution) : (t : Term) →
    (t.subst s).value M v = t.value M (s.valued M v)
  | .sym _ => rfl
  | .app name args => by
      rw [Term.subst, Term.value, Term.value, Term.valueList_substList s args]
  | .foreign _ => rfl

theorem Term.valueList_substList (s : Substitution) : (ts : List Term) →
    Term.valueList M v (Term.substList s ts) = Term.valueList M (s.valued M v) ts
  | [] => rfl
  | t :: ts => by
      rw [Term.substList, Term.valueList, Term.valueList, Term.value_subst s t,
        Term.valueList_substList s ts]

end

/-- Replacing symbols in an atom is the same as assigning the values of the new terms to them. -/
theorem Atom.holds_subst (a : Atom) (s : Substitution) :
    (a.subst s).Holds M v ↔ a.Holds M (s.valued M v) := by
  cases a with
  | pred name args =>
      have values : (args.map (Term.subst s)).map (Term.value M v) =
          args.map (Term.value M (s.valued M v)) := by
        rw [List.map_map]
        exact List.map_congr_left fun t _ => t.value_subst s
      rw [Atom.subst, Atom.Holds, Atom.Holds, values]
  | relation r lhs rhs =>
      rw [Atom.subst, Atom.Holds, Atom.Holds, lhs.value_subst, rhs.value_subst]

/-- The truth of a formula after a substitution of terms that hold no variable
bound in the formula. -/
theorem Formula.holds_subst (f : Formula) (s : Substitution)
    (uncaptured : ∀ x ∈ f.boundNames, ∀ entry ∈ s, x ∉ entry.2.symbols) :
    (f.subst s).Holds M v ↔ f.Holds M (s.valued M v) := by
  induction f generalizing s v with
  | atom a => exact a.holds_subst s
  | neg f ih => exact not_congr (ih s uncaptured)
  | binary c f g ihf ihg =>
      exact c.holds_congr
        (ihf s fun x member => uncaptured x (List.mem_append_left _ member))
        (ihg s fun x member => uncaptured x (List.mem_append_right _ member))
  | quant q x f ih =>
      refine q.holds_congr fun d => ?_
      rw [← Substitution.valued_erase_update s (uncaptured x List.mem_cons_self) d]
      refine ih (s.erase x) fun y member entry kept => ?_
      exact uncaptured y (List.mem_cons_of_mem _ member) entry (List.mem_filter.mp kept).1

mutual

/-- A name of a term after a substitution was there before, or came with the term
put in for a symbol. -/
theorem Term.mem_names_subst (s : Substitution) {y : String} : (t : Term) →
    y ∈ (t.subst s).names → y ∈ t.names ∨ ∃ x ∈ t.names, y ∈ (s.apply x).names
  | .sym x, member => .inr ⟨x, List.mem_singleton_self x, member⟩
  | .app name args, member => by
      rw [Term.subst, Term.names] at member
      rcases List.mem_cons.mp member with head | inner
      · exact .inl (head ▸ List.mem_cons_self)
      · rcases Term.mem_namesList_substList s args inner with old | ⟨x, known, put⟩
        · exact .inl (List.mem_cons_of_mem _ old)
        · exact .inr ⟨x, List.mem_cons_of_mem _ known, put⟩

theorem Term.mem_namesList_substList (s : Substitution) {y : String} : (ts : List Term) →
    y ∈ Term.namesList (Term.substList s ts) →
      y ∈ Term.namesList ts ∨ ∃ x ∈ Term.namesList ts, y ∈ (s.apply x).names
  | t :: ts, member => by
      rw [Term.substList, Term.namesList] at member
      rcases List.mem_append.mp member with first | rest
      · rcases Term.mem_names_subst s t first with old | ⟨x, known, put⟩
        · exact .inl (List.mem_append_left _ old)
        · exact .inr ⟨x, List.mem_append_left _ known, put⟩
      · rcases Term.mem_namesList_substList s ts rest with old | ⟨x, known, put⟩
        · exact .inl (List.mem_append_right _ old)
        · exact .inr ⟨x, List.mem_append_right _ known, put⟩

end

theorem Atom.terms_subst (a : Atom) (s : Substitution) :
    (a.subst s).terms = a.terms.map (Term.subst s) := by
  cases a <;> rfl

/-- A name of an atom after a substitution was there before, or came with the term
put in for a symbol. -/
theorem Atom.mem_names_subst (a : Atom) (s : Substitution) {y : String}
    (member : y ∈ (a.subst s).names) :
    y ∈ a.names ∨ ∃ x ∈ a.names, y ∈ (s.apply x).names := by
  rw [Atom.names, Atom.terms_subst, List.flatMap_map] at member
  obtain ⟨t, inside, named⟩ := List.mem_flatMap.mp member
  rcases t.mem_names_subst s named with old | ⟨x, known, put⟩
  · exact .inl (List.mem_flatMap.mpr ⟨t, inside, old⟩)
  · exact .inr ⟨x, List.mem_flatMap.mpr ⟨t, inside, known⟩, put⟩

/-- A name of a formula after a substitution was there before, or came with the term
put in for a symbol. -/
theorem Formula.mem_names_subst (f : Formula) (s : Substitution) {y : String}
    (member : y ∈ (f.subst s).names) :
    y ∈ f.names ∨ ∃ x ∈ f.names, y ∈ (s.apply x).names := by
  induction f generalizing s with
  | atom a => exact a.mem_names_subst s member
  | neg f ih => exact ih s member
  | binary c f g ihf ihg =>
      rcases List.mem_append.mp member with first | second
      · rcases ihf s first with old | ⟨x, known, put⟩
        · exact .inl (List.mem_append_left _ old)
        · exact .inr ⟨x, List.mem_append_left _ known, put⟩
      · rcases ihg s second with old | ⟨x, known, put⟩
        · exact .inl (List.mem_append_right _ old)
        · exact .inr ⟨x, List.mem_append_right _ known, put⟩
  | quant q z f ih =>
      rcases List.mem_cons.mp member with rfl | deeper
      · exact .inl List.mem_cons_self
      · rcases ih (s.erase z) deeper with old | ⟨x, known, put⟩
        · exact .inl (List.mem_cons_of_mem _ old)
        · by_cases bound : x = z
          · subst bound
            rw [Substitution.apply_erase_self, Term.names, List.mem_singleton] at put
            exact .inl (put ▸ List.mem_cons_self)
          · rw [Substitution.apply_erase_of_ne s bound] at put
            exact .inr ⟨x, List.mem_cons_of_mem _ known, put⟩

/-- Replacing symbols leaves the bound variables as they are. -/
theorem Formula.boundNames_subst (f : Formula) (s : Substitution) :
    (f.subst s).boundNames = f.boundNames := by
  induction f generalizing s with
  | atom a => rfl
  | neg f ih => exact ih s
  | binary c f g ihf ihg => rw [subst, boundNames, boundNames, ihf, ihg]
  | quant q x f ih => rw [subst, boundNames, boundNames, ih]

mutual

/-- The symbols of a term after a substitution are those of the terms put in for its symbols. -/
theorem Term.symbols_subst (s : Substitution) : (t : Term) →
    (t.subst s).symbols = t.symbols.flatMap fun x => (s.apply x).symbols
  | .sym _ => (List.flatMap_singleton _ _).symm
  | .app _ args => Term.symbolsList_substList s args
  | .foreign _ => rfl

theorem Term.symbolsList_substList (s : Substitution) : (ts : List Term) →
    Term.symbolsList (Term.substList s ts) =
      (Term.symbolsList ts).flatMap fun x => (s.apply x).symbols
  | [] => rfl
  | t :: ts => by
      rw [Term.substList, Term.symbolsList, Term.symbolsList, Term.symbols_subst s t,
        Term.symbolsList_substList s ts, List.flatMap_append]

end

theorem Atom.symbols_subst (a : Atom) (s : Substitution) :
    (a.subst s).symbols = a.symbols.flatMap fun x => (s.apply x).symbols := by
  rw [symbols, symbols, terms_subst, List.flatMap_map, List.flatMap_assoc]
  exact congrArg List.flatten (List.map_congr_left fun t _ => t.symbols_subst s)

namespace Formula

variable {f : Formula} (free : f.boundNames = [])
include free

/-- Where no quantifier exempts a variable, a substitution acts on the atoms one by one. -/
theorem atoms_subst (s : Substitution) : (f.subst s).atoms = f.atoms.map (Atom.subst s) := by
  induction f with
  | atom a => rfl
  | neg f ih => exact ih free
  | binary c f g ihf ihg =>
      obtain ⟨left, right⟩ := List.append_eq_nil_iff.mp free
      rw [subst, atoms, atoms, ihf left, ihg right, List.map_append]
  | quant q x f ih => exact absurd free (List.cons_ne_nil _ _)

/-- Without quantifiers, the symbols of a formula are those of the new terms. -/
theorem symbols_subst (s : Substitution) :
    (f.subst s).symbols = f.symbols.flatMap fun x => (s.apply x).symbols := by
  rw [symbols, symbols, atoms_subst free, List.flatMap_map, List.flatMap_assoc]
  exact congrArg List.flatten (List.map_congr_left fun a _ => a.symbols_subst s)

/-- A symbol that is replaced is gone afterwards, if no term put in brings it back. -/
theorem not_mem_symbols_subst {s : Substitution} {x : String} (known : x ∈ s.map Prod.fst)
    (absent : ∀ entry ∈ s, x ∉ entry.2.symbols) : x ∉ (f.subst s).symbols := by
  rw [symbols_subst free, List.mem_flatMap]
  rintro ⟨y, _, inside⟩
  rcases s.apply_eq_or_mem y with fixed | ⟨entry, member, found⟩
  · rw [fixed, Term.symbols, List.mem_singleton] at inside
    subst inside
    obtain ⟨entry, member, found⟩ := s.exists_apply_eq_of_mem known
    refine absent entry member ?_
    rw [← found, fixed]
    exact List.mem_singleton_self x
  · exact absent entry member (found ▸ inside)

end Formula

end Clausal
