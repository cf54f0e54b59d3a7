import Clausal.Proofs.Semantics.Apart

/-!
# Standardizing apart keeps the meaning

In the nameless form of a formula a bound occurrence of a symbol is the number of quantifiers
between it and the one that binds it, and quantifiers name no variables. Two formulas have the same
nameless form if they differ in the names of bound variables only (`Formula.AlphaEquivalent`). Such
formulas are equivalent (`Formula.AlphaEquivalent.equivalent`).

Standardizing apart keeps the nameless form (`Formula.alphaEquivalent_apart`). In the scope of a
quantifier all other quantifiers are one further away from every occurrence (`Term.nameless_cons`).
This goes for the term that a renaming puts in as it goes for the symbol, because the fresh variable
does not occur in that term.
-/

universe u

namespace Clausal

/-- A term whose bound symbols have no names. -/
inductive NamelessTerm where
  /-- A symbol bound by a quantifier, with the number of quantifiers in between. -/
  | bound (index : Nat)
  | free (name : String)
  | app (name : String) (args : List NamelessTerm)
  | foreign (value : Expression)

inductive NamelessAtom where
  | pred (name : String) (args : List NamelessTerm)
  | relation (r : Relation) (lhs rhs : NamelessTerm)

/-- A formula whose quantifiers name no variables. -/
inductive NamelessFormula where
  | atom (a : NamelessAtom)
  | neg (arg : NamelessFormula)
  | binary (c : Connective) (lhs rhs : NamelessFormula)
  | quant (q : Quantifier) (scope : NamelessFormula)

/-- What a symbol is in the scope of quantifiers for the given variables, the innermost first. -/
def namelessSymbol (scope : List String) (x : String) : NamelessTerm :=
  match scope.idxOf? x with
  | some index => .bound index
  | none => .free x

mutual

def Term.nameless (scope : List String) : Term → NamelessTerm
  | .sym x => namelessSymbol scope x
  | .app name args => .app name (Term.namelessList scope args)
  | .foreign value => .foreign value

def Term.namelessList (scope : List String) : List Term → List NamelessTerm
  | [] => []
  | t :: ts => t.nameless scope :: Term.namelessList scope ts

end

theorem Term.namelessList_eq_map (scope : List String) (ts : List Term) :
    Term.namelessList scope ts = ts.map (Term.nameless scope) := by
  induction ts with
  | nil => rfl
  | cons t ts ih => rw [namelessList, ih, List.map_cons]

def Atom.nameless (scope : List String) : Atom → NamelessAtom
  | .pred name args => .pred name (args.map (Term.nameless scope))
  | .relation r lhs rhs => .relation r (lhs.nameless scope) (rhs.nameless scope)

/-- The nameless form of a formula in the scope of quantifiers for the given variables, the
innermost first. -/
def Formula.nameless (scope : List String) : Formula → NamelessFormula
  | .atom a => .atom (a.nameless scope)
  | .neg f => .neg (f.nameless scope)
  | .binary c f g => .binary c (f.nameless scope) (g.nameless scope)
  | .quant q x f => .quant q (f.nameless (x :: scope))

example :
    Formula.nameless [] (.quant .all "x" (.and
      (.quant .ex "y" (.atom (.pred "R" [.sym "x", .app "x" [.sym "y"], .sym "z"])))
      (.quant .ex "x" (.atom (.pred "Q" [.sym "x"]))))) =
    .quant .all (.binary (.junction .and)
      (.quant .ex (.atom (.pred "R" [.bound 1, .app "x" [.bound 0], .free "z"])))
      (.quant .ex (.atom (.pred "Q" [.bound 0])))) := rfl

namespace NamelessTerm

mutual

/-- A term one quantifier further inside. -/
def inward : NamelessTerm → NamelessTerm
  | .bound index => .bound (index + 1)
  | .free name => .free name
  | .app name args => .app name (inwardList args)
  | .foreign value => .foreign value

def inwardList : List NamelessTerm → List NamelessTerm
  | [] => []
  | t :: ts => t.inward :: inwardList ts

end

end NamelessTerm

theorem namelessSymbol_cons_self (x : String) (scope : List String) :
    namelessSymbol (x :: scope) x = .bound 0 := by
  rw [namelessSymbol, List.idxOf?_cons, beq_self_eq_true, if_pos rfl]

/-- Below one more quantifier, other symbols are one quantifier further away. -/
theorem namelessSymbol_cons_of_ne {x y : String} (other : y ≠ x) (scope : List String) :
    namelessSymbol (x :: scope) y = (namelessSymbol scope y).inward := by
  have differ : (x == y) = false := beq_false_of_ne other.symm
  rw [namelessSymbol, namelessSymbol, List.idxOf?_cons, differ]
  cases scope.idxOf? y <;> rfl

mutual

/-- Below a quantifier whose variable does not occur in a term, the quantifiers outside are further
away from it. -/
theorem Term.nameless_cons {x : String} (scope : List String) : (t : Term) → x ∉ t.symbols →
    t.nameless (x :: scope) = (t.nameless scope).inward
  | .sym y, absent =>
      namelessSymbol_cons_of_ne (fun same => absent (List.mem_singleton.mpr same.symm)) scope
  | .app name args, absent => by
      rw [Term.nameless, Term.nameless, Term.namelessList_cons scope args absent,
        NamelessTerm.inward]
  | .foreign _, _ => rfl

theorem Term.namelessList_cons {x : String} (scope : List String) : (ts : List Term) →
    x ∉ Term.symbolsList ts →
      Term.namelessList (x :: scope) ts = NamelessTerm.inwardList (Term.namelessList scope ts)
  | [], _ => rfl
  | t :: ts, absent => by
      have first : x ∉ t.symbols := fun inside => absent (List.mem_append_left _ inside)
      have others : x ∉ Term.symbolsList ts := fun inside =>
        absent (List.mem_append_right _ inside)
      rw [Term.namelessList, Term.namelessList, Term.nameless_cons scope t first,
        Term.namelessList_cons scope ts others, NamelessTerm.inwardList]

end

/-- Two formulas have the same nameless form. -/
def Formula.AlphaEquivalent (f g : Formula) : Prop := f.nameless [] = g.nameless []

/-- A symbol is neither an application nor a value from outside. -/
theorem namelessSymbol_ne (scope : List String) (x : String) :
    (∀ name args, namelessSymbol scope x ≠ .app name args) ∧
      ∀ value, namelessSymbol scope x ≠ .foreign value := by
  rw [namelessSymbol]
  split <;> exact ⟨fun _ _ => NamelessTerm.noConfusion, fun _ => NamelessTerm.noConfusion⟩

theorem NamelessTerm.inward_ne_bound_zero (t : NamelessTerm) : t.inward ≠ .bound 0 := by
  cases t <;> simp only [inward, ne_eq, NamelessTerm.bound.injEq, Nat.add_eq_zero_iff,
    Nat.one_ne_zero, and_false, not_false_eq_true, reduceCtorEq]

/-- Symbols are still told apart after they are moved inwards. -/
theorem namelessSymbol_of_inward {s t : List String} {a b : String}
    (same : (namelessSymbol s a).inward = (namelessSymbol t b).inward) :
    namelessSymbol s a = namelessSymbol t b := by
  revert same
  rw [namelessSymbol, namelessSymbol]
  cases s.idxOf? a <;> cases t.idxOf? b <;> simp [NamelessTerm.inward]

/-- Two symbols are the same below one more quantifier each if both are its variable, or none is
and they were the same before. -/
theorem namelessSymbol_cons_eq_cons {s t : List String} {x y a b : String}
    (same : namelessSymbol (x :: s) a = namelessSymbol (y :: t) b) :
    (a = x ∧ b = y) ∨ (a ≠ x ∧ b ≠ y ∧ namelessSymbol s a = namelessSymbol t b) := by
  by_cases left : a = x <;> by_cases right : b = y
  · exact .inl ⟨left, right⟩
  · subst left
    rw [namelessSymbol_cons_self, namelessSymbol_cons_of_ne right] at same
    exact absurd same.symm (NamelessTerm.inward_ne_bound_zero _)
  · subst right
    rw [namelessSymbol_cons_self, namelessSymbol_cons_of_ne left] at same
    exact absurd same (NamelessTerm.inward_ne_bound_zero _)
  · rw [namelessSymbol_cons_of_ne left, namelessSymbol_cons_of_ne right] at same
    exact .inr ⟨left, right, namelessSymbol_of_inward same⟩

section

variable {D : Type u} {M : Structure D} {v w : Assignment D} {s t : List String}

mutual

/-- Terms with the same nameless form have the same value, if the symbols do. -/
theorem Term.value_eq_of_nameless
    (reads : ∀ x y, namelessSymbol s x = namelessSymbol t y → v x = w y) : (a b : Term) →
    a.nameless s = b.nameless t → a.value M v = b.value M w
  | .sym x, .sym y, same => reads x y same
  | .sym x, .app _ _, same => absurd same ((namelessSymbol_ne s x).1 _ _)
  | .sym x, .foreign _, same => absurd same ((namelessSymbol_ne s x).2 _)
  | .app _ _, .sym y, same => absurd same.symm ((namelessSymbol_ne t y).1 _ _)
  | .app f as, .app g bs, same => by
      obtain ⟨name, args⟩ := NamelessTerm.app.inj same
      rw [Term.value, Term.value, name, Term.valueList_eq_of_nameless reads as bs args]
  | .app _ _, .foreign _, same => NamelessTerm.noConfusion same
  | .foreign _, .sym y, same => absurd same.symm ((namelessSymbol_ne t y).2 _)
  | .foreign _, .app _ _, same => NamelessTerm.noConfusion same
  | .foreign _, .foreign _, same => congrArg M.foreign (NamelessTerm.foreign.inj same)

theorem Term.valueList_eq_of_nameless
    (reads : ∀ x y, namelessSymbol s x = namelessSymbol t y → v x = w y) : (as bs : List Term) →
    Term.namelessList s as = Term.namelessList t bs →
      Term.valueList M v as = Term.valueList M w bs
  | [], [], _ => rfl
  | [], _ :: _, same => absurd same (List.cons_ne_nil _ _).symm
  | _ :: _, [], same => absurd same (List.cons_ne_nil _ _)
  | a :: as, b :: bs, same => by
      obtain ⟨first, others⟩ := List.cons.inj same
      rw [Term.valueList, Term.valueList, Term.value_eq_of_nameless reads a b first,
        Term.valueList_eq_of_nameless reads as bs others]

end

theorem Atom.holds_congr_of_nameless
    (reads : ∀ x y, namelessSymbol s x = namelessSymbol t y → v x = w y) (a b : Atom)
    (same : a.nameless s = b.nameless t) : a.Holds M v ↔ b.Holds M w := by
  cases a <;> cases b
  case pred.pred p as q bs =>
    obtain ⟨name, args⟩ := NamelessAtom.pred.inj same
    rw [← Term.namelessList_eq_map, ← Term.namelessList_eq_map] at args
    rw [Atom.Holds, Atom.Holds, name, ← Term.valueList_eq_map, ← Term.valueList_eq_map,
      Term.valueList_eq_of_nameless reads as bs args]
  case relation.relation r a b r' a' b' =>
    obtain ⟨symbol, left, right⟩ := NamelessAtom.relation.inj same
    rw [Atom.Holds, Atom.Holds, symbol, Term.value_eq_of_nameless reads a a' left,
      Term.value_eq_of_nameless reads b b' right]
  all_goals exact NamelessAtom.noConfusion same

/-- Formulas with the same nameless form say the same, if the symbols do. -/
theorem Formula.holds_congr_of_nameless (f g : Formula)
    (reads : ∀ x y, namelessSymbol s x = namelessSymbol t y → v x = w y)
    (same : f.nameless s = g.nameless t) : f.Holds M v ↔ g.Holds M w := by
  induction f generalizing g s t v w with
  | atom a =>
      cases g with
      | atom b => exact a.holds_congr_of_nameless reads b (NamelessFormula.atom.inj same)
      | _ => exact NamelessFormula.noConfusion same
  | neg f ih =>
      cases g with
      | neg g => exact not_congr (ih g reads (NamelessFormula.neg.inj same))
      | _ => exact NamelessFormula.noConfusion same
  | binary c f f' ih ih' =>
      cases g with
      | binary c' g g' =>
          obtain ⟨rfl, left, right⟩ := NamelessFormula.binary.inj same
          exact c.holds_congr (ih g reads left) (ih' g' reads right)
      | _ => exact NamelessFormula.noConfusion same
  | quant q x f ih =>
      cases g with
      | quant q' y g =>
          obtain ⟨rfl, inside⟩ := NamelessFormula.quant.inj same
          refine q.holds_congr fun d => ih g (fun a b symbols => ?_) inside
          rcases namelessSymbol_cons_eq_cons symbols with ⟨rfl, rfl⟩ | ⟨left, right, outside⟩
          · rw [Function.update_self, Function.update_self]
          · rw [Function.update_of_ne left, Function.update_of_ne right]
            exact reads a b outside
      | _ => exact NamelessFormula.noConfusion same

/-- Formulas that differ in the names of bound variables only are equivalent. -/
theorem Formula.AlphaEquivalent.equivalent {f g : Formula} (same : f.AlphaEquivalent g) :
    Equivalent.{u} f g := by
  intro D M v
  refine f.holds_congr_of_nameless g (fun x y symbols => ?_) same
  exact congrArg v (NamelessTerm.free.inj symbols)

end

namespace NamelessTerm

mutual

/-- A nameless term with terms put in for its free symbols. -/
def fill (terms : String → NamelessTerm) : NamelessTerm → NamelessTerm
  | .bound index => .bound index
  | .free name => terms name
  | .app name args => .app name (fillList terms args)
  | .foreign value => .foreign value

def fillList (terms : String → NamelessTerm) : List NamelessTerm → List NamelessTerm
  | [] => []
  | t :: ts => t.fill terms :: fillList terms ts

end

mutual

/-- A nameless term whose free names are left alone stays as it is. -/
theorem fill_free : (t : NamelessTerm) → t.fill .free = t
  | .bound _ => rfl
  | .free _ => rfl
  | .app name args => by rw [fill, fillList_free args]
  | .foreign _ => rfl

/-- Nameless arguments whose free names are left alone stay as they are. -/
theorem fillList_free : (ts : List NamelessTerm) → fillList .free ts = ts
  | [] => rfl
  | t :: ts => by rw [fillList, fill_free t, fillList_free ts]

end

end NamelessTerm

def NamelessAtom.fill (terms : String → NamelessTerm) : NamelessAtom → NamelessAtom
  | .pred name args => .pred name (args.map (NamelessTerm.fill terms))
  | .relation r lhs rhs => .relation r (lhs.fill terms) (rhs.fill terms)

/-- A nameless formula with terms put in for its free symbols. There are no names that a quantifier
could capture. -/
def NamelessFormula.fill (terms : String → NamelessTerm) : NamelessFormula → NamelessFormula
  | .atom a => .atom (a.fill terms)
  | .neg f => .neg (f.fill terms)
  | .binary c f g => .binary c (f.fill terms) (g.fill terms)
  | .quant q f => .quant q (f.fill terms)

theorem NamelessAtom.fill_free (a : NamelessAtom) : a.fill .free = a := by
  cases a with
  | pred name args =>
      rw [fill, List.map_congr_left fun t _ => t.fill_free, List.map_id']
  | relation r lhs rhs => rw [fill, lhs.fill_free, rhs.fill_free]

section

variable {s : Substitution} {scope before : List String} {terms : String → NamelessTerm}

mutual

/-- If a substitution puts in for a symbol what is put in for it among the quantifiers before, it
does so for a term. -/
theorem Term.nameless_subst : (t : Term) →
    (∀ y ∈ t.symbols, (s.apply y).nameless scope = (namelessSymbol before y).fill terms) →
      (t.subst s).nameless scope = (t.nameless before).fill terms
  | .sym y, kept => kept y (List.mem_singleton_self y)
  | .app name args, kept => by
      rw [Term.subst, Term.nameless, Term.nameless, Term.namelessList_substList args kept,
        NamelessTerm.fill]
  | .foreign _, _ => rfl

theorem Term.namelessList_substList : (ts : List Term) →
    (∀ y ∈ Term.symbolsList ts,
      (s.apply y).nameless scope = (namelessSymbol before y).fill terms) →
      Term.namelessList scope (Term.substList s ts) =
        NamelessTerm.fillList terms (Term.namelessList before ts)
  | [], _ => rfl
  | t :: ts, kept => by
      obtain ⟨first, others⟩ := List.forall_mem_append.mp kept
      rw [Term.substList, Term.namelessList, Term.namelessList, NamelessTerm.fillList,
        Term.nameless_subst t first, Term.namelessList_substList ts others]

end

theorem Atom.nameless_subst (a : Atom)
    (kept : ∀ y ∈ a.symbols, (s.apply y).nameless scope = (namelessSymbol before y).fill terms) :
    (a.subst s).nameless scope = (a.nameless before).fill terms := by
  have inside : ∀ t ∈ a.terms, (t.subst s).nameless scope = (t.nameless before).fill terms := by
    intro t argument
    exact t.nameless_subst fun y symbol => kept y (List.mem_flatMap.mpr ⟨t, argument, symbol⟩)
  cases a with
  | pred name args =>
      rw [Atom.subst, Atom.nameless, Atom.nameless, NamelessAtom.fill, List.map_map, List.map_map]
      exact congrArg (NamelessAtom.pred name) (List.map_congr_left inside)
  | relation r lhs rhs =>
      rw [Atom.subst, Atom.nameless, Atom.nameless, NamelessAtom.fill,
        inside lhs (by simp [Atom.terms]), inside rhs (by simp [Atom.terms])]

end

namespace Formula

/-- A renaming that covers the formula keeps the nameless form, if it does so for the free
symbols. -/
theorem nameless_renameApart (f : Formula) {env : Substitution} {used scope before : List String}
    (covered : Covers env used f)
    (kept : ∀ y ∈ f.free, (env.apply y).nameless scope = namelessSymbol before y) :
    (f.renameApart env used).1.nameless scope = f.nameless before := by
  induction f generalizing env used scope before with
  | atom a =>
      have symbols : ∀ y ∈ a.symbols,
          (env.apply y).nameless scope = (namelessSymbol before y).fill .free := by
        intro y member
        rw [kept y member, NamelessTerm.fill_free]
      rw [renameApart, nameless, nameless, a.nameless_subst symbols, NamelessAtom.fill_free]
  | neg f ih => exact congrArg NamelessFormula.neg (ih covered kept)
  | binary c f g ihf ihg =>
      obtain ⟨left, right⟩ := List.forall_mem_append.mp kept
      have subset := (f.renameApart_spec env used covered.left).subset
      rw [renameApart_binary, nameless, nameless, ihf covered.left left,
        ihg (covered.right.mono subset) right]
  | quant q x f ih =>
      have fresh := mintVariable_name_not_mem x used
      rw [renameApart_quant, nameless, nameless]
      refine congrArg (NamelessFormula.quant q) (ih covered.scope fun y member => ?_)
      by_cases same : y = x
      · subst same
        rw [Substitution.apply_cons_self, Term.nameless, namelessSymbol_cons_self,
          namelessSymbol_cons_self]
      · have known : y ∈ (quant q x f).names :=
          List.mem_cons_of_mem x (f.free_subset_names member)
        have absent : (mintVariable x used).name ∉ (env.apply y).symbols := fun inside =>
          fresh ((covered y known).2 _ (Term.symbols_subset_names _ inside))
        rw [Substitution.apply_cons_of_ne env _ same, Term.nameless_cons scope _ absent,
          namelessSymbol_cons_of_ne same,
          kept y (mem_free_quant.mpr ⟨member, same⟩)]

/-- Standardizing apart renames bound variables only. -/
theorem alphaEquivalent_apart (f : Formula) : f.apart.AlphaEquivalent f :=
  f.nameless_renameApart (Covers.of_names f) fun _ _ => rfl

/-- Renaming apart does not change the meaning of a formula. -/
theorem holds_apart {D : Type u} {M : Structure D} {v : Assignment D} (f : Formula) :
    f.apart.Holds M v ↔ f.Holds M v :=
  f.alphaEquivalent_apart.equivalent D M v

end Formula

end Clausal
