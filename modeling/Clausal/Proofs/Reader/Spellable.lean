import Clausal.Proofs.Reader.Grammar

/-!
# Formulas that can be spelled

A formula of which every name is of a kind that can be written, every application has
arguments, and no term is a value from outside. What lexemes spell is such a formula over
the identifiers among them (`Grammar.spellable_of_spellsFormula`).
-/

namespace Clausal

variable {named : String → Prop}

namespace Term

mutual

/-- The term is a symbol, or an application with arguments, and so are its parts. -/
def Spellable (named : String → Prop) : Term → Prop
  | .sym name => named name
  | .app name args => named name ∧ args ≠ [] ∧ SpellableList named args
  | .foreign _ => False

def SpellableList (named : String → Prop) : List Term → Prop
  | [] => True
  | t :: ts => t.Spellable named ∧ SpellableList named ts

end

theorem spellableList_iff {ts : List Term} :
    SpellableList named ts ↔ ∀ t ∈ ts, t.Spellable named := by
  induction ts with
  | nil => exact ⟨fun _ _ => (nomatch ·), fun _ => trivial⟩
  | cons t ts ih => rw [SpellableList, ih, List.forall_mem_cons]

/-- An application without arguments is a symbol, which can be spelled. -/
theorem spellable_applied {name : String} {args : List Term} (head : named name)
    (parts : ∀ t ∈ args, t.Spellable named) : (applied name args).Spellable named := by
  cases args with
  | nil => exact head
  | cons t ts => exact ⟨head, List.cons_ne_nil t ts, spellableList_iff.mpr parts⟩

end Term

/-- All names and terms of the atom can be spelled. -/
def Atom.Spellable (named : String → Prop) : Atom → Prop
  | .pred name args => named name ∧ ∀ t ∈ args, t.Spellable named
  | .relation _ lhs rhs => lhs.Spellable named ∧ rhs.Spellable named

namespace Formula

/-- All names and atoms of the formula can be spelled. -/
def Spellable (named : String → Prop) : Formula → Prop
  | .atom a => a.Spellable named
  | .neg f => f.Spellable named
  | .binary _ f g => f.Spellable named ∧ g.Spellable named
  | .quant _ x f => named x ∧ f.Spellable named

/-- Quantifiers with lawful variables keep a formula spellable. -/
theorem spellable_quantAll {q : Quantifier} {names : List String} {f : Formula}
    (heads : ∀ x ∈ names, named x) (scope : f.Spellable named) :
    (quantAll q names f).Spellable named := by
  induction names with
  | nil => exact scope
  | cons x names ih =>
      obtain ⟨head, rest⟩ := List.forall_mem_cons.mp heads
      exact ⟨head, ih rest⟩

end Formula

namespace Term

mutual

theorem Spellable.foreignValues_eq_nil :
    {t : Term} → t.Spellable named → t.foreignValues = []
  | .sym _, _ => rfl
  | .app _ _, ⟨_, _, parts⟩ => SpellableList.foreignValues_eq_nil parts

theorem SpellableList.foreignValues_eq_nil :
    {ts : List Term} → SpellableList named ts → foreignValuesList ts = []
  | [], _ => rfl
  | t :: ts, ⟨first, rest⟩ => by
      rw [foreignValuesList, Spellable.foreignValues_eq_nil first,
        SpellableList.foreignValues_eq_nil rest, List.append_nil]

end

end Term

theorem Atom.Spellable.foreignValues_eq_nil {a : Atom} (spellable : a.Spellable named) :
    a.foreignValues = [] := by
  have parts : ∀ t ∈ a.terms, t.Spellable named := by
    cases a with
    | pred name args => exact spellable.2
    | relation r lhs rhs =>
        exact List.forall_mem_cons.mpr ⟨spellable.1, List.forall_mem_singleton.mpr spellable.2⟩
  exact List.flatMap_eq_nil_iff.mpr fun t member => (parts t member).foreignValues_eq_nil

theorem Formula.Spellable.foreignValues_eq_nil {f : Formula} (spellable : f.Spellable named) :
    f.foreignValues = [] := by
  induction f with
  | atom a =>
      exact (List.flatMap_singleton _ _).trans (Atom.Spellable.foreignValues_eq_nil spellable)
  | neg f ih => exact ih spellable
  | binary c f g ihf ihg =>
      have joined : (binary c f g).foreignValues = f.foreignValues ++ g.foreignValues :=
        List.flatMap_append
      rw [joined, ihf spellable.1, ihg spellable.2, List.append_nil]
  | quant q x f ih => exact ih spellable.2

namespace Grammar

variable {α : Type} {item : List Lexeme → α → Prop} {ls : List Lexeme}

/-- Each item is spelled by a part of the tokens, if separators stand in front. -/
theorem Further.forall_mem {separator : Lexeme} {as : List α}
    (further : Further separator item ls as) : ∀ a ∈ as, ∃ ms, ms <:+: ls ∧ item ms a := by
  induction further with
  | none => exact fun _ member => nomatch member
  | some first rest ih =>
      refine List.forall_mem_cons.mpr ⟨⟨_, ⟨[separator], _, rfl⟩, first⟩, fun a member => ?_⟩
      obtain ⟨ms, inside, spelled⟩ := ih a member
      exact ⟨ms, inside.trans ⟨separator :: _, [], List.append_nil _⟩, spelled⟩

theorem Separated.forall_mem {as : List α} (separated : Separated item ls as) :
    ∀ a ∈ as, ∃ ms, ms <:+: ls ∧ item ms a := by
  cases separated with
  | intro first rest =>
      refine List.forall_mem_cons.mpr
        ⟨⟨_, (List.prefix_append _ _).isInfix, first⟩, fun a member => ?_⟩
      obtain ⟨ms, inside, spelled⟩ := rest.forall_mem a member
      exact ⟨ms, inside.trans (List.suffix_append _ _).isInfix, spelled⟩

theorem Arguments.forall_mem {as : List α} (arguments : Arguments item ls as) :
    ∀ a ∈ as, ∃ ms, ms <:+: ls ∧ item ms a := by
  cases arguments with
  | none => exact fun _ member => nomatch member
  | some items =>
      intro a member
      obtain ⟨ms, inside, spelled⟩ := items.forall_mem a member
      exact ⟨ms, inside.trans (List.prefix_append _ _).isInfix, spelled⟩

/-- A property of the operands of a level that connectives keep is one of the whole. -/
theorem Level.closed {property : Formula → Prop} {c : Connective} {f : Formula}
    (binary : ∀ c f g, property f → property g → property (.binary c f g))
    (level : Level c (fun _ g => property g) ls f) : property f := by
  cases level with
  | @fold _ _ f gs first rest =>
      have operands := rest.forall_mem
      clear rest
      induction gs generalizing f with
      | nil => exact first
      | cons g gs ih =>
          obtain ⟨⟨_, _, head⟩, tail⟩ := List.forall_mem_cons.mp operands
          exact ih (binary c f g first head) tail

/-- What the connectives keep passes from the operands to a formula. -/
theorem Levels.closed {property : Formula → Prop} {f : Formula}
    (binary : ∀ c f g, property f → property g → property (.binary c f g))
    (levels : Levels (fun _ g => property g) ls f) : property f := by
  refine Level.closed binary (Level.imp levels fun _ g _ implies => ?_)
  refine Level.closed binary (implies.imp fun _ g _ or => ?_)
  exact Level.closed binary (or.imp fun _ g _ and => and.closed binary)

/-- A term is spellable if all names in its tokens are lawful. -/
theorem spellable_of_spellsTerm {t : Term} (spelled : SpellsTerm ls t)
    (identifiers : ∀ x, .ident x ∈ ls → named x) : t.Spellable named := by
  induction spelled using SpellsTerm.induction with
  | symbol name => exact identifiers name (List.mem_singleton_self _)
  | application name ls args _ arguments =>
      refine Term.spellable_applied (identifiers name List.mem_cons_self) fun t member => ?_
      obtain ⟨ms, inside, _, spellable⟩ := arguments.forall_mem t member
      exact spellable fun x member => identifiers x
        (List.mem_cons_of_mem _ (List.mem_cons_of_mem _ (inside.subset member)))

/-- An atom is spellable if all names in its tokens are lawful. -/
theorem spellable_of_spellsAtom {a : Atom} (spelled : SpellsAtom ls a)
    (identifiers : ∀ x, .ident x ∈ ls → named x) : a.Spellable named := by
  cases spelled with
  | relation r left right =>
      refine ⟨spellable_of_spellsTerm left fun x member => identifiers x ?_,
        spellable_of_spellsTerm right fun x member => identifiers x ?_⟩
      · exact List.mem_append_left _ member
      · exact List.mem_append_right _ (List.mem_cons_of_mem _ member)
  | proposition name =>
      exact ⟨identifiers name (List.mem_singleton_self _), fun _ member => nomatch member⟩
  | predicate name arguments =>
      refine ⟨identifiers name List.mem_cons_self, fun t member => ?_⟩
      obtain ⟨ms, inside, spelled⟩ := arguments.forall_mem t member
      exact spellable_of_spellsTerm spelled fun x member => identifiers x
        (List.mem_cons_of_mem _ (List.mem_cons_of_mem _ (inside.subset member)))

/-- An operand is spellable if all names in its tokens are lawful. -/
theorem spellable_of_spellsOperand {f : Formula} (spelled : SpellsOperand ls f)
    (identifiers : ∀ x, .ident x ∈ ls → named x) : f.Spellable named := by
  induction spelled using SpellsOperand.induction with
  | neg ls f _ ih => exact ih fun x member => identifiers x (List.mem_cons_of_mem _ member)
  | quant q ls dot ms names f quantified _ _ ih =>
      refine Formula.spellable_quantAll (fun x member => ?_) (ih fun x member => identifiers x ?_)
      · obtain ⟨_, inside, ⟨_⟩⟩ := quantified.forall_mem x member
        refine identifiers x (List.mem_cons_of_mem _ (List.mem_append_left _ ?_))
        exact inside.subset (List.mem_singleton_self _)
      · exact List.mem_cons_of_mem _
          (List.mem_append_right _ (List.mem_append_right _ member))
  | group ls f _ ih =>
      refine Levels.closed (fun _ _ _ left right => ⟨left, right⟩)
        (Levels.imp ih fun ms g inside ⟨_, spellable⟩ => spellable fun x member => ?_)
      exact identifiers x (List.mem_cons_of_mem _ (List.mem_append_left _ (inside.subset member)))
  | atom ls a atomic => exact spellable_of_spellsAtom atomic identifiers

/-- A formula that lexemes spell can be spelled with their identifiers. -/
theorem spellable_of_spellsFormula {f : Formula} (spelled : SpellsFormula ls f)
    (identifiers : ∀ x, .ident x ∈ ls → named x) : f.Spellable named :=
  Levels.closed (fun _ _ _ left right => ⟨left, right⟩)
    (Levels.imp spelled fun _ _ inside operand =>
      spellable_of_spellsOperand operand fun x member => identifiers x (inside.subset member))

end Grammar

end Clausal
