import Mathlib.Data.List.Infix
import Clausal.Formula.Reader

/-!
# The grammar of formulas

Which lexemes spell which formula, independently of any reader. Each nonterminal is a
relation between lexemes and what they stand for, and each of its constructors is a
production (`Grammar.SpellsFormula`). What repeats in the productions is stated once, for
any kind of item: further items after separators, argument lists, and the levels at which
the connectives join operands.
-/

namespace Clausal.Grammar

variable {α : Type}

/-- Any number of items, each after a separator. -/
inductive Further (separator : Lexeme) (item : List Lexeme → α → Prop) :
    List Lexeme → List α → Prop where
  | none : Further separator item [] []
  | some {ls ms : List Lexeme} {a : α} {as : List α} (first : item ls a)
      (rest : Further separator item ms as) :
      Further separator item (separator :: (ls ++ ms)) (a :: as)

/-- One or more items with commas between them. -/
inductive Separated (item : List Lexeme → α → Prop) : List Lexeme → List α → Prop where
  | intro {ls ms : List Lexeme} {a : α} {as : List α} (first : item ls a)
      (rest : Further .comma item ms as) : Separated item (ls ++ ms) (a :: as)

/-- The items of an argument list after its opening bracket. -/
inductive Arguments (item : List Lexeme → α → Prop) : List Lexeme → List α → Prop where
  | none : Arguments item [.closing] []
  | some {ls : List Lexeme} {as : List α} (items : Separated item ls as) :
      Arguments item (ls ++ [.closing]) as

/-- One or more operands joined by a connective and folded to the left. -/
inductive Level (c : Connective) (operand : List Lexeme → Formula → Prop) :
    List Lexeme → Formula → Prop where
  | fold {ls ms : List Lexeme} {f : Formula} {gs : List Formula} (first : operand ls f)
      (rest : Further (.connective c) operand ms gs) :
      Level c operand (ls ++ ms) (gs.foldl (.binary c) f)

/-- The levels of all connectives, from the loosest to the tightest. -/
abbrev Levels (operand : List Lexeme → Formula → Prop) : List Lexeme → Formula → Prop :=
  Level .iff (Level .implies (Level (.junction .or) (Level (.junction .and) operand)))

inductive SpellsName : List Lexeme → String → Prop where
  | ident (name : String) : SpellsName [.ident name] name

/-- A term is a name with or without an argument list. An empty list makes a symbol. -/
inductive SpellsTerm : List Lexeme → Term → Prop where
  | symbol (name : String) : SpellsTerm [.ident name] (.sym name)
  | application (name : String) {ls : List Lexeme} {args : List Term}
      (arguments : Arguments SpellsTerm ls args) :
      SpellsTerm (.ident name :: .opening :: ls) (Term.applied name args)

/-- An atom is a relation between terms, or a predicate with or without an argument
list. -/
inductive SpellsAtom : List Lexeme → Atom → Prop where
  | relation (r : Relation) {ls ms : List Lexeme} {lhs rhs : Term} (left : SpellsTerm ls lhs)
      (right : SpellsTerm ms rhs) : SpellsAtom (ls ++ .relation r :: ms) (.relation r lhs rhs)
  | proposition (name : String) : SpellsAtom [.ident name] (.pred name [])
  | predicate (name : String) {ls : List Lexeme} {args : List Term}
      (arguments : Arguments SpellsTerm ls args) :
      SpellsAtom (.ident name :: .opening :: ls) (.pred name args)

/-- An operand of the tightest connective. The variables of a quantifier may be followed
by a dot, and its scope is an operand again. -/
inductive SpellsOperand : List Lexeme → Formula → Prop where
  | neg {ls : List Lexeme} {f : Formula} (argument : SpellsOperand ls f) :
      SpellsOperand (.neg :: ls) (.neg f)
  | quant (q : Quantifier) {ls dot ms : List Lexeme} {names : List String} {f : Formula}
      (quantified : Separated SpellsName ls names) (dotted : dot = [] ∨ dot = [.dot])
      (scope : SpellsOperand ms f) :
      SpellsOperand (.quantifier q :: (ls ++ (dot ++ ms))) (.quantAll q names f)
  | group {ls : List Lexeme} {f : Formula}
      (inner : Level .iff (Level .implies (Level (.junction .or)
        (Level (.junction .and) SpellsOperand))) ls f) :
      SpellsOperand (.opening :: (ls ++ [.closing])) f
  | atom {ls : List Lexeme} {a : Atom} (atomic : SpellsAtom ls a) : SpellsOperand ls (.atom a)

abbrev SpellsFormula : List Lexeme → Formula → Prop := Levels SpellsOperand

section Monotonicity

variable {item other : List Lexeme → α → Prop} {operand alternative : List Lexeme → Formula → Prop}

/-- The further items may be spelled in another way, if each of them may. -/
theorem Further.imp {separator : Lexeme} {ls : List Lexeme} {as : List α}
    (further : Further separator item ls as)
    (exchange : ∀ ms a, ms <:+: ls → item ms a → other ms a) : Further separator other ls as := by
  induction further with
  | none => exact .none
  | some first rest ih =>
      refine .some (exchange _ _ ⟨[separator], _, rfl⟩ first) (ih fun ms a inside => ?_)
      exact exchange ms a (inside.trans ⟨separator :: _, [], List.append_nil _⟩)

/-- Items may be spelled in another way, if each of them may. -/
theorem Separated.imp {ls : List Lexeme} {as : List α} (separated : Separated item ls as)
    (exchange : ∀ ms a, ms <:+: ls → item ms a → other ms a) : Separated other ls as := by
  cases separated with
  | intro first rest =>
      refine .intro (exchange _ _ (List.prefix_append _ _).isInfix first) ?_
      exact rest.imp fun ms a inside =>
        exchange ms a (inside.trans (List.suffix_append _ _).isInfix)

/-- Arguments may be spelled in another way, if each of them may. -/
theorem Arguments.imp {ls : List Lexeme} {as : List α} (arguments : Arguments item ls as)
    (exchange : ∀ ms a, ms <:+: ls → item ms a → other ms a) : Arguments other ls as := by
  cases arguments with
  | none => exact .none
  | some items =>
      refine .some (items.imp fun ms a inside => ?_)
      exact exchange ms a (inside.trans (List.prefix_append _ _).isInfix)

/-- A chain may be spelled in another way, if its operands may. -/
theorem Level.imp {c : Connective} {ls : List Lexeme} {f : Formula} (level : Level c operand ls f)
    (exchange : ∀ ms g, ms <:+: ls → operand ms g → alternative ms g) :
    Level c alternative ls f := by
  cases level with
  | fold first rest =>
      refine .fold (exchange _ _ (List.prefix_append _ _).isInfix first) ?_
      exact rest.imp fun ms a inside =>
        exchange ms a (inside.trans (List.suffix_append _ _).isInfix)

/-- A formula may be spelled in another way, if its operands may. -/
theorem Levels.imp {ls : List Lexeme} {f : Formula} (levels : Levels operand ls f)
    (exchange : ∀ ms g, ms <:+: ls → operand ms g → alternative ms g) :
    Levels alternative ls f := by
  refine Level.imp levels fun ms g inIff implies => ?_
  refine implies.imp fun ms g inImplies or => ?_
  refine or.imp fun ms g inOr and => ?_
  refine and.imp fun ms g inAnd => ?_
  exact exchange ms g (((inAnd.trans inOr).trans inImplies).trans inIff)

end Monotonicity

/-- Induction over the spelling of a term, with a hypothesis for every argument. -/
theorem SpellsTerm.induction {motive : (ls : List Lexeme) → (t : Term) → SpellsTerm ls t → Prop}
    (symbol : ∀ name, motive [.ident name] (.sym name) (.symbol name))
    (application : ∀ name ls args (arguments : Arguments SpellsTerm ls args),
      Arguments (fun ms t => ∃ spelled, motive ms t spelled) ls args →
        motive (.ident name :: .opening :: ls) (Term.applied name args)
          (.application name arguments))
    {ls : List Lexeme} {t : Term} (spelled : SpellsTerm ls t) : motive ls t spelled := by
  induction h : ls.length using Nat.strong_induction_on generalizing ls t with
  | _ n ih =>
      cases spelled with
      | symbol name => exact symbol name
      | application name arguments =>
          refine application name _ _ arguments (arguments.imp fun ms t inside spelled => ?_)
          have shorter := inside.length_le
          refine ⟨spelled, ih _ ?_ spelled rfl⟩
          rw [← h, List.length_cons, List.length_cons]
          omega

/-- Induction over the spelling of an operand, with a hypothesis for every operand of a
group. -/
theorem SpellsOperand.induction
    {motive : (ls : List Lexeme) → (f : Formula) → SpellsOperand ls f → Prop}
    (neg : ∀ ls f (argument : SpellsOperand ls f), motive ls f argument →
      motive (.neg :: ls) (.neg f) (.neg argument))
    (quant : ∀ q ls dot ms names f (quantified : Separated SpellsName ls names)
      (dotted : dot = [] ∨ dot = [.dot]) (scope : SpellsOperand ms f), motive ms f scope →
        motive (.quantifier q :: (ls ++ (dot ++ ms))) (.quantAll q names f)
          (.quant q quantified dotted scope))
    (group : ∀ ls f (inner : Levels SpellsOperand ls f),
      Levels (fun ms g => ∃ spelled, motive ms g spelled) ls f →
        motive (.opening :: (ls ++ [.closing])) f (.group inner))
    (atom : ∀ ls a (atomic : SpellsAtom ls a), motive ls (.atom a) (.atom atomic))
    {ls : List Lexeme} {f : Formula} (spelled : SpellsOperand ls f) : motive ls f spelled := by
  induction h : ls.length using Nat.strong_induction_on generalizing ls f with
  | _ n ih =>
      cases spelled with
      | neg argument =>
          exact neg _ _ argument (ih _ (by rw [← h, List.length_cons]; omega) argument rfl)
      | quant q quantified dotted scope =>
          refine quant q _ _ _ _ _ quantified dotted scope (ih _ ?_ scope rfl)
          rw [← h, List.length_cons, List.length_append, List.length_append]
          omega
      | group inner =>
          refine group _ _ inner (Levels.imp inner fun ms g inside spelled => ?_)
          have shorter := inside.length_le
          refine ⟨spelled, ih _ ?_ spelled rfl⟩
          rw [← h, List.length_cons, List.length_append]
          omega
      | atom atomic => exact atom _ _ atomic

theorem Separated.single {item : List Lexeme → α → Prop} {ls : List Lexeme} {a : α}
    (only : item ls a) : Separated item ls [a] := by
  have separated := Separated.intro only .none
  rwa [List.append_nil] at separated

theorem Separated.cons {item : List Lexeme → α → Prop} {ls ms : List Lexeme} {a : α}
    {as : List α} (first : item ls a) (rest : Separated item ms as) :
    Separated item (ls ++ .comma :: ms) (a :: as) := by
  cases rest with
  | intro second others => exact .intro first (.some second others)

section Levels

variable {operand : List Lexeme → Formula → Prop} {ls ms : List Lexeme} {f g : Formula}

theorem Level.single {c : Connective} (only : operand ls f) : Level c operand ls f := by
  have level := Level.fold (c := c) only .none
  rwa [List.append_nil] at level

/-- Two operands with the connective of a level between them are a chain. -/
theorem Level.pair {c : Connective} (left : operand ls f) (right : operand ms g) :
    Level c operand (ls ++ .connective c :: ms) (.binary c f g) := by
  have level := Level.fold (c := c) left (.some right .none)
  rwa [List.append_nil] at level

theorem Levels.single (only : operand ls f) : Levels operand ls f :=
  Level.single (Level.single (Level.single (Level.single only)))

/-- Two operands are joined at the level of their connective. -/
theorem Levels.pair (c : Connective) (left : operand ls f) (right : operand ms g) :
    Levels operand (ls ++ .connective c :: ms) (.binary c f g) := by
  rcases c with (_ | _) | _ | _
  · exact Level.single (Level.single (Level.single (Level.pair left right)))
  · exact Level.single (Level.single (Level.pair (Level.single left) (Level.single right)))
  · exact Level.single (Level.pair (Level.single (Level.single left))
      (Level.single (Level.single right)))
  · exact Level.pair (Level.single (Level.single (Level.single left)))
      (Level.single (Level.single (Level.single right)))

end Levels

/-- Terms start with names. -/
theorem SpellsTerm.starts {ls : List Lexeme} {t : Term} (spelled : SpellsTerm ls t) :
    ∃ name ms, ls = .ident name :: ms := by
  cases spelled with
  | symbol name => exact ⟨name, [], rfl⟩
  | application name arguments => exact ⟨name, _, rfl⟩

theorem SpellsAtom.starts {ls : List Lexeme} {a : Atom} (spelled : SpellsAtom ls a) :
    ∃ name ms, ls = .ident name :: ms := by
  cases spelled with
  | relation r left right =>
      obtain ⟨name, ms, rfl⟩ := left.starts
      exact ⟨name, _, rfl⟩
  | proposition name => exact ⟨name, [], rfl⟩
  | predicate name arguments => exact ⟨name, _, rfl⟩

/-- What starts an operand neither continues nor ends a list of variables or arguments. -/
theorem SpellsOperand.starts {ls : List Lexeme} {f : Formula} (spelled : SpellsOperand ls f) :
    ∃ l ms, ls = l :: ms ∧ l ∉ [.comma, .dot, .closing] := by
  cases spelled with
  | neg argument => exact ⟨.neg, _, rfl, by decide⟩
  | quant q quantified dotted scope => exact ⟨.quantifier q, _, rfl, by simp⟩
  | group inner => exact ⟨.opening, _, rfl, by decide⟩
  | atom atomic =>
      obtain ⟨name, ms, rfl⟩ := atomic.starts
      exact ⟨.ident name, ms, rfl, by simp⟩

end Clausal.Grammar
