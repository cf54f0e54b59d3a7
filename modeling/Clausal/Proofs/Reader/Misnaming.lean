import Clausal.Proofs.Reader.Grammar
import Clausal.Proofs.Semantics.Free

/-!
# Names of functions among tokens

Arguments of a name that no function can have are closed at a bracket that is found from the
tokens alone (`misnamed?`). In the tokens of a formula it is found exactly if one of the names with
arguments in the tree is such a name (`Brackets.afterAll?_eq_none_iff`), and it does close such
arguments (`endsMisnamed_of_misnamed?`). The places between the tokens are followed through every
production of the grammar: the lexemes of a term or a formula leave the open brackets as they are,
unless the scan stops in them (`Passes`).
-/

namespace Clausal

open Grammar

/-- The check looks for the null character anywhere in a name. -/
theorem holdsNull_eq_true_iff {name : String} : holdsNull name = true ↔ '\x00' ∈ name.toList := by
  rw [holdsNull, List.contains_iff_mem]

/-- The names in a term or a predicate that is written as a name with arguments. Without arguments
it is no application. -/
def calledNames (name : String) : List Term → List String
  | [] => []
  | args => name :: Term.functionsList args

/-- A name with arguments is a function symbol; without arguments it is none. -/
theorem functions_applied (name : String) (args : List Term) :
    (Term.applied name args).functions = calledNames name args := by
  cases args <;> rfl

/-- The names with arguments in an atom. While a predicate is read, it could still be a term. -/
def Atom.calledNames : Atom → List String
  | .pred name args => Clausal.calledNames name args
  | .relation _ lhs rhs => lhs.functions ++ rhs.functions

namespace Formula

/-- The names with arguments in a formula. -/
def calledNames (f : Formula) : List String := f.atoms.flatMap Atom.calledNames

/-- All names with arguments can be those of functions. -/
def Callable (f : Formula) : Prop := ∀ name ∈ f.calledNames, '\x00' ∉ name.toList

/-- A formula is callable if none of its names with arguments fails the check. -/
theorem callable_iff {f : Formula} : f.Callable ↔ f.calledNames.any holdsNull = false := by
  rw [Callable, List.any_eq_false]
  exact forall₂_congr fun name _ => (not_congr holdsNull_eq_true_iff).symm

/-- A chain has the names with arguments of its operands, in order. -/
theorem calledNames_foldl_binary (c : Connective) (f : Formula) (gs : List Formula) :
    (gs.foldl (.binary c) f).calledNames = f.calledNames ++ gs.flatMap calledNames := by
  induction gs generalizing f with
  | nil => exact (List.append_nil _).symm
  | cons g gs ih =>
      rw [List.foldl_cons, ih, calledNames, atoms, List.flatMap_append, List.flatMap_cons,
        List.append_assoc]
      rfl

/-- Quantifiers add no names with arguments. -/
theorem calledNames_quantAll (q : Quantifier) (names : List String) (f : Formula) :
    (quantAll q names f).calledNames = f.calledNames := by
  induction names with
  | nil => rfl
  | cons x names ih => exact ih

end Formula

namespace Brackets

/-- The place after some lexemes, if all names with arguments among them can be those of
functions. -/
def afterAll? (b : Brackets) : List Lexeme → Option Brackets
  | [] => some b
  | l :: ls => (b.after? l).bind (·.afterAll? ls)

theorem afterAll?_append (b : Brackets) (ls ms : List Lexeme) :
    b.afterAll? (ls ++ ms) = (b.afterAll? ls).bind (·.afterAll? ms) := by
  induction ls generalizing b with
  | nil => rfl
  | cons l ls ih =>
      rw [List.cons_append, afterAll?, afterAll?, Option.bind_assoc]
      exact congrArg _ (funext fun next => ih next)

/-- A bracket that does not follow on its opening one closes the arguments of the name before the
opening one, if there is one. -/
theorem after?_closing {place : Place} (filled : place ≠ .opening) (name? : Option String)
    (names : List (Option String)) :
    after? ⟨place, name? :: names⟩ .closing =
      if name?.any holdsNull then none else some ⟨.other, names⟩ := by
  rw [after?, misnames, decide_eq_true filled, Bool.true_and]
  rfl

/-- The scan stops at the bracket that closes arguments of a name that no function can have. -/
def Stops (b : Brackets) (ls : List Lexeme) : Prop :=
  ∃ before name args rest, ∃ as : List Term,
    ls = before ++ .ident name :: .opening :: (args ++ .closing :: rest) ∧
      holdsNull name = true ∧ Separated SpellsTerm args as ∧
      (∃ here, b.afterAll? before = some here ∧ here.place ≠ .binder) ∧
      ∃ last names, last ≠ .opening ∧
        b.afterAll? (before ++ .ident name :: .opening :: args) = some ⟨last, some name :: names⟩

namespace Stops

variable {b next : Brackets} {ls ms : List Lexeme}

theorem append (stops : b.Stops ls) (ms : List Lexeme) : b.Stops (ls ++ ms) := by
  obtain ⟨before, name, args, rest, as, rfl, stop⟩ := stops
  refine ⟨before, name, args, rest ++ ms, as, ?_, stop⟩
  simp only [List.append_assoc, List.cons_append]

/-- Where the scan stops later, it has passed what is before. -/
theorem after (reached : b.afterAll? ls = some next) (stops : next.Stops ms) :
    b.Stops (ls ++ ms) := by
  obtain ⟨before, name, args, rest, as, rfl, null, terms, ⟨here, passed, free⟩, last, names, filled,
    open_⟩ := stops
  refine ⟨ls ++ before, name, args, rest, as, (List.append_assoc _ _ _).symm, null, terms,
    ⟨here, ?_, free⟩, last, names, filled, ?_⟩
  · rw [afterAll?_append, reached]
    exact passed
  · rw [List.append_assoc, afterAll?_append, reached]
    exact open_

theorem afterAll?_eq_none (stops : b.Stops ls) : b.afterAll? ls = none := by
  obtain ⟨before, name, args, rest, _, rfl, null, _, _, last, names, filled, open_⟩ := stops
  have parts : before ++ .ident name :: .opening :: (args ++ .closing :: rest) =
      (before ++ .ident name :: .opening :: args) ++ .closing :: rest := by
    simp only [List.append_assoc, List.cons_append]
  rw [parts, afterAll?_append, open_, Option.bind_some, afterAll?, after?_closing filled]
  exact congrArg (Option.bind · _) (if_pos null)

end Stops

end Brackets

/-- What stands behind a term or a formula. -/
def Place.Ended : Place → Prop
  | .name _ | .other => True
  | _ => False

theorem Place.ended_of_eq_other {place : Place} (other : place = .other) : place.Ended := by
  subst other
  trivial

theorem Place.ended_of_name? {place : Place} {name : String} (named : place.name? = some name) :
    place.Ended := by
  cases place with
  | name _ => trivial
  | _ => exact nomatch named

theorem Place.Ended.ne_opening {place : Place} (ended : place.Ended) : place ≠ .opening := by
  rintro rfl
  exact ended

/-- What stands before a formula, so that a bracket there opens a group. -/
def Place.Scope (place : Place) : Prop := place ≠ .binder ∧ place.name? = none

/-- Lexemes between two kinds of places. The brackets that are open before them are open behind
them, unless one of the given names is none of a function and the scan stops. -/
def Passes (start finish : Place → Prop) (ls : List Lexeme) (called : List String) : Prop :=
  ∀ place names, start place →
    (called.any holdsNull = true ∧ Brackets.Stops ⟨place, names⟩ ls) ∨
      called.any holdsNull = false ∧
        ∃ next, finish next ∧ Brackets.afterAll? ⟨place, names⟩ ls = some ⟨next, names⟩

namespace Passes

variable {start middle finish other : Place → Prop} {ls ms : List Lexeme}
  {called more : List String}

theorem nil (same : ∀ place, start place → finish place) : Passes start finish [] [] :=
  fun place _ first => .inr ⟨rfl, place, same place first, rfl⟩

/-- A lexeme that neither opens nor closes brackets. -/
theorem lexeme {l : Lexeme} (step : ∀ place names, start place → ∃ next, finish next ∧
    Brackets.after? ⟨place, names⟩ l = some ⟨next, names⟩) : Passes start finish [l] [] := by
  intro place names first
  obtain ⟨next, last, stepped⟩ := step place names first
  refine .inr ⟨rfl, next, last, ?_⟩
  rw [Brackets.afterAll?, stepped]
  rfl

theorem append (left : Passes start middle ls called) (right : Passes middle finish ms more) :
    Passes start finish (ls ++ ms) (called ++ more) := by
  intro place names first
  rw [List.any_append]
  rcases left place names first with ⟨named, stops⟩ | ⟨unnamed, next, between, reached⟩
  · rw [named]
    exact .inl ⟨rfl, stops.append ms⟩
  · rw [unnamed, Bool.false_or, Brackets.afterAll?_append, reached]
    exact (right next names between).imp_left (And.imp_right (.after reached))

/-- It may be known more about the place before, and less about the place behind. -/
theorem imp (passes : Passes start finish ls called) {earlier later : Place → Prop}
    (before : ∀ place, earlier place → start place)
    (behind : ∀ place, finish place → later place) : Passes earlier later ls called := by
  intro place names first
  refine (passes place names (before place first)).imp_right (And.imp_right ?_)
  exact fun ⟨next, last, reached⟩ => ⟨next, behind next last, reached⟩

/-- Brackets that do not belong to a name. -/
theorem enclosed (inner : Passes (· = .opening) Place.Ended ls called) :
    Passes (·.name? = none) (· = .other) (.opening :: (ls ++ [.closing])) called := by
  intro place names nameless
  have opened : Brackets.afterAll? ⟨place, names⟩ [.opening] = some ⟨.opening, none :: names⟩ := by
    rw [← nameless]
    rfl
  refine (inner .opening (none :: names) rfl).imp (And.imp_right fun stops => ?_)
    (And.imp_right fun ⟨next, ended, reached⟩ => ⟨.other, rfl, ?_⟩)
  · exact .after opened (stops.append [.closing])
  · have closed := Brackets.after?_closing ended.ne_opening none names
    change Brackets.afterAll? ⟨place, names⟩ ([.opening] ++ (ls ++ [.closing])) = _
    rw [Brackets.afterAll?_append, opened, Option.bind_some, Brackets.afterAll?_append, reached,
      Option.bind_some, Brackets.afterAll?, closed]
    rfl

/-- Brackets that belong to a name stop the scan if no function can have the name. -/
theorem applied {args : List Term} (terms : Separated SpellsTerm ls args)
    (inner : Passes (· = .opening) Place.Ended ls called) (name : String) :
    Passes (· ≠ .binder) (· = .other) (.ident name :: .opening :: (ls ++ [.closing]))
      (name :: called) := by
  intro place names free
  have opened : Brackets.afterAll? ⟨place, names⟩ [.ident name, .opening] =
      some ⟨.opening, some name :: names⟩ := by
    rw [Brackets.afterAll?, Brackets.after?, if_neg free]
    rfl
  rw [List.any_cons]
  rcases inner .opening (some name :: names) rfl with
    ⟨named, stops⟩ | ⟨unnamed, next, ended, reached⟩
  · rw [named, Bool.or_true]
    exact .inl ⟨rfl, .after opened (stops.append [.closing])⟩
  · have whole : Brackets.afterAll? ⟨place, names⟩ (.ident name :: .opening :: ls) =
        some ⟨next, some name :: names⟩ := by
      change Brackets.afterAll? ⟨place, names⟩ ([.ident name, .opening] ++ ls) = _
      rw [Brackets.afterAll?_append, opened]
      exact reached
    rw [unnamed, Bool.or_false]
    cases null : holdsNull name with
    | true =>
        exact .inl ⟨rfl, [], name, ls, [], args, rfl, null, terms, ⟨_, rfl, free⟩, next, names,
          ended.ne_opening, whole⟩
    | false =>
        refine .inr ⟨rfl, .other, rfl, ?_⟩
        change Brackets.afterAll? ⟨place, names⟩ ((.ident name :: .opening :: ls) ++ [.closing]) = _
        rw [Brackets.afterAll?_append, whole, Option.bind_some, Brackets.afterAll?,
          Brackets.after?_closing ended.ne_opening, Option.any_some, null]
        rfl

section Repetitions

variable {α : Type} {item : List Lexeme → α → Prop} {names : α → List String}
  (passes : ∀ ms a, item ms a → Passes start finish ms (names a))
include passes

/-- Items that pass still do with separators in front of them. -/
theorem further {separator : Lexeme} (between : Passes finish start [separator] [])
    {as : List α} (further : Further separator item ls as) :
    Passes finish finish ls (as.flatMap names) := by
  induction further with
  | none => exact .nil fun _ last => last
  | some first _ ih => exact between.append ((passes _ _ first).append ih)

/-- Items that pass still do with commas between them. -/
theorem separated (between : Passes finish start [.comma] []) {as : List α}
    (separated : Separated item ls as) : Passes start finish ls (as.flatMap names) := by
  cases separated with
  | intro first rest => exact (passes _ _ first).append (further passes between rest)

end Repetitions

end Passes

namespace Grammar

variable {ls : List Lexeme}

/-- A comma is passed where an item has ended. -/
theorem passes_comma : Passes Place.Ended (· ≠ .binder) [.comma] [] := by
  refine .lexeme fun place names last => ⟨.other, nofun, ?_⟩
  cases place <;> first | rfl | exact last.elim

/-- A name is remembered, in case that arguments follow. -/
theorem passes_name (name : String) :
    Passes (· ≠ .binder) (·.name? = some name) [.ident name] [] :=
  .lexeme fun place names free => ⟨.name name, rfl, by rw [Brackets.after?, if_neg free]⟩

/-- A name may also stand alone, as a term or as a predicate. -/
theorem passes_name_alone (name : String) : Passes (· ≠ .binder) Place.Ended [.ident name] [] :=
  (passes_name name).imp (fun _ free => free) fun _ named => Place.ended_of_name? named

/-- A name with arguments, as a term or as a predicate. -/
theorem passes_call {item : List Lexeme → Term → Prop}
    (terms : ∀ ms t, item ms t → SpellsTerm ms t ∧ Passes (· ≠ .binder) Place.Ended ms t.functions)
    (name : String) {args : List Term} (arguments : Arguments item ls args) :
    Passes (· ≠ .binder) Place.Ended (.ident name :: .opening :: ls) (calledNames name args) := by
  cases arguments with
  | none =>
      have empty : Passes (·.name? = some name) (· = .other) [.opening, .closing] [] :=
        fun place names _ => .inr ⟨rfl, .other, rfl, rfl⟩
      exact ((passes_name name).append empty).imp (fun _ free => free) fun _ =>
        Place.ended_of_eq_other
  | @some ls args items =>
      have inner : Passes (· ≠ .binder) Place.Ended ls (args.flatMap Term.functions) :=
        .separated (fun ms t spelled => (terms ms t spelled).2) passes_comma items
      have opened : Passes (· = .opening) Place.Ended ls (args.flatMap Term.functions) :=
        inner.imp (fun place same => same ▸ nofun) fun _ last => last
      have spelled : Separated SpellsTerm ls args :=
        items.imp fun ms t _ spelled => (terms ms t spelled).1
      have applied := Passes.applied spelled opened name
      rw [← Term.functionsList_eq_flatMap] at applied
      cases items with
      | intro first rest =>
          exact applied.imp (fun _ free => free) fun _ => Place.ended_of_eq_other

/-- A term is passed unless the name of a function in it fails the check. -/
theorem SpellsTerm.passes {t : Term} (spelled : SpellsTerm ls t) :
    Passes (· ≠ .binder) Place.Ended ls t.functions := by
  refine spelled.induction (motive := fun ls t _ =>
    Passes (· ≠ .binder) Place.Ended ls t.functions) passes_name_alone
    fun name ls args _ arguments => ?_
  rw [functions_applied]
  exact passes_call (fun ms t ⟨term, passes⟩ => ⟨term, passes⟩) name arguments

/-- An atom is passed unless one of its names with arguments fails the check. -/
theorem SpellsAtom.passes {a : Atom} (spelled : SpellsAtom ls a) :
    Passes (· ≠ .binder) Place.Ended ls a.calledNames := by
  cases spelled with
  | relation r left right =>
      have sign : Passes Place.Ended (· ≠ .binder) [.relation r] [] :=
        .lexeme fun _ _ _ => ⟨.other, nofun, rfl⟩
      exact left.passes.append (sign.append right.passes)
  | proposition name => exact passes_name_alone name
  | predicate name arguments =>
      exact passes_call (fun _ _ term => ⟨term, term.passes⟩) name arguments

/-- A chain of operands is passed if they are. -/
theorem Levels.passes {operand : List Lexeme → Formula → Prop}
    (passes : ∀ ms g, operand ms g → Passes Place.Scope Place.Ended ms g.calledNames)
    {f : Formula} (levels : Levels operand ls f) :
    Passes Place.Scope Place.Ended ls f.calledNames := by
  have level {c : Connective} {operand : List Lexeme → Formula → Prop}
      (passes : ∀ ms g, operand ms g → Passes Place.Scope Place.Ended ms g.calledNames)
      (ls : List Lexeme) (f : Formula) (level : Level c operand ls f) :
      Passes Place.Scope Place.Ended ls f.calledNames := by
    cases level with
    | fold first rest =>
        have sign : Passes Place.Ended Place.Scope [.connective c] [] :=
          .lexeme fun _ _ _ => ⟨.other, ⟨nofun, rfl⟩, rfl⟩
        rw [Formula.calledNames_foldl_binary]
        exact (passes _ _ first).append (.further passes sign rest)
  exact level (level (level (level passes))) ls f levels

/-- The variables behind a quantifier are passed. -/
theorem passes_variables {names : List String} (binders : Separated SpellsName ls names) :
    Passes (· = .binder) (· = .bound) ls [] := by
  have passes (ms : List Lexeme) (name : String) (spelled : SpellsName ms name) :
      Passes (· = .binder) (· = .bound) ms [] := by
    cases spelled with
    | ident name =>
        exact .lexeme fun place names quantified =>
          ⟨.bound, rfl, by rw [Brackets.after?, if_pos quantified]⟩
  have comma : Passes (· = .bound) (· = .binder) [.comma] [] := by
    refine .lexeme fun place names bound => ⟨.binder, rfl, ?_⟩
    rw [Brackets.after?, if_pos bound]
  have separated := Passes.separated passes comma binders
  rwa [List.flatMap_eq_nil_iff.mpr fun _ _ => rfl] at separated

/-- An operand is passed unless one of its names with arguments fails the check. -/
theorem SpellsOperand.passes {f : Formula} (spelled : SpellsOperand ls f) :
    Passes Place.Scope Place.Ended ls f.calledNames := by
  refine spelled.induction (motive := fun ls f _ =>
    Passes Place.Scope Place.Ended ls f.calledNames) ?neg ?quant ?group ?atom
  case neg =>
    intro ls f _ passes
    have sign : Passes Place.Scope Place.Scope [.neg] [] :=
      .lexeme fun _ _ _ => ⟨.other, ⟨nofun, rfl⟩, rfl⟩
    exact sign.append passes
  case quant =>
    intro q ls dot ms names f quantified dotted _ passes
    have sign : Passes Place.Scope (· = .binder) [.quantifier q] [] :=
      .lexeme fun _ _ _ => ⟨.binder, rfl, rfl⟩
    have behind : Passes (· = .bound) Place.Scope dot [] := by
      rcases dotted with rfl | rfl
      · exact .nil fun place same => same ▸ ⟨nofun, rfl⟩
      · exact .lexeme fun _ _ _ => ⟨.other, ⟨nofun, rfl⟩, rfl⟩
    rw [Formula.calledNames_quantAll]
    exact sign.append ((passes_variables quantified).append (behind.append passes))
  case group =>
    intro ls f _ inner
    have passes := Levels.passes (fun ms g passes => passes.2) inner
    have opened : Passes (· = .opening) Place.Ended ls f.calledNames :=
      passes.imp (fun place same => same ▸ ⟨nofun, rfl⟩) fun _ last => last
    exact opened.enclosed.imp (fun _ scope => scope.2) fun _ => Place.ended_of_eq_other
  case atom =>
    intro ls a atomic
    have passes := atomic.passes
    rw [Formula.calledNames, Formula.atoms, List.flatMap_singleton]
    exact passes.imp (fun _ scope => scope.1) fun _ last => last

end Grammar

namespace Brackets

/-- Lexemes that spell a formula are passed over exactly if all its names with arguments can be
those of functions. -/
theorem afterAll?_eq_none_iff {ls : List Lexeme} {f : Formula} (spelled : SpellsFormula ls f) :
    outside.afterAll? ls = none ↔ ¬f.Callable := by
  have passes := Levels.passes (fun _ _ operand => operand.passes) spelled
  rw [Formula.callable_iff]
  rcases passes .other [] ⟨nofun, rfl⟩ with ⟨named, stops⟩ | ⟨unnamed, next, _, reached⟩
  · rw [named]
    exact iff_of_true stops.afterAll?_eq_none nofun
  · rw [unnamed]
    exact iff_of_false (fun stopped => nomatch reached.symm.trans stopped) (not_not_intro rfl)

variable {b : Brackets} {ts made : List Token}

/-- No name fails the check exactly if all tokens are passed. -/
theorem misnamed?_eq_none_iff :
    b.misnamed? ts = none ↔ b.afterAll? (ts.map Token.lexeme) ≠ none := by
  induction ts generalizing b with
  | nil => exact iff_of_true rfl nofun
  | cons t ts ih =>
      rw [misnamed?, List.map_cons, afterAll?]
      cases b.after? t.lexeme with
      | none => exact iff_of_false nofun (not_not_intro rfl)
      | some next => exact Option.map_eq_none_iff.trans ih

/-- The scan is found to stop at the first token that cannot be passed. -/
theorem exists_stop_of_misnamed? (found : b.misnamed? ts = some made) :
    ∃ passed t rest last, made = passed ++ [t] ∧ ts = made ++ rest ∧
      b.afterAll? (passed.map Token.lexeme) = some last ∧ last.after? t.lexeme = none := by
  induction ts generalizing b made with
  | nil => exact nomatch found
  | cons t ts ih =>
      rw [misnamed?] at found
      cases step : b.after? t.lexeme with
      | none =>
          rw [step] at found
          obtain rfl := Option.some.inj found
          exact ⟨[], t, ts, b, rfl, rfl, rfl, step⟩
      | some next =>
          rw [step] at found
          obtain ⟨inner, later, rfl⟩ := Option.map_eq_some_iff.mp found
          obtain ⟨passed, u, rest, last, rfl, rfl, reached, stopped⟩ := ih later
          refine ⟨t :: passed, u, rest, last, rfl, rfl, ?_, stopped⟩
          rw [List.map_cons, afterAll?, step]
          exact reached

/-- The tokens up to where the scan stops are not passed. -/
theorem exists_append_of_misnamed? (found : b.misnamed? ts = some made) :
    ∃ rest, ts = made ++ rest ∧ b.afterAll? (made.map Token.lexeme) = none := by
  obtain ⟨passed, t, rest, last, rfl, split, reached, stopped⟩ := exists_stop_of_misnamed? found
  refine ⟨rest, split, ?_⟩
  rw [List.map_append, afterAll?_append, reached, Option.bind_some, List.map_singleton, afterAll?,
    stopped]
  rfl

/-- Among names without a null character, brackets never close the arguments of another one. -/
theorem afterAll?_ne_none {ls : List Lexeme}
    (lawful : ∀ name, .ident name ∈ ls → holdsNull name = false)
    (behind : ∀ name, b.place.name? = some name → holdsNull name = false)
    (inside : ∀ name, some name ∈ b.names → holdsNull name = false) : b.afterAll? ls ≠ none := by
  induction ls generalizing b with
  | nil => exact nofun
  | cons l ls ih =>
      have rest : ∀ name, .ident name ∈ ls → holdsNull name = false :=
        fun name member => lawful name (List.mem_cons_of_mem l member)
      rw [afterAll?]
      cases l with
      | ident name =>
          refine ih rest (fun other same => ?_) inside
          dsimp only at same
          split at same
          · exact nomatch same
          · obtain rfl := Option.some.inj same
            exact lawful _ List.mem_cons_self
      | comma =>
          refine ih rest (fun other same => ?_) inside
          dsimp only at same
          split at same <;> exact nomatch same
      | opening =>
          refine ih rest nofun fun name member => ?_
          rcases List.mem_cons.mp member with same | member
          · exact behind name same.symm
          · exact inside name member
      | closing =>
          have open_ : b.misnames = false := by
            rw [misnames, Bool.and_eq_false_iff]
            refine .inr ?_
            cases named : b.names.head?.join with
            | none => rfl
            | some name =>
                refine inside name (List.mem_of_mem_head? ?_)
                exact Option.join_eq_some_iff.mp named
          rw [after?, open_]
          exact ih rest nofun fun name member => inside name (List.mem_of_mem_tail member)
      | _ => exact ih rest nofun inside

/-- Tokens are passed if no name among them contains the null character. -/
theorem afterAll?_outside_ne_none {ls : List Lexeme}
    (lawful : ∀ name, .ident name ∈ ls → '\x00' ∉ name.toList) : outside.afterAll? ls ≠ none := by
  have unmet (name : String) (member : .ident name ∈ ls) : holdsNull name = false :=
    Bool.eq_false_iff.mpr (mt holdsNull_eq_true_iff.mp (lawful name member))
  have nowhere (name : String) : some name ∉ outside.names := List.not_mem_nil
  have bare (name : String) : outside.place.name? ≠ some name := nofun
  exact afterAll?_ne_none unmet (fun name same => absurd same (bare name))
    fun name member => absurd member (nowhere name)

end Brackets

/-- The tokens up to the end of such arguments are the first ones. -/
theorem exists_append_of_misnamed? {ts made : List Token} (found : misnamed? ts = some made) :
    ∃ rest, ts = made ++ rest :=
  (Brackets.exists_append_of_misnamed? found).imp fun _ split => split.1

/-- However the tokens before a misnamed application go on, they spell no formula that is
accepted. -/
theorem not_callable_of_misnamed? {ts made : List Token} (found : misnamed? ts = some made)
    {more : List Lexeme} {f : Formula}
    (spelled : SpellsFormula (made.map Token.lexeme ++ more) f) : ¬f.Callable := by
  obtain ⟨_, _, stopped⟩ := Brackets.exists_append_of_misnamed? found
  rw [← Brackets.afterAll?_eq_none_iff spelled, Brackets.afterAll?_append, stopped]
  rfl

/-- If no name fails the check, the formula that the tokens spell is callable. -/
theorem callable_of_misnamed?_eq_none {ts : List Token} (unmet : misnamed? ts = none)
    {f : Formula} (spelled : SpellsFormula (ts.map Token.lexeme) f) : f.Callable := by
  by_contra uncallable
  exact Brackets.misnamed?_eq_none_iff.mp unmet
    ((Brackets.afterAll?_eq_none_iff spelled).mpr uncallable)

/-- A formula can be read if no name among its lexemes has a null character. -/
theorem callable_of_lawful {ls : List Lexeme}
    (lawful : ∀ name, .ident name ∈ ls → '\x00' ∉ name.toList) {f : Formula}
    (spelled : SpellsFormula ls f) : f.Callable := by
  by_contra uncallable
  exact Brackets.afterAll?_outside_ne_none lawful
    ((Brackets.afterAll?_eq_none_iff spelled).mpr uncallable)

/-- No name fails the check if none contains the null character. -/
theorem misnamed?_eq_none {ts : List Token}
    (lawful : ∀ name, .ident name ∈ ts.map Token.lexeme → '\x00' ∉ name.toList) :
    misnamed? ts = none :=
  Brackets.misnamed?_eq_none_iff.mpr (Brackets.afterAll?_outside_ne_none lawful)

end Clausal
