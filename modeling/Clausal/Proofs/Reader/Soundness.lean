import Clausal.Proofs.Reader.Grammar
import Clausal.Proofs.Reader.Steps

/-!
# What readers take

A reader that succeeds takes lexemes off that spell what it returns, and a reader that
refuses has taken lexemes that can be completed and points at the first one it did not
take (`Taken`). So nothing is read that the grammar does not derive
(`Reader.taken_formula`), and nothing behind the end of the input is ever looked at.
-/

namespace Clausal

open Grammar

variable {α β : Type} {ts : List Token}

/-- Lexemes without any name but the empty one. -/
def Nameless (ls : List Lexeme) : Prop := ∀ name, .ident name ∈ ls → name = ""

/-- The empty name is the only one that stands for a missing name. -/
theorem nameless_ident : Nameless [.ident ""] := fun _ member =>
  Lexeme.ident.inj (List.mem_singleton.mp member)

theorem nameless_closing : Nameless [.closing] := fun _ member =>
  nomatch List.mem_singleton.mp member

/-- An outcome on some tokens: either a part that spells the result is taken off, or a part
that could be completed without any further names, and the next token is reported. -/
inductive Taken (spells : List Lexeme → α → Prop) (ts : List Token) :
    Except Refusal (α × List Token) → Prop where
  | read (used rest : List Token) {a : α} (split : ts = used ++ rest)
      (spelled : spells (used.map Token.lexeme) a) : Taken spells ts (.ok (a, rest))
  | refused (used rest : List Token) (wanted : Wanted) (more : List Lexeme) {a : α}
      (split : ts = used ++ rest) (nameless : Nameless more)
      (completed : spells (used.map Token.lexeme ++ more) a) :
      Taken spells ts (.error ⟨wanted, rest.head?⟩)

theorem taken_ok_iff {spells : List Lexeme → α → Prop} {a : α} {rest : List Token} :
    Taken spells ts (.ok (a, rest)) ↔
      ∃ used, ts = used ++ rest ∧ spells (used.map Token.lexeme) a := by
  constructor
  · intro taken
    cases taken with
    | read used rest split spelled => exact ⟨used, split, spelled⟩
  · rintro ⟨used, split, spelled⟩
    exact .read used rest split spelled

theorem taken_error_iff {spells : List Lexeme → α → Prop} {r : Refusal} :
    Taken spells ts (.error r) ↔ ∃ used rest more a, ts = used ++ rest ∧ r.found = rest.head? ∧
      Nameless more ∧ spells (used.map Token.lexeme ++ more) a := by
  constructor
  · intro taken
    generalize outcome : (Except.error r : Except Refusal (α × List Token)) = o at taken
    cases taken with
    | read used rest split spelled => exact nomatch outcome
    | refused used rest wanted more split nameless completed =>
        exact ⟨used, rest, more, _, split, congrArg Refusal.found (Except.error.inj outcome),
          nameless, completed⟩
  · rintro ⟨used, rest, more, a, split, found, nameless, completed⟩
    obtain ⟨wanted, _⟩ := r
    subst found
    exact .refused used rest wanted more split nameless completed

namespace Taken

variable {spells : List Lexeme → α → Prop} {both : List Lexeme → β → Prop}

/-- A reader may leave all its tokens. -/
theorem done {a : α} (spelled : spells [] a) : Taken spells ts (.ok (a, ts)) :=
  .read [] ts rfl spelled

/-- A reader may refuse its first token. -/
theorem refuse {a : α} (wanted : Wanted) {more : List Lexeme} (spelled : spells more a)
    (nameless : Nameless more) : Taken spells ts (.error ⟨wanted, ts.head?⟩) :=
  .refused [] ts wanted more rfl nameless spelled

theorem append {outcome : Except Refusal (α × List Token)} (front : List Token)
    (taken : Taken (fun ls a => spells (front.map Token.lexeme ++ ls) a) ts outcome) :
    Taken spells (front ++ ts) outcome := by
  cases taken with
  | read used rest split spelled =>
      refine .read (front ++ used) rest ?_ ?_
      · rw [split, List.append_assoc]
      · rwa [List.map_append]
  | @refused used rest wanted more a split nameless completed =>
      refine .refused (a := a) (front ++ used) rest wanted more ?_ nameless ?_
      · rw [split, List.append_assoc]
      · rwa [List.map_append, List.append_assoc]

theorem cons {outcome : Except Refusal (α × List Token)} (t : Token)
    (taken : Taken (fun ls a => spells (t.lexeme :: ls) a) ts outcome) :
    Taken spells (t :: ts) outcome :=
  append [t] taken

/-- No more tokens are left than there were. -/
theorem length_le {a : α} {rest : List Token} (taken : Taken spells ts (.ok (a, rest))) :
    rest.length ≤ ts.length := by
  cases taken with
  | read used rest split spelled =>
      rw [split, List.length_append]
      exact Nat.le_add_left _ _

/-- Without any tokens, something can still be spelled. -/
theorem completable {outcome : Except Refusal (α × List Token)}
    (taken : Taken spells [] outcome) : ∃ ls a, Nameless ls ∧ spells ls a := by
  cases taken with
  | read used rest split spelled =>
      obtain ⟨rfl, rfl⟩ := List.append_eq_nil_iff.mp split.symm
      exact ⟨[], _, nofun, spelled⟩
  | refused used rest wanted more split nameless completed =>
      obtain ⟨rfl, rfl⟩ := List.append_eq_nil_iff.mp split.symm
      exact ⟨more, _, nameless, completed⟩

/-- What is spelled may be described otherwise. -/
theorem imp {other : List Lexeme → α → Prop} {outcome : Except Refusal (α × List Token)}
    (taken : Taken spells ts outcome) (exchange : ∀ ls a, spells ls a → other ls a) :
    Taken other ts outcome := by
  cases taken with
  | read used rest split spelled => exact .read used rest split (exchange _ _ spelled)
  | refused used rest wanted more split nameless completed =>
      exact .refused used rest wanted more split nameless (exchange _ _ completed)

/-- What is taken after a first part is joined to it. -/
theorem bind {outcome : Except Refusal (α × List Token)}
    {next : α × List Token → Except Refusal (β × List Token)} (first : Taken spells ts outcome)
    (second : ∀ ls rest a, spells ls a →
      Taken (fun ms b => both (ls ++ ms) b) rest (next (a, rest))) :
    Taken both ts (outcome >>= next) := by
  cases first with
  | read used rest split spelled =>
      rw [split]
      exact append used (second _ rest _ spelled)
  | refused used rest wanted more split nameless completed =>
      -- Whatever follows the completed first part can be completed as well.
      obtain ⟨more', b, nameless', completed'⟩ := (second _ [] _ completed).completable
      refine .refused used rest wanted (more ++ more') split ?_ (by rwa [← List.append_assoc])
      exact fun name member =>
        (List.mem_append.mp member).elim (nameless name) (nameless' name)

/-- A result is changed without taking anything else. -/
theorem mapped {outcome : Except Refusal (α × List Token)} (g : α → β)
    (taken : Taken spells ts outcome) (spelled : ∀ ls a, spells ls a → both ls (g a)) :
    Taken both ts (outcome >>= fun x => .ok (g x.1, x.2)) := by
  refine taken.bind fun ls rest a read => .done ?_
  rw [List.append_nil]
  exact spelled ls a read

end Taken

namespace Reader

variable {spells : List Lexeme → α → Prop} {item : Reader α}

/-- A name is read off a token, or could stand there. -/
theorem taken_identifier (ts : List Token) : Taken SpellsName ts (identifier ts) := by
  unfold identifier
  split
  · exact .cons _ (.done (.ident _))
  · exact .refuse _ (.ident "") nameless_ident

theorem taken_closing (ts : List Token) :
    Taken (fun ls _ => ls = [.closing]) ts (closing ts) := by
  unfold closing
  split
  · exact .cons _ (.done rfl)
  · exact .refuse (a := ()) _ rfl nameless_closing

/-- Further items are taken soundly if one item is. -/
theorem taken_more (sound : ∀ ts, Taken spells ts (item ts)) (bound : Nat) (ts : List Token) :
    Taken (Further .comma spells) ts (more item bound ts) := by
  induction bound generalizing ts with
  | zero => exact .done .none
  | succ bound ih =>
      rcases starts_or_unread .comma ts with ⟨pos, ts, rfl⟩ | stop
      · rw [more_comma]
        refine .cons _ ((sound ts).bind fun ls rest a first => ?_)
        exact (ih rest).mapped _ fun ms as further => .some first further
      · rw [more_of_unread (bound + 1) stop]
        exact .done .none

/-- Items with commas between them are taken soundly if one item is. -/
theorem taken_separated (sound : ∀ ts, Taken spells ts (item ts)) (ts : List Token) :
    Taken (Separated spells) ts (separated item ts) := by
  refine (sound ts).bind fun ls rest a first => ?_
  exact (taken_more sound rest.length rest).mapped _ fun ms as further => .intro first further

/-- Arguments in brackets are taken soundly if one is. -/
theorem taken_arguments (sound : ∀ ts, Taken spells ts (item ts)) (ts : List Token) :
    Taken (Arguments spells) ts (arguments item ts) := by
  rcases starts_or_unread .closing ts with ⟨pos, ts, rfl⟩ | nonempty
  · exact .cons _ (.done .none)
  · rw [arguments_of_unread nonempty]
    refine (taken_separated sound ts).bind fun ls rest as items => ?_
    refine (taken_closing rest).mapped (fun _ => as) fun ms _ closed => ?_
    rw [closed]
    exact .some items

/-- What the two kinds of applications spell is all that has to be known. -/
theorem taken_application {args : Reader (List Term)} {bare : String → β}
    {applied : String → List Term → β} {spells : List Lexeme → β → Prop}
    (sound : ∀ ts, Taken (Arguments SpellsTerm) ts (args ts))
    (alone : ∀ name, spells [.ident name] (bare name))
    (bracketed : ∀ name ls as, Arguments SpellsTerm ls as →
      spells (.ident name :: .opening :: ls) (applied name as)) (ts : List Token) :
    Taken spells ts (application args bare applied ts) := by
  rcases application_cases args bare applied ts with ⟨name, pos, ts, rfl⟩ | refused
  · refine .cons _ ?_
    rcases starts_or_unread .opening ts with ⟨pos', ts, rfl⟩ | stop
    · rw [application_opening]
      exact .cons _ ((sound ts).mapped _ fun ls as arguments => bracketed name ls as arguments)
    · rw [application_of_unread args bare applied name pos stop]
      exact .done (alone name)
  · rw [refused]
    exact .refuse _ (alone "") nameless_ident

/-- A term is taken off whatever the bound is. -/
theorem taken_term (bound : Nat) (ts : List Token) : Taken SpellsTerm ts (term bound ts) := by
  induction bound generalizing ts with
  | zero => exact .refuse _ (.symbol "") nameless_ident
  | succ bound ih =>
      exact taken_application (taken_arguments ih) .symbol (fun name _ _ => .application name) ts

/-- Predicates are taken soundly. -/
theorem taken_predicate (ts : List Token) : Taken SpellsAtom ts (predicate ts) := by
  rw [predicate_eq]
  exact taken_application (fun ts => taken_arguments (taken_term ts.length) ts) .proposition
    (fun name _ _ => .predicate name) ts

/-- Atoms are taken soundly, with either reading of the first term. -/
theorem taken_atom (ts : List Token) : Taken SpellsAtom ts (atom ts) := by
  have first := taken_term ts.length ts
  rw [atom_eq]
  split
  · next lhs r pos rest left =>
      obtain ⟨used, split, spelled⟩ := taken_ok_iff.mp (left ▸ first)
      rw [split]
      have second := taken_term rest.length rest
      exact .append used (.cons _ (second.mapped _ fun ls rhs right => .relation r spelled right))
  · exact taken_predicate ts

variable {operand : Reader Formula} {spellsOperand : List Lexeme → Formula → Prop}

/-- Further operands are joined to what was read before them. -/
theorem taken_chainRest {c : Connective} (sound : ∀ ts, Taken spellsOperand ts (operand ts))
    (bound : Nat) (f : Formula) (ts : List Token) :
    Taken (fun ls g => ∃ gs, Further (.connective c) spellsOperand ls gs ∧
      g = gs.foldl (.binary c) f) ts (chainRest c operand bound f ts) := by
  induction bound generalizing f ts with
  | zero => exact .done ⟨[], .none, rfl⟩
  | succ bound ih =>
      rcases starts_or_unread (.connective c) ts with ⟨pos, ts, rfl⟩ | stop
      · rw [chainRest_connective]
        refine .cons _ ((sound ts).bind fun ls rest g first => ?_)
        refine (ih (.binary c f g) rest).imp fun ms h joined => ?_
        obtain ⟨gs, further, rfl⟩ := joined
        exact ⟨g :: gs, .some first further, rfl⟩
      · rw [chainRest_of_unread (bound + 1) f stop]
        exact .done ⟨[], .none, rfl⟩

/-- A chain is taken soundly if its operands are. -/
theorem taken_chain (c : Connective) (sound : ∀ ts, Taken spellsOperand ts (operand ts))
    (ts : List Token) : Taken (Level c spellsOperand) ts (chain c operand ts) := by
  rw [chain_eq]
  refine (sound ts).bind fun ls rest f first => ?_
  refine (taken_chainRest sound rest.length f rest).imp fun ms g joined => ?_
  obtain ⟨gs, further, rfl⟩ := joined
  exact .fold first further

/-- All levels of operators are taken soundly if the operands are. -/
theorem taken_operators (sound : ∀ ts, Taken spellsOperand ts (operand ts)) (ts : List Token) :
    Taken (Levels spellsOperand) ts (operators operand ts) :=
  taken_chain _ (taken_chain _ (taken_chain _ (taken_chain _ sound))) ts

/-- Operands are taken soundly, with any bound. -/
theorem taken_operand (bound : Nat) (ts : List Token) :
    Taken SpellsOperand ts (Reader.operand bound ts) := by
  induction bound generalizing ts with
  | zero => exact .refuse _ (.atom (.proposition "")) nameless_ident
  | succ bound ih =>
      rcases ts with _ | ⟨⟨lexeme, pos⟩, ts⟩
      · exact .refuse _ (.atom (.proposition "")) nameless_ident
      · cases lexeme with
        | neg =>
            rw [operand_neg]
            exact .cons _ ((ih ts).mapped _ fun ls f argument => .neg argument)
        | quantifier q =>
            rw [operand_quantifier]
            refine .cons _ ((taken_separated taken_identifier ts).bind fun ls rest names read => ?_)
            rcases starts_or_unread .dot rest with ⟨pos', rest, rfl⟩ | plain
            · exact .cons _ ((ih rest).mapped _ fun ms f scope => .quant q read (.inr rfl) scope)
            · dsimp only
              rw [skipDot_of_unread plain]
              exact (ih rest).mapped _ fun ms f scope =>
                @SpellsOperand.quant q _ [] _ _ _ read (.inl rfl) scope
        | opening =>
            rw [operand_opening]
            refine .cons _ ((taken_operators ih ts).bind fun ls rest f inner => ?_)
            refine (taken_closing rest).mapped (fun _ => f) fun ms _ closed => ?_
            rw [closed]
            exact .group inner
        | ident name =>
            rw [operand_ident]
            exact (taken_atom _).mapped _ fun ls a atomic => .atom atomic
        | _ => exact .refuse _ (.atom (.proposition "")) nameless_ident

/-- Formulas are taken soundly. -/
theorem taken_formula (ts : List Token) : Taken SpellsFormula ts (formula ts) :=
  taken_operators (taken_operand ts.length) ts

end Reader

end Clausal
