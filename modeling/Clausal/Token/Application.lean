import Clausal.Token.Basic

/-!
# Applications among tokens

The arguments in brackets behind a name make the name that of a function, even
while it is still open whether it is one of a predicate. No function can have a
name with a null character. When this comes out is told from the tokens alone:
at the bracket that closes the first arguments of such a name (`misnamed?`). The
variables of a quantifier take no arguments, and empty brackets have none.
-/

namespace Clausal

/-- No function can have this name. -/
def holdsNull (name : String) : Bool := name.toList.contains '\x00'

def nullInNameText : String := "type name must not contain null characters"

/-- What stands before a token. -/
inductive Place where
  /-- A quantifier, or a comma between its variables. -/
  | binder
  /-- A variable of a quantifier. -/
  | bound
  /-- Any other name. -/
  | name (name : String)
  | opening
  | other
  deriving DecidableEq

/-- The name that an argument list would belong to. -/
def Place.name? : Place → Option String
  | .name x => some x
  | _ => none

/-- The place after some tokens, and the brackets that are open there from the
inside to the outside, each with the name before it. -/
structure Brackets where
  place : Place
  names : List (Option String)

namespace Brackets

/-- Before the first token no bracket is open. -/
def outside : Brackets := ⟨.other, []⟩

/-- The next closing bracket closes arguments of a name with a null character. -/
def misnames (b : Brackets) : Bool :=
  b.place ≠ .opening && b.names.head?.join.any holdsNull

/-- The place after one more lexeme. There is none behind arguments of a name with a
null character. -/
def after? (b : Brackets) : Lexeme → Option Brackets
  | .quantifier _ => some { b with place := .binder }
  | .ident name => some { b with place := if b.place = .binder then .bound else .name name }
  | .comma => some { b with place := if b.place = .bound then .binder else .other }
  | .opening => some ⟨.opening, b.place.name? :: b.names⟩
  | .closing => if b.misnames then none else some ⟨.other, b.names.tail⟩
  | _ => some { b with place := .other }

/-- The tokens up to the first bracket that closes arguments of a name with a null
character, if there is one. -/
def misnamed? (b : Brackets) : List Token → Option (List Token)
  | [] => none
  | t :: ts =>
      match b.after? t.lexeme with
      | none => some [t]
      | some b => (b.misnamed? ts).map (t :: ·)

end Brackets

/-- The tokens of a text up to the first bracket that closes arguments of a name with a
null character, if there is one. -/
def misnamed? (ts : List Token) : Option (List Token) := Brackets.outside.misnamed? ts

end Clausal
