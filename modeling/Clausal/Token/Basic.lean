import Clausal.Formula.Basic
import Clausal.Text.Quoted

/-!
# Tokens

A formula in text is a list of tokens. A token is a lexeme together with its
position, which counts the characters before it. The end of the input is no
token: a scanned text keeps its length instead, so that an error at the end
still has a position.
-/

namespace Clausal

/-- What a token means, whichever way it was spelled. -/
inductive Lexeme where
  | quantifier (q : Quantifier)
  | neg
  | connective (c : Connective)
  | relation (r : Relation)
  | opening
  | closing
  | comma
  | dot
  | ident (name : String)
  deriving DecidableEq

/-- The kind of a lexeme, as messages and listings name it. -/
def Lexeme.label : Lexeme → String
  | .quantifier .all => "FORALL"
  | .quantifier .ex => "EXISTS"
  | .neg => "NOT"
  | .connective (.junction .and) => "AND"
  | .connective (.junction .or) => "OR"
  | .connective .implies => "IMP"
  | .connective .iff => "IFF"
  | .relation .eq => "EQ"
  | .relation .ne => "NEQ"
  | .opening => "LP"
  | .closing => "RP"
  | .comma => "COMMA"
  | .dot => "DOT"
  | .ident _ => "ID"

def Lexeme.name? : Lexeme → Option String
  | .ident name => some name
  | _ => none

/-- A lexeme in a listing: its kind, and its name if it has one. -/
def Lexeme.listed (l : Lexeme) : String :=
  match l.name? with
  | some name => l.label ++ " " ++ name
  | none => l.label

/-- A lexeme with the number of characters before it. -/
structure Token where
  lexeme : Lexeme
  pos : Nat
  deriving DecidableEq

def endLabel : String := "EOF"

/-- The tokens of a text, and where the text ends. -/
structure Scanned where
  tokens : List Token
  finish : Nat
  deriving DecidableEq

/-- Why a text has no tokens. -/
inductive Complaint where
  | unrecognized
  | unknownCommand
  | unterminatedGroup
  deriving DecidableEq

/-- The wording of a complaint. -/
def Complaint.text : Complaint → String
  | .unrecognized => "unrecognized input"
  | .unknownCommand => "unknown command"
  | .unterminatedGroup => "unterminated group"

/-- A complaint about the part of a text that starts at a position. -/
structure ScanError where
  complaint : Complaint
  fragment : String
  pos : Nat
  deriving DecidableEq

def ScanError.message (e : ScanError) : String :=
  e.complaint.text ++ " " ++ Text.quoted e.fragment ++ " at position " ++ Nat.repr e.pos

end Clausal
