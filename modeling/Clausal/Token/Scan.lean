import Clausal.Text.Blank
import Clausal.Token.Spelling

/-!
# Scanning

A text is cut from left to right into pieces. A piece spells a lexeme or is
ignorable: one blank character, a comment up to the end of its line, a spacing
command, or a formatting command with the braced group right after it.

A piece is read from its first character and the rest of the text, and it says
how many characters of the rest belong to it (`Piece.read`). So every piece
makes progress, and a text is scanned piece by piece (`scan`).
-/

namespace Clausal

/-- What stands at the start of a text: its meaning, if it has one, and the
number of its characters after the first. -/
structure Piece where
  lexeme? : Option Lexeme
  extra : Nat

/-- A complaint about a piece, with the place of the fragment in it. -/
structure PieceFault where
  complaint : Complaint
  offset : Nat
  fragment : List Char

namespace Piece

/-- The token that a piece contributes when it starts at a position. -/
def tokens (piece : Piece) (pos : Nat) : List Token :=
  match piece.lexeme? with
  | some lexeme => [⟨lexeme, pos⟩]
  | none => []

/-- The number of characters up to the brace that closes all open ones. Within
a group a backslash or a comment sign has no meaning. -/
def groupLength? : (open_ : Nat) → List Char → Option Nat
  | _, [] => none
  | open_, c :: cs =>
      if c = '\x7b' then (groupLength? (open_ + 1) cs).map (· + 1)
      else if c = '\x7d' then
        if open_ = 1 then some 1 else (groupLength? (open_ - 1) cs).map (· + 1)
      else (groupLength? open_ cs).map (· + 1)

/-- How much of an unterminated group an error shows. -/
def shownGroupLength : Nat := 12

/-- A formatting command whose name has `length` letters, before the text that
follows the name. -/
def formatting (length : Nat) (after : List Char) : Except PieceFault Piece :=
  if after.head? = some '\x7b' then
    match groupLength? 0 after with
    | some group => .ok ⟨none, length + group⟩
    | none => .error ⟨.unterminatedGroup, length + 1, after.take shownGroupLength⟩
  else .ok ⟨none, length⟩

/-- The piece that starts with a backslash before the given text. The name of a
command takes as many letters as there are. -/
def command (rest : List Char) : Except PieceFault Piece :=
  match rest with
  | [] => .error ⟨.unknownCommand, 0, ['\\']⟩
  | c :: _ =>
      if spacingMarks.contains c then .ok ⟨none, 1⟩
      else
        match escapedBraces.lookup c with
        | some lexeme => .ok ⟨some lexeme, 1⟩
        | none =>
            let name := rest.takeWhile isCommandLetter
            if name.isEmpty then .error ⟨.unknownCommand, 0, ['\\', c]⟩
            else
              match commands.lookup (String.ofList name) with
              | some lexeme => .ok ⟨some lexeme, name.length⟩
              | none =>
                  if formattingCommands.contains (String.ofList name) then
                    formatting name.length (rest.drop name.length)
                  else .error ⟨.unknownCommand, 0, '\\' :: name⟩

def arrow? (cs : List Char) : Option Piece :=
  (arrows.find? fun arrow => arrow.1.isPrefixOf cs).map fun arrow =>
    ⟨some arrow.2, arrow.1.length - 1⟩

/-- The piece at the start of a text, given by its first character and the
rest. -/
def read (c : Char) (rest : List Char) : Except PieceFault Piece :=
  if c = '%' then .ok ⟨none, (rest.takeWhile (· ≠ '\n')).length⟩
  else if Text.isBlank c then .ok ⟨none, 0⟩
  else if c = '\\' then command rest
  else
    match signs.lookup c, arrow? (c :: rest) with
    | some lexeme, _ => .ok ⟨some lexeme, 0⟩
    | none, some arrow => .ok arrow
    | none, none =>
        if isIdentifierStart c then
          let tail := rest.takeWhile isIdentifierPart
          .ok ⟨some (.ident (String.ofList (c :: tail))), tail.length⟩
        else .error ⟨.unrecognized, 0, [c]⟩

end Piece

/-- The position behind the group that opens at a position of a text, or the complaint that it is
not closed. -/
def skipGroup (text : String) (start : Nat) : Except ScanError Nat :=
  match Piece.groupLength? 0 (text.toList.drop start) with
  | some length => .ok (start + length)
  | none =>
      .error ⟨.unterminatedGroup,
        String.ofList ((text.toList.drop start).take Piece.shownGroupLength), start⟩

def PieceFault.at (fault : PieceFault) (pos : Nat) : ScanError :=
  ⟨fault.complaint, String.ofList fault.fragment, pos + fault.offset⟩

/-- The tokens of the rest of a text, which starts at a position. -/
def scanFrom (pos : Nat) : List Char → Except ScanError (List Token)
  | [] => .ok []
  | c :: rest =>
      match Piece.read c rest with
      | .error fault => .error (fault.at pos)
      | .ok piece =>
          match scanFrom (pos + 1 + piece.extra) (rest.drop piece.extra) with
          | .error e => .error e
          | .ok tokens => .ok (piece.tokens pos ++ tokens)
termination_by cs => cs.length

def scan (text : String) : Except ScanError Scanned :=
  (scanFrom 0 text.toList).map fun tokens => ⟨tokens, text.length⟩

end Clausal
