import Clausal.Text.Blank
import Clausal.Worksheet.Fault

/-!
# Names of several symbols

A text names symbols one after the other, with commas or blanks between them. A range of
numbers or of letters inside a name stands for the names with each of them in its place. A
character after a backslash stands for itself.
-/

namespace Clausal.Worksheet

namespace SymbolNames

/-- A character of a text, and whether it stands for itself. -/
structure Sign where
  char : Char
  plain : Bool
  deriving DecidableEq

/-- The characters that may stand for themselves after a backslash. -/
def escapable : List Char := [',', ':', ' ']

def signs : List Char → List Sign
  | '\\' :: c :: cs =>
      if escapable.contains c then ⟨c, true⟩ :: signs cs else ⟨'\\', false⟩ :: signs (c :: cs)
  | c :: cs => ⟨c, false⟩ :: signs cs
  | [] => []

def Sign.isBlank (s : Sign) : Bool := !s.plain && Text.isBlank s.char

def Sign.isMark (c : Char) (s : Sign) : Bool := !s.plain && s.char = c

/-- Characters without blanks at their ends. -/
def trimmed (cs : List Sign) : List Sign :=
  ((cs.dropWhile Sign.isBlank).reverse.dropWhile Sign.isBlank).reverse

/-- A piece of a name: a range with its bounds, or other characters. -/
inductive Piece where
  | text (cs : List Sign)
  | numbers (first last : List Sign)
  | letters (first : Option Char) (last : Char)

def Sign.isDigit (s : Sign) : Bool := !s.plain && s.char.isDigit

/-- A letter without marks. -/
def Sign.isLetter (s : Sign) : Bool := !s.plain && s.char.isAlpha

/-- A range at the beginning of characters, with the number of characters it takes. -/
def rangeAt? (cs : List Sign) : Option (Piece × Nat) :=
  let first := cs.takeWhile Sign.isDigit
  match cs.drop first.length with
  | mark :: rest =>
      let last := rest.takeWhile Sign.isDigit
      if mark.isMark ':' && !last.isEmpty then
        some (.numbers first last, first.length + 1 + last.length)
      else
        match cs with
        | a :: m :: b :: _ =>
            if a.isLetter && m.isMark ':' && b.isLetter then some (.letters (some a.char) b.char, 3)
            else if a.isMark ':' && m.isLetter then some (.letters none m.char, 2)
            else none
        | [a, b] => if a.isMark ':' && b.isLetter then some (.letters none b.char, 2) else none
        | _ => none
  | [] => none

def pieces : (fuel : Nat) → (before : List Sign) → List Sign → List Piece
  | 0, before, _ => [.text before]
  | _ + 1, before, [] => [.text before]
  | fuel + 1, before, c :: cs =>
      match rangeAt? (c :: cs) with
      | some (range, count) =>
          .text before :: range :: pieces fuel [] ((c :: cs).drop count)
      | none => pieces fuel (before ++ [c]) cs

/-- Pieces without the brackets right around a range. -/
def unbracketed : List Piece → List Piece
  | .text before :: range :: .text after :: rest =>
      let range' := Piece.text before :: range :: unbracketed (.text after :: rest)
      match before.getLast?, after with
      | some opening, closing :: after =>
          if opening.isMark '(' && closing.isMark ')' then
            .text before.dropLast :: range :: unbracketed (.text after :: rest)
          else range'
      | _, _ => range'
  | pieces => pieces

def alphabet : List Char := "abcdefghijklmnopqrstuvwxyzABCDEFGHIJKLMNOPQRSTUVWXYZ".toList

def numberOf (digits : List Sign) : Nat :=
  digits.foldl (fun n d => 10 * n + (d.char.toNat - '0'.toNat)) 0

/-- The greatest number of names of a range. -/
def rangeLimit : Nat := 10000

def choices : Piece → Except Fault (List String)
  | .text cs =>
      if (cs.getLast?.map (Sign.isMark ':')).getD false then .error .noRangeEnd
      else if cs.any (Sign.isMark ':') then .error .inapplicable
      else .ok [String.ofList (cs.map Sign.char)]
  | .numbers first last =>
      if rangeLimit < numberOf last then .error .inapplicable
      else .ok ((List.range' (numberOf first) (numberOf last - numberOf first)).map Nat.repr)
  | .letters first last =>
      match alphabet.idxOf? (first.getD 'a'), alphabet.idxOf? last with
      | some i, some j => .ok (((alphabet.take (j + 1)).drop i).map Char.toString)
      | _, _ => .error .noSuchPart

/-- The texts of one choice from each list. -/
def combinations : List (List String) → List String
  | [] => [""]
  | options :: rest => options.flatMap fun s => (combinations rest).map (s ++ ·)

/-- The names that a name with ranges stands for, and whether it has ranges. -/
def expanded (name : List Sign) : Except Fault (List String × Bool) :=
  if !name.any (Sign.isMark ':') then .ok ([String.ofList (name.map Sign.char)], false)
  else do
    let parts ← (unbracketed (pieces name.length [] name)).mapM choices
    .ok (if parts.any List.isEmpty then [] else combinations parts, !(parts.any List.isEmpty))

/-- The names of a text, and whether they count as several even if there is only one. -/
def ofText (s : String) : Except Fault (List String × Bool) := do
  let cs := trimmed (signs s.toList)
  let ended := (cs.getLast?.map (Sign.isMark ',')).getD false
  let cs := if ended then trimmed cs.dropLast else cs
  if cs.isEmpty then .error .noSymbols
  else
    let names := (cs.splitOnP (Sign.isMark ',')).map trimmed
    if names.any List.isEmpty then .error .missingSymbol
    else
      let names := names.flatMap fun name => (name.splitOnP Sign.isBlank).filter (· ≠ [])
      let groups ← names.mapM expanded
      .ok (groups.flatMap Prod.fst, ended || groups.any Prod.snd)

end SymbolNames

end Clausal.Worksheet
