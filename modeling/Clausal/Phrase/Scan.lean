import Clausal.Phrase.Spelled

/-!
# Lines of words

The words of a text have to be without problems before they are read. Brackets have to
be balanced before anything else is looked at; then the first character that belongs to
no word is a problem. Lines count only outside of brackets.
-/

namespace Clausal.Phrase

/-- A word ends a line. -/
def Word.endsLine : Word → Bool
  | .stray c => isLineEnd c
  | _ => false

/-- Words without comments. What stands after a comment on its line belongs to it. -/
def withoutComments (commented : Bool) : List Word → List Word
  | [] => []
  | word :: words =>
      if word.endsLine then word :: withoutComments false words
      else if commented || word = .comment then withoutComments true words
      else word :: withoutComments false words

/-- How many more brackets are open after a word. -/
def depthChange : Word → Int
  | .sign "(" => 1
  | .sign "[" => 1
  | .sign "\x7b" => 1
  | .sign ")" => -1
  | .sign "]" => -1
  | .sign "\x7d" => -1
  | _ => 0

/-- How many more brackets are opened than closed. -/
def openCount (words : List Word) : Int := (words.map depthChange).foldl (· + ·) 0

/-- The words of the first line, and the number of the line on which more words stand, if
there are some. Within brackets lines go on. -/
def firstLine (depth : Int) (number : Nat) : List Word → List Word × Option Nat
  | [] => ([], none)
  | word :: words =>
      if word.endsLine then
        if depth ≤ 0 then
          let blank := words.takeWhile Word.endsLine
          ([], if words.length = blank.length then none else some (number + 1 + blank.length))
        else firstLine depth (number + 1) words
      else
        let (line, more) := firstLine (depth + depthChange word) number words
        (word :: line, more)

/-- The brackets, each opening one with its closing one. -/
def brackets : List (String × String) := [("(", ")"), ("[", "]"), ("\x7b", "\x7d")]

/-- The foreign characters that are signs without a meaning. -/
def idleSigns : List Char := ['$', '?', '\x60']

/-- A numeral starts with zeros and is not zero. -/
def hasLeadingZero (s : String) : Bool :=
  s.toList.head? = some '0' && isWhole s && wholeValue s ≠ 0

def strayProblem? (c : Char) : Option Problem :=
  if isQuote c then some .unterminated
  else if idleSigns.contains c || isLineEnd c then none
  else some (.strayCharacter c)

/-- The first problem of the words, with the brackets that are open. A backslash is looked
at when words are read, and nothing after it. -/
def firstProblem? : (opened : List Char) → List Word → Option Problem
  | _, [] => none
  | opened, word :: words =>
      match word with
      | .stray '\\' => none
      | .stray c => (strayProblem? c).or (firstProblem? opened words)
      | .numeral s => if hasLeadingZero s then some .leadingZeros else firstProblem? opened words
      | .sign s =>
          let c := s.toList.headD ' '
          if brackets.any fun b => b.1 = s then firstProblem? (c :: opened) words
          else
            match brackets.find? fun b => b.2 = s with
            | none => firstProblem? opened words
            | some b =>
                match opened with
                | [] => some (.unmatched c)
                | d :: opened =>
                    if b.1 = d.toString then firstProblem? opened words
                    else some (.mismatched d c)
      | _ => firstProblem? opened words

/-- The words of the first line of a text without problems, and the number of the line on
which more words stand, if there are some. -/
def scan (isKnown : String → Bool) (s : String) : Except Problem (List Word × Option Nat) := do
  let cs := s.toList
  let words ← wordsFrom cs.length 0 false cs
  if openCount words ≠ 0 then .error .openBracket
  else
    let words ← spelled isKnown words
    if cs.contains '\x00' then .error .nullCharacter
    else
      let words := withoutComments false words
      match firstProblem? [] words with
      | some problem => .error problem
      | none => .ok (firstLine 0 1 words)

end Clausal.Phrase
