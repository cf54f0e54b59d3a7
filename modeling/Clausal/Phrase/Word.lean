import Clausal.Phrase.Basic
import Clausal.Phrase.Numeral
import Clausal.Text.Digits
import Clausal.Text.Letters

/-!
# Words

A text is split into names, numerals, quoted texts and signs. Blanks separate words
and mean nothing else, except in front of a character that no word starts with. A
number sign makes the rest of a line a comment.
-/

namespace Clausal.Phrase

/-- A word of a text. -/
inductive Word where
  | name (s : String)
  | numeral (s : String)
  | text (s : String)
  | bytes (s : String)
  | sign (s : String)
  | obscure
  | stray (c : Char)
  | gap
  | comment
  deriving DecidableEq

/-- Words that are no names although they look like names. -/
def keywords : List String :=
  ["False", "None", "True", "and", "as", "assert", "async", "await", "break", "class", "continue",
    "def", "del", "elif", "else", "except", "finally", "for", "from", "global", "if", "import",
    "in", "is", "lambda", "nonlocal", "not", "or", "pass", "raise", "return", "try", "while",
    "with", "yield"]

/-- The signs of several characters, long ones first, and of one. -/
def signs : List String :=
  ["**=", "//=", ">>=", "<<=", "...", "!=", "%=", "&=", "**", "*=", "+=", "->", "-=", "//", "/=",
    ":=", "<<", "<=", "==", ">=", ">>", "@=", "^=", "|=", "%", "&", "(", ")", "*", "+", ",", "-",
    ".", "/", ":", ";", "<", "=", ">", "@", "[", "]", "^", "\x7b", "|", "\x7d", "~"]

/-- A blank inside a text. -/
def isGap (c : Char) : Bool := c = ' ' || c = '\t' || c = '\x0c'

def isLineEnd (c : Char) : Bool := c = '\r'

def isQuote (c : Char) : Bool := c = '\x22' || c = '\x27'

/-- The character of a number, if there is one. -/
def charOf? (n : Nat) : Option Char := if n.isValidChar then some (Char.ofNat n) else none

def escapes : List (Char × Char) :=
  [('n', '\n'), ('t', '\t'), ('r', '\r'), ('\\', '\\'), ('\x22', '\x22'), ('\x27', '\x27'),
    ('a', '\x07'), ('b', '\x08'), ('f', '\x0c'), ('v', '\x0b')]

/-- The numbers of hexadecimal digits after a backslash and a letter. -/
def escapeWidths : List (Char × Nat) := [('x', 2), ('u', 4), ('U', 8)]

/-- The characters that a backslash and what comes after it stand for, and how many
characters come after it. -/
def escaped (cs : List Char) : List Char × Nat :=
  match cs with
  | [] => (['\\'], 0)
  | c :: rest =>
      let octal := (cs.take 3).takeWhile (isDigitIn 8)
      match escapes.lookup c, escapeWidths.lookup c with
      | some d, _ => ([d], 1)
      | none, some width =>
          let digits := rest.take width
          match (if digits.length = width && digits.all (isDigitIn 16) then
            charOf? (valueIn 16 digits) else none) with
          | some d => ([d], width + 1)
          | none => (['\\', c], 1)
      | none, none =>
          match (if octal.isEmpty then none else charOf? (valueIn 8 octal)) with
          | some d => ([d], octal.length)
          | none => (['\\', c], 1)

/-- The characters of a quoted text with the meaning of the backslashes in it. The fuel
bounds the number of characters. -/
def unescaped : (fuel : Nat) → List Char → List Char
  | 0, _ => []
  | _, [] => []
  | fuel + 1, c :: rest =>
      if c = '\\' then
        let (meant, n) := escaped rest
        meant ++ unescaped fuel (rest.drop n)
      else c :: unescaped fuel rest

/-- The characters up to a closing quote. A backslash makes a quote an ordinary
character. -/
def quotedRun (quote : Char) : List Char → Option (List Char)
  | [] => none
  | '\\' :: c :: rest => (quotedRun quote rest).map fun cs => '\\' :: c :: cs
  | c :: rest => if c = quote then some [] else (quotedRun quote rest).map (c :: ·)

/-- The characters up to three closing quotes. -/
def tripleRun (quote : Char) : List Char → Option (List Char)
  | [] => none
  | '\\' :: c :: rest => (tripleRun quote rest).map fun cs => '\\' :: c :: cs
  | c :: rest =>
      if c = quote ∧ rest.take 2 = [quote, quote] then some []
      else (tripleRun quote rest).map (c :: ·)

/-- The marks that may stand right before an opening quote. -/
def quoteMarks : List String := ["", "b", "r", "u", "f", "br", "rb", "fr", "rf"]

/-- The marks at the front of a text, if an opening quote comes after them. -/
def marksAt? (cs : List Char) : Option (List Char) :=
  let marks := (cs.take 3).takeWhile fun c => !isQuote c
  let small := marks.map Char.toLower
  if (cs.drop marks.length).head?.any isQuote && quoteMarks.contains (String.ofList small) then
    some small
  else none

/-- The word of a quoted text. In a text that is marked to be filled in, braces
have a meaning, and bytes are written with few characters. -/
def textWord (marks content : List Char) : Word :=
  let filled := marks.contains 'f' && content.any fun c => c = '\x7b' || c = '\x7d'
  let wide := marks.contains 'b' && content.any fun c => 127 < c.toNat
  if filled || wide then .obscure
  else if marks.contains 'b' then .bytes (String.ofList content)
  else if marks.contains 'r' then .text (String.ofList content)
  else .text (String.ofList (unescaped content.length content))

/-- The quoted text at the front of a text after its marks, and its number of
characters with the marks. A text in triple quotes without an end is a problem of
its own. -/
def quotedAt (column : Nat) (marks cs : List Char) : Except Problem (Option (Word × Nat)) :=
  let body := cs.drop marks.length
  let quote := body.headD ' '
  if body.take 3 = [quote, quote, quote] then
    match tripleRun quote (body.drop 3) with
    | none => .error (.openText column)
    | some content => .ok (some (textWord marks content, marks.length + 6 + content.length))
  else
    .ok ((quotedRun quote (body.drop 1)).map fun content =>
      (textWord marks content, marks.length + 2 + content.length))

/-- The word at the front of a text that is no quoted text, and its number of
characters. -/
def wordAt (cs : List Char) : Word × Nat :=
  match cs with
  | [] => (.gap, 1)
  | c :: _ =>
      let length := numeralLength cs
      let run := cs.takeWhile Text.continuesName
      if length ≠ 0 then (.numeral (String.ofList (cs.take length)), length)
      else
        match signs.find? fun s => s.toList.isPrefixOf cs with
        | some s => (.sign s, s.length)
        | none =>
            if run.isEmpty then (.stray c, 1)
            else if Text.startsName c then (.name (String.ofList run), run.length)
            else (.stray c, run.length)

/-- A word is a character that neither starts nor continues a word. -/
def Word.isForeign : Word → Bool
  | .stray c => !Text.continuesName c
  | _ => false

def wordsFrom : (fuel : Nat) → (column : Nat) → (apart : Bool) → List Char →
    Except Problem (List Word)
  | 0, _, _, _ => .ok []
  | _, _, _, [] => .ok []
  | fuel + 1, column, apart, c :: rest =>
      if isGap c then wordsFrom fuel (column + 1) true rest
      else if c = '#' then do
        let run := rest.takeWhile fun c => !isLineEnd c
        let words ← wordsFrom fuel (column + 1 + run.length) false (rest.drop run.length)
        .ok (.comment :: words)
      else do
        let quoted ←
          match marksAt? (c :: rest) with
          | some marks => quotedAt column marks (c :: rest)
          | none => .ok none
        let (word, n) := quoted.getD (wordAt (c :: rest))
        let words ← wordsFrom fuel (column + n) false ((c :: rest).drop n)
        .ok ((if apart && word.isForeign then [.gap] else []) ++ word :: words)

end Clausal.Phrase
