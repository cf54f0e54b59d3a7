import Clausal.Text.Quoted

/-!
# Phrases

A phrase is the tree of an expression that is given as text, before it has any
meaning: names, whole numbers and quoted texts, joined by signs and brackets. A text
that is no phrase has a problem, of which the first counts.
-/

namespace Clausal

/-- The tree of an expression given as text. -/
inductive Phrase where
  | name (s : String)
  | integer (n : Nat)
  | text (s : String)
  | bytes (s : String)
  | truth (b : Bool)
  | nothing
  | dots
  | tuple (items : List Phrase)
  | list (items : List Phrase)
  | set (items : List Phrase)
  | table (items : List Phrase)
  | call (head : Phrase) (args : List Phrase)
  | member (owner : Phrase) (name : String)
  | item (owner index : Phrase)
  | slice (start stop step : Phrase)
  | given (name : String) (value : Phrase)
  | spread (items : Phrase)
  | spreadFields (fields : Phrase)
  | procedure (result : Phrase)
  | signed (sign : String) (arg : Phrase)
  | joined (sign : String) (lhs rhs : Phrase)
  /-- Comparisons in a row: the operands and the signs between them. -/
  | compared (operands : List Phrase) (signs : List String)
  | choice (condition yes no : Phrase)

namespace Phrase

instance : Inhabited Phrase := ⟨.nothing⟩

/-- A problem of a text that is no phrase. -/
inductive Problem where
  | openBracket
  | openText (column : Nat)
  | openFactorial
  | nullCharacter
  | strayCharacter (c : Char)
  | backslash
  /-- A quoted text has no end. -/
  | unterminated
  | unmatched (closing : Char)
  | mismatched (opening closing : Char)
  | empty
  | misplaced
  | misplacedOn (line : Nat)
  | neverClosed
  | leadingZeros
  | longNumeral (digits : Nat)
  | statement (s : String)
  | missingComma
  | missingElse
  | assignedName
  /-- A sign of assignment after something that cannot be assigned to. -/
  | assignedPhrase (family : String)
  | assignedArgument
  /-- A sign that gives a name to a value after something that is no name. -/
  | assignedInside (family : String)
  /-- Something that cannot be assigned to where items are taken one by one. -/
  | assignedTarget (family : String)
  | repeatedName (s : String)
  | lateArgument (afterFields : Bool)
  /-- The items of a value as arguments after fields as arguments. -/
  | lateItems
  | emptyStar
  | strayStar
  | strayStars
  /-- A key of a table without a value. -/
  | missingColon
  /-- A key of a table with a colon and without a value. -/
  | missingValue
  /-- The items of a value in the place of a value of a table. -/
  | starredValue
  /-- Texts and rows of bytes next to each other. -/
  | mixedTexts
  /-- A procedure at the front that takes the items of a value. -/
  | starredProcedure
  | unknown
  deriving DecidableEq

/-- The greatest number of digits of a number that is read. -/
def digitLimit : Nat := 4300

/-- A code point with at least four hexadecimal digits. -/
def codePoint (c : Char) : String :=
  let digits := (Nat.toDigits 16 c.toNat).map Char.toUpper
  "U+" ++ String.ofList (List.replicate (4 - digits.length) '0' ++ digits)

/-- A message about a text with the place it is about. -/
def syntaxMessage (line : Nat) (cause : String) : String :=
  "SyntaxError: " ++ cause ++ " (<string>, line " ++ Nat.repr line ++ ")"

def Problem.message : Problem → String
  | .openBracket => "TokenError: ('EOF in multi-line statement', (2, 0))"
  | .openText column => "TokenError: ('EOF in multi-line string', (1, " ++ Nat.repr column ++ "))"
  | .openFactorial => "TokenError: "
  | .nullCharacter => "SyntaxError: source code string cannot contain null bytes"
  | .strayCharacter c => syntaxMessage 1 (
      if Text.isUnprintable c then "invalid non-printable character " ++ codePoint c
      else "invalid character '" ++ c.toString ++ "' (" ++ codePoint c ++ ")")
  | .backslash => syntaxMessage 1 "unexpected character after line continuation character"
  | .unterminated => syntaxMessage 1 "unterminated string literal (detected at line 1)"
  | .unmatched closing => syntaxMessage 1 ("unmatched '" ++ closing.toString ++ "'")
  | .mismatched opening closing => syntaxMessage 1 (
      "closing parenthesis '" ++ closing.toString ++ "' does not match opening parenthesis '" ++
        opening.toString ++ "'")
  | .empty => syntaxMessage 0 "invalid syntax"
  | .misplaced => syntaxMessage 1 "invalid syntax"
  | .misplacedOn line => syntaxMessage line "invalid syntax"
  | .neverClosed => syntaxMessage 1 "'(' was never closed"
  | .leadingZeros =>
      syntaxMessage 1 ("leading zeros in decimal integer literals are not permitted; " ++
        "use an 0o prefix for octal integers")
  | .longNumeral digits =>
      syntaxMessage 1 ("Exceeds the limit (" ++ Nat.repr digitLimit ++
        " digits) for integer string conversion: value has " ++ Nat.repr digits ++
        " digits; use sys.set_int_max_str_digits() to increase the limit - Consider " ++
        "hexadecimal for huge integer literals to avoid decimal conversion limits.")
  | .statement s =>
      syntaxMessage 1 ("Missing parentheses in call to '" ++ s ++ "'. Did you mean " ++ s ++
        "(...)?")
  | .missingComma => syntaxMessage 1 "invalid syntax. Perhaps you forgot a comma?"
  | .missingElse => syntaxMessage 1 "expected 'else' after 'if' expression"
  | .assignedName =>
      syntaxMessage 1 "invalid syntax. Maybe you meant '==' or ':=' instead of '='?"
  | .assignedPhrase family =>
      syntaxMessage 1 ("cannot assign to " ++ family ++
        " here. Maybe you meant '==' instead of '='?")
  | .assignedArgument =>
      syntaxMessage 1 "expression cannot contain assignment, perhaps you meant \"==\"?"
  | .assignedInside family =>
      syntaxMessage 1 ("cannot use assignment expressions with " ++ family)
  | .assignedTarget family => syntaxMessage 1 ("cannot assign to " ++ family)
  | .repeatedName s => syntaxMessage 1 ("keyword argument repeated: " ++ s)
  | .lateArgument afterFields =>
      syntaxMessage 1 ("positional argument follows keyword argument" ++
        if afterFields then " unpacking" else "")
  | .lateItems =>
      syntaxMessage 1 "iterable argument unpacking follows keyword argument unpacking"
  | .emptyStar => syntaxMessage 1 "Invalid star expression"
  | .strayStar => syntaxMessage 1 "cannot use starred expression here"
  | .strayStars => syntaxMessage 1 "cannot use double starred expression here"
  | .missingColon => syntaxMessage 1 "':' expected after dictionary key"
  | .missingValue => syntaxMessage 1 "expression expected after dictionary key and ':'"
  | .starredValue => syntaxMessage 1 "cannot use a starred expression in a dictionary value"
  | .mixedTexts => syntaxMessage 1 "cannot mix bytes and nonbytes literals"
  | .starredProcedure => "TokenError: Starred arguments in lambda not supported"
  | .unknown => ""

end Phrase

end Clausal
