import Clausal.Text.Unprintable

/-!
# Quoted text

Error messages quote the text they complain about, so that every character of
it can be seen. A text is enclosed in single quotes, or in double quotes when
it holds a single quote and no double one. Backslashes and the enclosing quote
are escaped, and characters that cannot be shown are written by code point.
-/

namespace Clausal.Text

/-- The last `width` hexadecimal digits of a number. -/
def hexadecimal : (width : Nat) → Nat → List Char
  | 0, _ => []
  | width + 1, n => hexadecimal width (n / 16) ++ [Nat.digitChar (n % 16)]

def enclosingQuote (cs : List Char) : Char :=
  if cs.contains '\x27' && !cs.contains '\x22' then '\x22' else '\x27'

/-- How a quoted text writes one of its characters. -/
def escaped (quote c : Char) : List Char :=
  if c = '\\' ∨ c = quote then ['\\', c]
  else if c = '\n' then ['\\', 'n']
  else if c = '\r' then ['\\', 'r']
  else if c = '\t' then ['\\', 't']
  else if isUnprintable c then
    if c.toNat < 0x100 then '\\' :: 'x' :: hexadecimal 2 c.toNat
    else if c.toNat < 0x10000 then '\\' :: 'u' :: hexadecimal 4 c.toNat
    else '\\' :: 'U' :: hexadecimal 8 c.toNat
  else [c]

/-- A text between quotes, with every character shown. -/
def quoted (s : String) : String :=
  let quote := enclosingQuote s.toList
  String.ofList (quote :: s.toList.flatMap (escaped quote) ++ [quote])

end Clausal.Text
