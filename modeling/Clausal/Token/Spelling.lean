import Clausal.Token.Basic

/-!
# Spellings of lexemes

Every sign of a formula can be spelled as a command, and most of them also as a
single character. All brackets are equivalent. Commands that only format the
text have no meaning.
-/

namespace Clausal

/-- The commands that spell a lexeme, without their backslash. -/
def commands : List (String × Lexeme) :=
  [("forall", .quantifier .all), ("exists", .quantifier .ex),
    ("neg", .neg), ("lnot", .neg),
    ("land", .connective (.junction .and)), ("wedge", .connective (.junction .and)),
    ("lor", .connective (.junction .or)), ("vee", .connective (.junction .or)),
    ("rightarrow", .connective .implies), ("to", .connective .implies),
    ("Rightarrow", .connective .implies), ("implies", .connective .implies),
    ("leftrightarrow", .connective .iff), ("iff", .connective .iff),
    ("Leftrightarrow", .connective .iff),
    ("neq", .relation .ne), ("ne", .relation .ne)]

/-- The commands that only format. A braced group right after one of them is
part of it. -/
def formattingCommands : List String :=
  ["left", "right", "big", "Big", "bigg", "Bigg", "quad", "qquad", "enspace", "hspace", "vspace",
    "text", "mathrm", "operatorname", "mathbf", "mathit", "mathsf", "mathtt", "color"]

/-- The characters that make a spacing command after a backslash. -/
def spacingMarks : List Char := [',', ';', ':', '!']

/-- The braces that remain brackets after a backslash. -/
def escapedBraces : List (Char × Lexeme) := [('\x7b', .opening), ('\x7d', .closing)]

def signs : List (Char × Lexeme) :=
  [('(', .opening), ('[', .opening), ('\x7b', .opening),
    (')', .closing), (']', .closing), ('\x7d', .closing),
    (',', .comma), ('.', .dot), (':', .dot),
    ('∀', .quantifier .all), ('∃', .quantifier .ex),
    ('¬', .neg), ('~', .neg),
    ('∧', .connective (.junction .and)), ('∨', .connective (.junction .or)),
    ('→', .connective .implies), ('⇒', .connective .implies),
    ('↔', .connective .iff), ('⇔', .connective .iff),
    ('=', .relation .eq), ('≠', .relation .ne)]

def arrows : List (List Char × Lexeme) :=
  [(['<', '-', '>'], .connective .iff), (['-', '>'], .connective .implies)]

/-- A letter that may occur in the name of a command: an unaccented one. -/
def isCommandLetter (c : Char) : Bool := c.isAlpha

/-- A character that starts an identifier: an unaccented letter or a low line. -/
def isIdentifierStart (c : Char) : Bool := c.isAlpha || c == '_'

/-- A character that continues an identifier. The letters of the Latin
supplement and of the first Latin extension are among them, with the two signs
that stand between those letters. -/
def isIdentifierPart (c : Char) : Bool :=
  c.isAlphanum || c == '_' || (0xc0 ≤ c.toNat && c.toNat ≤ 0x17f)

/-- A name that is spelled as one identifier. -/
def isIdentifier (name : String) : Bool :=
  match name.toList with
  | [] => false
  | c :: cs => isIdentifierStart c && cs.all isIdentifierPart

end Clausal
