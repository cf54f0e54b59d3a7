import Clausal.Text.Digits
import Clausal.Text.Letters

/-!
# Names for typesetting

A name is typeset by its parts: what follows a circumflex or two low lines is
raised, what follows a low line or is a number at the end is lowered, names of
Greek letters become the letters, and endings such as a hat become accents.
Functions with longer names are set upright.
-/

namespace Clausal.Text

def greekLetters : List String :=
  ["alpha", "beta", "gamma", "delta", "epsilon", "zeta", "eta", "theta", "iota", "kappa",
    "lambda", "mu", "nu", "xi", "omicron", "pi", "rho", "sigma", "tau", "upsilon", "phi", "chi",
    "psi", "omega"]

/-- The letters that are not typeset by a command of their own name. -/
def renderedLetters : List (String × String) :=
  [("Alpha", "\\mathrm\x7bA\x7d"), ("Beta", "\\mathrm\x7bB\x7d"), ("Gamma", "\\Gamma"),
    ("Delta", "\\Delta"), ("Epsilon", "\\mathrm\x7bE\x7d"), ("Zeta", "\\mathrm\x7bZ\x7d"),
    ("Eta", "\\mathrm\x7bH\x7d"), ("Theta", "\\Theta"), ("Iota", "\\mathrm\x7bI\x7d"),
    ("Kappa", "\\mathrm\x7bK\x7d"), ("Lambda", "\\Lambda"), ("Mu", "\\mathrm\x7bM\x7d"),
    ("Nu", "\\mathrm\x7bN\x7d"), ("Xi", "\\Xi"), ("omicron", "o"),
    ("Omicron", "\\mathrm\x7bO\x7d"), ("Pi", "\\Pi"), ("Rho", "\\mathrm\x7bP\x7d"),
    ("Sigma", "\\Sigma"), ("Tau", "\\mathrm\x7bT\x7d"), ("Upsilon", "\\Upsilon"),
    ("Phi", "\\Phi"), ("Chi", "\\mathrm\x7bX\x7d"), ("Psi", "\\Psi"), ("Omega", "\\Omega"),
    ("lamda", "\\lambda"), ("Lamda", "\\Lambda"), ("khi", "\\chi"),
    ("Khi", "\\mathrm\x7bX\x7d"), ("varepsilon", "\\varepsilon"), ("varkappa", "\\varkappa"),
    ("varphi", "\\varphi"), ("varpi", "\\varpi"), ("varrho", "\\varrho"),
    ("varsigma", "\\varsigma"), ("vartheta", "\\vartheta")]

/-- Other letters that are typeset by a command of their own name. -/
def otherLetters : List String :=
  ["aleph", "beth", "daleth", "gimel", "ell", "eth", "hbar", "hslash", "mho", "wp"]

/-- The endings of names that decorate the rest of the name, with what stands
before and after the rest. Longer endings come first. -/
def decorations : List (String × String × String) :=
  [("mathring", "\\mathring\x7b", "\x7d"), ("ddddot", "\\ddddot\x7b", "\x7d"),
    ("dddot", "\\dddot\x7b", "\x7d"), ("check", "\\check\x7b", "\x7d"),
    ("breve", "\\breve\x7b", "\x7d"), ("acute", "\\acute\x7b", "\x7d"),
    ("grave", "\\grave\x7b", "\x7d"), ("tilde", "\\tilde\x7b", "\x7d"),
    ("prime", "\x7b", "\x7d'"), ("ddot", "\\ddot\x7b", "\x7d"),
    ("bold", "\\boldsymbol\x7b", "\x7d"), ("frak", "\\mathfrak\x7b", "\x7d"),
    ("norm", "\\left\\|\x7b", "\x7d\\right\\|"), ("dot", "\\dot\x7b", "\x7d"),
    ("hat", "\\hat\x7b", "\x7d"), ("bar", "\\bar\x7b", "\x7d"), ("vec", "\\vec\x7b", "\x7d"),
    ("prm", "\x7b", "\x7d'"), ("cal", "\\mathcal\x7b", "\x7d"),
    ("scr", "\\mathscr\x7b", "\x7d"),
    ("avg", "\\left\\langle\x7b", "\x7d\\right\\rangle"),
    ("abs", "\\left|\x7b", "\x7d\\right|"), ("mag", "\\left|\x7b", "\x7d\\right|"),
    ("bm", "\\boldsymbol\x7b", "\x7d")]

/-- The sign for a temperature, which is a capital letter. -/
def kelvin : Char := '\u212a'

/-- The small letter of a letter that occurs in the names of letters and accents. -/
def small (c : Char) : Char := if c = kelvin then 'k' else c.toLower

/-- A part of a name for typesetting. The case of the name of a letter or an accent
does not count, unless the capital letter is another one. The fuel bounds the
number of endings. -/
def decorated : (fuel : Nat) → List Char → String
  | 0, cs => String.ofList cs
  | fuel + 1, cs =>
      let name := String.ofList cs
      let lower := String.ofList (cs.map small)
      match renderedLetters.lookup name with
      | some text => text
      | none =>
          if greekLetters.contains lower then "\\" ++ lower
          else if otherLetters.contains name then "\\" ++ name
          else
            let fits (entry : String × String × String) : Bool :=
              lower.endsWith entry.1 && entry.1.length < cs.length
            match decorations.find? fits with
            | some (ending, before, after) =>
                before ++ decorated fuel (cs.take (cs.length - ending.length)) ++ after
            | none => name

/-- The parts of a name, each with the marks that it starts with. The fuel bounds
the number of parts. -/
def nameParts : (fuel : Nat) → List Char → List (List Char)
  | 0, _ => []
  | _, [] => []
  | fuel + 1, c :: cs =>
      let marks := if c = '_' ∧ cs.head? = some '_' then 2 else 1
      let plain := ((c :: cs).drop marks).takeWhile fun c => c ≠ '^' ∧ c ≠ '_'
      let length := marks + plain.length
      (c :: cs).take length :: nameParts fuel ((c :: cs).drop length)

/-- A text without a line end as its last character. -/
def withoutLineEnd (cs : List Char) : List Char :=
  if cs.getLast? = some '\n' then cs.dropLast else cs

/-- The letters and the digits of a name that is letters and then digits. A line
end after the digits is left out. -/
def splitDigits (cs : List Char) : List Char × List Char :=
  let line := withoutLineEnd cs
  let digits := (line.reverse.takeWhile isDecimalDigit).reverse
  let rest := line.take (line.length - digits.length)
  let fits := rest.all fun c => continuesName c && c != '_' && !isDecimalDigit c
  if !digits.isEmpty && !rest.isEmpty && fits then (rest, digits) else (cs, [])

/-- A raised or lowered part after its mark. -/
def scripts (mark : String) (parts : List String) : String :=
  if parts.isEmpty then "" else mark ++ "\x7b" ++ String.intercalate " " parts ++ "\x7d"

/-- A name for typesetting. A name with a brace is left alone. -/
def typesetName (s : String) : String :=
  let cs := s.toList
  if cs.contains '\x7b' then s
  else
    let decorate (cs : List Char) : String := decorated (cs.length + 1) cs
    match nameParts (cs.length + 1) cs with
    | [] => s
    | first :: rest =>
        let (stem, digits) := splitDigits first
        let raised := rest.filterMap fun part =>
          match part with
          | '^' :: part => some (decorate part)
          | '_' :: '_' :: part => some (decorate part)
          | _ => none
        let lowered := rest.filterMap fun part =>
          match part with
          | '_' :: '_' :: _ => none
          | '_' :: part => some (decorate part)
          | _ => none
        let lowered := if digits.isEmpty then lowered else decorate digits :: lowered
        decorate stem ++ scripts "^" raised ++ scripts "_" lowered

def commandFunctions : List String :=
  ["arcsin", "arccos", "arctan", "sin", "cos", "tan", "sinh", "cosh", "tanh", "sqrt", "ln", "log",
    "sec", "csc", "cot", "coth", "re", "im", "frac", "root", "arg"]

/-- The number of characters of the name of a function before its raised and lowered
parts. A mark at the very front starts no such part. -/
def stemLength (cs : List Char) : Nat :=
  let isPlace (place : Nat) : Bool := 0 < place && place < cs.length
  let places := [cs.idxOf '^', cs.idxOf '_'].filter isPlace
  places.foldl min cs.length

def typesetFunction (s : String) : String :=
  let name := typesetName s
  let cs := name.toList
  let marked := cs.idxOf '^' = 1 ∨ cs.idxOf '_' = 1
  if commandFunctions.contains name then "\\" ++ name
  else if cs.length = 1 ∨ cs.head? = some '\\' ∨ (marked ∧ 1 < cs.length) then name
  else
    let stem := stemLength cs
    "\\operatorname\x7b" ++ String.ofList (cs.take stem) ++ "\x7d" ++ String.ofList (cs.drop stem)

end Clausal.Text
