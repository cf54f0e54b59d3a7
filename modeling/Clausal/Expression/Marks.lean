import Clausal.Expression.Text
import Clausal.Text.Template
import Clausal.Text.Typeset

/-!
# Applications for typesetting

Many known functions have a mark of their own, such as a Greek letter with indices. The marks
differ in where an exponent stands: at the mark, after the index, or around the whole.

The name of any other function together with brackets is a template that is filled with the
arguments. So a percent sign in a name, or in an exponent at a name, starts a gap.
-/

namespace Clausal

namespace Expression

/-- A text in brackets that grow with it. -/
def grown (s : String) : String := "\\left(" ++ s ++ "\\right)"

/-- A text with an exponent, if there is one. -/
def raised (s : String) (exponent? : Option String) : String :=
  match exponent? with
  | some exponent => s ++ "^\x7b" ++ exponent ++ "\x7d"
  | none => s

/-- A text with an exponent, if there is one, and then in brackets. -/
def raisedWhole (s : String) (exponent? : Option String) : String :=
  if exponent?.isSome then raised (grown s) exponent? else s

/-- A text with a raised part is put into brackets before it is raised. -/
def raisedName (s : String) (exponent? : Option String) : String :=
  if exponent?.isSome && s.toList.contains '^' then raised (grown s) exponent?
  else raised s exponent?

/-- The template of an application: the name of the function, with an exponent if there is
one, and a gap for the arguments in brackets. -/
def applicationTemplate (name : String) (exponent? : Option String) : String :=
  raisedName (Text.typesetFunction name) exponent? ++ "\x7b\\left(%s \\right)\x7d"

/-- The arguments of a function as they stand in a template. -/
def templateFillers (args : List String) : List Text.Filler := [.ofText (",".intercalate args)]

/-- A function applied to typeset arguments, with an exponent if there is one. -/
def typesetApplied (name : String) (exponent? : Option String) (args : List String) :
    Except Text.Misfit String :=
  Text.fill (applicationTemplate name exponent?) (templateFillers args)

/-- A template with its arguments, or a percent sign if it cannot be filled. -/
def filledOr (filled : Except Text.Misfit String) : String := filled.toOption.getD "%"

/-- The functions with a mark of their own, which is raised itself. -/
def markedFunctions : List (String × String) :=
  [("gamma", "\\Gamma"), ("uppergamma", "\\Gamma"), ("lowergamma", "\\gamma"),
    ("zeta", "\\zeta"), ("beta", "\\operatorname\x7bB\x7d"), ("LambertW", "W"),
    ("Chi", "\\operatorname\x7bChi\x7d"), ("divisor_sigma", "\\sigma"),
    ("udivisor_sigma", "\\sigma^*"), ("lerchphi", "\\Phi"), ("elliptic_k", "K"),
    ("elliptic_e", "E"), ("dirichlet_eta", "\\eta"), ("airyai", "Ai"), ("airybi", "Bi"),
    ("fresnels", "S"), ("fresnelc", "C")]

/-- The functions with a mark of their own, which are raised as a whole. -/
def wholeFunctions : List (String × String) :=
  [("Heaviside", "\\theta"), ("DiracDelta", "\\delta"), ("totient", "\\phi"),
    ("reduced_totient", "\\lambda"), ("primenu", "\\nu"), ("primeomega", "\\Omega")]

/-- The functions with a mark of their own, which are raised at their end. -/
def trailingFunctions : List (String × String) :=
  [("mathieus", "S"), ("mathieuc", "C"), ("mathieusprime", "S^\x7b\\prime\x7d"),
    ("mathieucprime", "C^\x7b\\prime\x7d")]

def letteredFunctions : List (String × String) :=
  [("fibonacci", "F"), ("lucas", "L"), ("bernoulli", "B"), ("bell", "B"), ("catalan", "C"),
    ("euler", "E"), ("tribonacci", "T"), ("genocchi", "G"), ("stieltjes", "\\gamma")]

/-- The functions with a letter and an index, of which the letter is raised. -/
def indexedLetters : List (String × String) :=
  [("besselj", "J"), ("bessely", "Y"), ("besseli", "I"), ("besselk", "K"), ("jn", "j"),
    ("yn", "y")]

/-- The functions with a letter and an index, of which the index is raised. -/
def raisedIndices : List (String × String) :=
  [("polylog", "\\operatorname\x7bLi\x7d"), ("expint", "\\operatorname\x7bE\x7d"),
    ("fibonacci", "F"), ("bernoulli", "B"), ("bell", "B"), ("euler", "E"), ("tribonacci", "T"),
    ("genocchi", "G")]

/-- The functions with a letter and an index, which are raised as a whole. -/
def indexedWholes : List (String × String) :=
  [("legendre", "P"), ("chebyshevt", "T"), ("chebyshevu", "U"), ("hermite", "H"),
    ("laguerre", "L"), ("hankel1", "H^\x7b(1)\x7d"), ("hankel2", "H^\x7b(2)\x7d"),
    ("hn1", "h^\x7b(1)\x7d"), ("hn2", "h^\x7b(2)\x7d")]

/-- The functions with a letter, an index and parameters, which are raised as a whole. -/
def parametricWholes : List (String × String) :=
  [("gegenbauer", "C"), ("assoc_legendre", "P"), ("assoc_laguerre", "L")]

/-- The functions with a letter, of which a bar stands before the last argument. -/
def barredFunctions : List (String × String) :=
  [("elliptic_f", "F"), ("elliptic_e", "E"), ("elliptic_pi", "\\Pi")]

def strokedFunctions : List (String × String) := [("airyaiprime", "Ai"), ("airybiprime", "Bi")]

def lowered (s index : String) : String := s ++ "_\x7b" ++ index ++ "\x7d"

/-- A function with an index, applied to an argument. -/
def typesetIndexed? (name index argument : String) (exponent? : Option String) : Option String :=
  match indexedLetters.lookup name, raisedIndices.lookup name, indexedWholes.lookup name with
  | some letter, _, _ => some (lowered (raised letter exponent?) index ++ grown argument)
  | none, some letter, _ => some (raised (lowered letter index) exponent? ++ grown argument)
  | none, none, some letter =>
      some (raisedWhole (lowered letter index ++ grown argument) exponent?)
  | none, none, none => none

/-- A function with a mark of its own, applied to typeset arguments. -/
def typesetMarked? (name : String) (args : List String) (exponent? : Option String) :
    Option String :=
  let listed := grown (", ".intercalate args)
  let mark? := (markedFunctions.lookup name).map fun mark => raised mark exponent? ++ listed
  let whole? := (wholeFunctions.lookup name).map fun mark => raisedWhole (mark ++ listed) exponent?
  let trailing? := (trailingFunctions.lookup name).map fun mark => raised (mark ++ listed) exponent?
  let barred (front last : String) : Option String :=
    (barredFunctions.lookup name).map fun letter =>
      raised letter exponent? ++ grown (front ++ "\\middle| " ++ last)
  let general? := mark?.or (whole?.or trailing?)
  match name, args with
  | "divisor_sigma", [e, n] => some (raised "\\sigma" exponent? ++ "_" ++ n ++ grown e)
  | "udivisor_sigma", [e, n] => some (raised "\\sigma^*" exponent? ++ "_" ++ n ++ grown e)
  | "LambertW", [e, n] => some (lowered (raised "W" exponent?) n ++ grown e)
  | "stieltjes", [n, e] => some (raised (lowered "\\gamma" n ++ grown e) exponent?)
  | "polar_lift", [e] =>
      some (raised "\\operatorname\x7bpolar\\_lift\x7d" exponent? ++ "\x7b\\left(" ++ e ++
        " \\right)\x7d")
  | "adjoint", [e] => some (raisedWhole (e ++ "^\x7b\\dagger\x7d") exponent?)
  | "Ynm", [n, m, d, e] =>
      some (raisedWhole (raised (lowered "Y" n) (some m) ++ grown (d ++ "," ++ e)) exponent?)
  | "Znm", [n, m, d, e] =>
      some (raisedWhole (raised (lowered "Z" n) (some m) ++ grown (d ++ "," ++ e)) exponent?)
  | "jacobi", [n, a, b, e] =>
      some (raisedWhole (raised (lowered "P" n) (some (grown (a ++ "," ++ b))) ++ grown e)
        exponent?)
  | name, [e] =>
      match letteredFunctions.lookup name, strokedFunctions.lookup name with
      | some letter, _ => some (raised (lowered letter e) exponent?)
      | none, some letter =>
          let mark := letter ++ "^\\prime"
          some ((if exponent?.isSome then raised ("\x7b" ++ mark ++ "\x7d") exponent? else mark) ++
            grown e)
      | none, none => general?
  | name, [n, e] => (typesetIndexed? name n e exponent?).or ((barred n e).or general?)
  | name, [n, a, e] =>
      match parametricWholes.lookup name with
      | some letter =>
          some (raisedWhole (raised (lowered letter n) (some (grown a)) ++ grown e) exponent?)
      | none => (barred (n ++ "; " ++ a) e).or general?
  | _, _ => general?

/-- A known function applied to arguments, raised to a power if there is an exponent,
where `write` typesets the arguments. -/
def typesetKnown (write : Expression → String) (name : String) (args : List Expression)
    (exponent? : Option String) : Except Text.Misfit String :=
  let around (limit : Nat) (part : Expression) : String :=
    if part.level ≤ limit then grown (write part) else write part
  let isAtom (e : Expression) : Bool := e.parts.isEmpty
  let indices := (if args.all isAtom then " " else ", ").intercalate (args.map write)
  let inside (s : String) : Except Text.Misfit String := .ok (raised s exponent?)
  let whole (s : String) : Except Text.Misfit String := .ok (raisedWhole s exponent?)
  match name, args with
  | "exp", [e] => whole ("e^\x7b" ++ write e ++ "\x7d")
  | "exp_polar", [e] => whole ("e^\x7b" ++ write e ++ "\x7d")
  | "Abs", [e] => inside ("\\left|\x7b" ++ write e ++ "\x7d\\right|")
  | "floor", [e] => inside ("\\left\\lfloor\x7b" ++ write e ++ "\x7d\\right\\rfloor")
  | "ceiling", [e] => inside ("\\left\\lceil\x7b" ++ write e ++ "\x7d\\right\\rceil")
  | "frac", [e] => inside ("\\operatorname\x7bfrac\x7d\x7b" ++ grown (write e) ++ "\x7d")
  | "conjugate", [e] => inside ("\\overline\x7b" ++ write e ++ "\x7d")
  | "log", [e] => inside ("\\log\x7b\\left(" ++ write e ++ " \\right)\x7d")
  | "re", [e] => whole ("\\operatorname\x7bre\x7d\x7b" ++ grown (write e) ++ "\x7d")
  | "im", [e] => whole ("\\operatorname\x7bim\x7d\x7b" ++ grown (write e) ++ "\x7d")
  | "factorial", [e] => inside (around applicationLevel e ++ "!")
  | "factorial2", [e] => inside (around applicationLevel e ++ "!!")
  | "subfactorial", [e] => whole ("!" ++ around applicationLevel e)
  | "binomial", [n, k] =>
      inside ("\x7b\\binom\x7b" ++ write n ++ "\x7d\x7b" ++ write k ++ "\x7d\x7d")
  | "RisingFactorial", [n, k] =>
      whole ("\x7b" ++ around applicationLevel n ++ "\x7d^\x7b" ++ grown (write k) ++ "\x7d")
  | "FallingFactorial", [n, k] =>
      whole ("\x7b" ++ grown (write n) ++ "\x7d_\x7b" ++ around applicationLevel k ++ "\x7d")
  | "Mod", [d, e] =>
      let operand (part : Expression) : String :=
        if part.level < productLevel then grown (write part) else write part
      whole (operand d ++ " \\bmod " ++ operand e)
  | "KroneckerDelta", [_, _] => whole (lowered "\\delta" indices)
  | "LeviCivita", _ => whole (lowered "\\varepsilon" indices)
  | "Max", args => inside ("\\max" ++ grown (", ".intercalate ((ordered args).map write)))
  | "Min", args => inside ("\\min" ++ grown (", ".intercalate ((ordered args).map write)))
  | name, args =>
      match typesetMarked? name (args.map write) exponent? with
      | some text => .ok text
      | none => typesetApplied name exponent? (args.map write)

end Expression

end Clausal
