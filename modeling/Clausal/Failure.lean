import Clausal.Datum
import Clausal.Formula.Display
import Clausal.Formula.Reader

/-!
# Failures

What can go wrong when normal forms are computed, by cause. Failures that the
text of a user brings about are reported by their message; all others are passed
on. The wording of every message stands here or with the error of the reader it
comes from.
-/

namespace Clausal

/-- A cause of failure. Where a message names a value, the cause holds its
text. -/
inductive Failure where
  | unreadable (e : ReadError)
  | tooDeep
  /-- An option has the name of an argument that a function has already. -/
  | repeatedArgument (function name : String)
  | unknownOption (name : String)
  | badLevel (level : String)
  | notTerm (value : String)
  | longInteger
  | notLiteralTree (formula : String)
  | notLiteral (formula : String)
  deriving DecidableEq

namespace Failure

def message : Failure → String
  | .unreadable e => e.message
  | .tooDeep => "formula nested too deeply"
  | .repeatedArgument function name =>
      function ++ "() got multiple values for argument '" ++ name ++ "'"
  | .unknownOption name => "Options.__init__() got an unexpected keyword argument '" ++ name ++ "'"
  | .badLevel level => "log_level must be an int, not " ++ level
  | .notTerm value => value ++ " is not a term"
  | .longInteger =>
      "Exceeds the limit (" ++ Nat.repr Expression.digitLimit ++
        " digits) for integer string conversion; use sys.set_int_max_str_digits() to increase " ++
        "the limit"
  | .notLiteralTree formula => formula ++ " is not a quantifier-free NNF"
  | .notLiteral formula => "not a literal: " ++ formula

/-- The heading under which a failure caused by the text of a user is
reported. -/
def heading? : Failure → Option String
  | .unreadable (.scan _) => some "TokenizeError"
  | .unreadable (.parse _) => some "ParseError"
  | .tooDeep => some "NoTraceException"
  | _ => none

/-- The line that reports a failure, unless the failure is passed on. -/
def report? (f : Failure) : Option String :=
  f.heading?.map fun heading => heading ++ ": " ++ f.message ++ "\n"

end Failure

/-- The text of an expression, unless an integer in it has too many digits. -/
def Expression.text? (e : Expression) : Except Failure String :=
  if e.holdsLongInteger then .error .longInteger else .ok e.text

/-- The text of a scalar, unless it is an integer with too many digits. -/
def Scalar.text? (s : Scalar) : Except Failure String :=
  if s.isLong then .error .longInteger else .ok s.shown

/-- The text of a plain value, unless an integer in it has too many digits. -/
def Datum.text? (d : Datum) : Except Failure String :=
  if d.holdsLong then .error .longInteger else .ok d.shown

/-- Nothing, unless there is a foreign value; then the leftmost one is no
term, and an operation that names or writes the terms of a formula fails at it. -/
def requireNoForeign : List Expression → Except Failure Unit
  | [] => .ok ()
  | value :: _ => do
      let text ← value.text?
      .error (.notTerm text)

namespace Formula

/-- The formula itself, if all its terms are terms of the logic. -/
def withTerms (f : Formula) : Except Failure Formula := do
  requireNoForeign f.foreignValues
  .ok f

/-- The applicative notation of a formula whose terms are terms of the logic. -/
def applicative? (f : Formula) : Except Failure String := do
  let f ← f.withTerms
  .ok f.applicative

end Formula

/-- The failure that a formula causes by a part of it, named in the applicative
notation. -/
def failureAt (cause : String → Failure) (part : Formula) : Failure :=
  match part.applicative? with
  | .ok text => cause text
  | .error e => e

end Clausal
