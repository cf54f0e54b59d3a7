import Clausal.Approximation.Spelling
import Clausal.Expression.Construction
import Clausal.Expression.Known
import Clausal.Worksheet.Plain
import Clausal.Worksheet.Procedure

/-!
# Applying known functions

A known function takes a number of arguments that it states itself, converts each
of them to an expression, and may have a simple value for them. Some known names
stand for ways of making symbols, function symbols, numbers, sets and functions,
and these look at plain values before anything is converted.
-/

namespace Clausal.Worksheet

namespace Value

/-- The known functions of one argument. -/
def unaryNames : List String :=
  ["sin", "cos", "tan", "cot", "sec", "csc", "sinc", "asin", "acos", "atan", "acot", "asec",
    "acsc", "sinh", "cosh", "tanh", "coth", "sech", "csch", "asinh", "acosh", "atanh", "acoth",
    "asech", "acsch", "exp", "Abs", "sign", "re", "im", "arg", "conjugate", "floor", "ceiling",
    "frac", "factorial", "factorial2", "subfactorial", "gamma", "loggamma", "erf", "erfc", "erfi",
    "Ei", "Si", "Ci", "Shi", "Chi", "li", "Li", "lucas", "catalan", "motzkin", "partition",
    "andre", "mobius", "primenu", "primeomega", "totient", "reduced_totient", "primepi",
    "digamma", "trigamma", "erfinv", "erfcinv", "fresnels", "fresnelc", "transpose", "adjoint",
    "polar_lift", "riemann_xi", "elliptic_k", "airyai", "airybi", "airyaiprime", "airybiprime"]

/-- The known functions of one argument that take a second one. -/
def variadicNames : List String :=
  ["log", "LambertW", "zeta", "beta", "harmonic", "fibonacci", "tribonacci", "bernoulli",
    "euler", "genocchi", "divisor_sigma", "udivisor_sigma", "dirichlet_eta", "stieltjes",
    "DiracDelta", "elliptic_e"]

/-- The known functions of two arguments. -/
def binaryNames : List String :=
  ["binomial", "Mod", "atan2", "lowergamma", "uppergamma", "polygamma", "legendre_symbol",
    "jacobi_symbol", "kronecker_symbol", "multigamma", "erf2", "erf2inv", "expint", "polylog",
    "legendre", "hermite", "hermite_prob", "chebyshevt", "chebyshevu", "laguerre",
    "chebyshevt_root", "chebyshevu_root", "besselj", "bessely", "besseli", "besselk", "jn",
    "elliptic_f", "periodic_argument", "principal_branch", "RisingFactorial",
    "FallingFactorial", "Rem"]

/-- The known functions of other numbers of arguments, with the least and the greatest
number. -/
def otherCounts : List (String × Nat × Nat) :=
  [("bell", 1, 3), ("KroneckerDelta", 2, 3), ("elliptic_pi", 2, 3), ("assoc_legendre", 3, 3),
    ("assoc_laguerre", 3, 3), ("gegenbauer", 3, 3), ("marcumq", 3, 3), ("mathieus", 3, 3),
    ("mathieuc", 3, 3), ("mathieusprime", 3, 3), ("mathieucprime", 3, 3),
    ("SingularityFunction", 3, 3), ("jacobi", 4, 4), ("Ynm", 4, 4), ("Znm", 4, 4),
    ("betainc", 4, 4), ("betainc_regularized", 4, 4), ("appellf1", 6, 6)]

/-- The least and the greatest number of arguments of a known function. -/
def counts? (name : String) : Option (Nat × Nat) :=
  if unaryNames.contains name then some (1, 1)
  else if variadicNames.contains name then some (1, 2)
  else if binaryNames.contains name then some (2, 2)
  else otherCounts.lookup name

def countFault? (name : String) (given : Nat) : Option Fault :=
  match counts? name with
  | some (least, most) =>
      if given < least ∨ most < given then some (.wrongCount name (least < most) least given)
      else none
  | none => none

def junctionNames : List String := ["And", "Or", "Nand", "Nor", "ITE"]

def negationParts : List String := ["arg"]

def branchFault? : List Expression → Option Fault
  | [] => some .noBranches
  | pairs => pairs.findSome? fun pair =>
      match pair with
      | .compound .tuple [_, condition] =>
          if condition.isProposition then none else some (.notCondition condition.kind)
      | _ => none

def operandFault? (name : String) (operands : List Expression) : Option Fault :=
  let count := operands.length
  if name = "ITE" && count ≠ 3 then some .notAlternative
  else if name = "Implies" && count ≠ 2 then
    some (.naming (.notImplication count) (.compound .tuple operands))
  else if name = "Not" && count = 0 then some (.missing "Not.eval" negationParts)
  else if name = "Not" && count ≠ 1 then some (.surplus "Not.eval" 2 (count + 1))
  else if junctionNames.contains name then
    (operands.find? fun e => !e.isJoinable).map (.naming .notProposition)
  else
    match name, operands with
    | "diff", e :: symbols => Method.derivationFault? e symbols
    | "Derivative", e :: symbols => Method.derivationFault? e symbols
    | "Piecewise", pairs => branchFault? pairs
    | _, _ => none

def floatOf (s : String) : Except Fault Value :=
  match Approximation.Spelling.ofText? s with
  | none => .error (.notFloat s)
  | some x =>
      if x.isLong Expression.digitLimit then .error (.failure .longInteger)
      else x.value?.elim (.error .inapplicable) fun x => .ok (.expression (.approximate x))

/-- A function symbol by itself. -/
def functorNamed : Value → Except Fault Value
  | .scalar (.text name) =>
      if name.toList.contains '\x00' then .error .nullInName
      else .ok (.expression (.leaf (.functor name)))
  | .expression (.sym name) => .ok (.expression (.leaf (.functor name)))
  | _ => .error .notFunctionName

mutual

/-- The names that a function depends on, in groups or by themselves. No name may
occur twice. -/
def signatureNames (seen : List String) : Expression → Except Fault (List String)
  | .sym name => if seen.contains name then .error (.repeatedSymbol name) else .ok (name :: seen)
  | .compound .tuple parts => signaturesNames seen parts
  | e => .error (.naming .badSignature e)

/-- The names that a function depends on, in a list of groups and names. -/
def signaturesNames (seen : List String) : List Expression → Except Fault (List String)
  | [] => .ok seen
  | e :: es => do
      let seen ← signatureNames seen e
      signaturesNames seen es

end

def functionOf (meaning : Meaning) (signature result : Value) : Except Fault Value := do
  let signature ←
    match signature.items? with
    | some items => (Value.tuple items).converted meaning
    | none => (Value.tuple [signature]).converted meaning
  let signature ← signature.asPart
  let _ ← signatureNames [] signature
  let result ← result.converted meaning
  let result ← result.asPart
  .ok (.expression (if signature.parts = [result] then Known.identity
    else .compound (.known "Lambda") [signature, result]))

def functionParts : List String := ["signature", "expr"]

/-- A known function applied to values that become expressions. -/
def appliedFunction (meaning : Meaning) (name : String) (args : Arguments) :
    Except Fault Value := do
  let values ←
    match countFault? name args.inOrder.length with
    | some fault => .error fault
    | none => args.inOrder.mapM (Method.operand meaning)
  if Known.functions.contains name then args.requireNoOptions
  match operandFault? name values, args.byName, Procedure.ofExpressions? name values with
  | some fault, [], _ => .error fault
  | none, [], some v => .ok v
  | none, [], none => Method.given (Expression.performed? name values)
  | _, _, _ => .error .inapplicable

def symbolMakers : List String := ["Symbol", "symbols", "var"]

/-- Arguments without what is assumed of symbols that are made. -/
def withoutAssumptions (name : String) (args : Arguments) : Arguments :=
  if symbolMakers.contains name then
    { args with byName := args.byName.filter fun option => !Procedure.isAssumption option }
  else args

/-- What a known function or kind makes of values. -/
def appliedByName (meaning : Meaning) (name : String) (args : Arguments) : Except Fault Value :=
  match name, args.inOrder, args.byName with
  | "Symbol", [v], [] => variableNamed v
  | "Function", [v], [] => functorNamed v
  | "Integer", [.scalar s], [] => integerOf (.scalar s)
  | "Float", [.scalar (.text s)], [] => floatOf s
  | "Integer", [.expression e], [] =>
      if e.isOpen then (Value.expression e).refuse .notNumeric
      else appliedFunction meaning name args
  | "S", [v], [] => v.converted meaning
  | "sympify", [v], [] => v.converted meaning
  | "len", [v], [] => v.length
  | "FiniteSet", items, [] => (Value.set items).converted meaning
  | "Lambda", [signature, result], [] => functionOf meaning signature result
  | "Lambda", items, [] =>
      .error (if items.length < 2 then
        .missing "Lambda.__new__" (functionParts.drop items.length)
      else .surplus "Lambda.__new__" 3 (items.length + 1))
  | name, _, _ => appliedFunction meaning name args

def appliedKnown (meaning : Meaning) (name : String) (args : Arguments) : Except Fault Value :=
  let args := withoutAssumptions name args
  match args.byName, Procedure.ofValues? name args.inOrder with
  | [], some result => result
  | _, _ => appliedByName meaning name args

/-- A symbol that stands for an argument until all arguments are put in. -/
def placeholder (place : Nat) : Expression := .sym ("\x00" ++ Nat.repr place)

/-- An expression with arguments in the place of symbols, all at once. -/
def putIn? (names args : List Expression) (e : Expression) : Option Expression := do
  let places := (List.range names.length).map placeholder
  let e ← Method.exactly (names.zip places) e
  Method.exactly (places.zip args) e

/-- A function that is known by what it does, applied to values. -/
def appliedBody (meaning : Meaning) (names : List Expression) (result : Expression)
    (args : Arguments) : Except Fault Value := do
  let count := args.inOrder.length
  if !args.byName.isEmpty then .error .inapplicable
  else if count ≠ names.length then
    let body := Expression.compound (.known "Lambda") [.compound .tuple names, result]
    .error (.naming (fun text => .notTaken text names.length count) body)
  else do
    let operands ← args.inOrder.mapM (Method.operand meaning)
    Method.given (putIn? names operands result)

/-- The kinds of things that are no expressions and cannot be applied. -/
def inertKinds : List String := ["bytes", "ellipsis", "slice"]

def applied (meaning : Meaning) (v : Value) (args : Arguments) : Except Fault Value :=
  match v with
  | .expression (.leaf (.functor name)) =>
      (applyFunctionWith meaning name args).map .expression
  | .expression (.leaf (.function name)) => appliedKnown meaning name args
  | .expression (.leaf (.family path)) => appliedKnown meaning (bareName path) args
  | .expression (.compound (.known "Lambda") [.compound .tuple names, result]) =>
      appliedBody meaning names result args
  | .procedure name _ => appliedKnown meaning name args
  | .method owner name => Method.applied meaning owner name args
  | .thing path =>
      if inertKinds.contains path then .error (.notApplied path) else .error .inapplicable
  | v => .error (.notApplied v.kind)

end Value

end Clausal.Worksheet
