import Clausal.Expression.Ancestry
import Clausal.Expression.Counting
import Clausal.Expression.Relation

/-!
# What is known about an expression

An expression answers questions about itself with yes, with no, or not at all. All
questions about the value of a rational number have an answer; of other closed
quantities the size and the kind of number is known, and of symbols nothing.
-/

namespace Clausal.Expression

def isPrime (n : Nat) : Bool := 1 < n && factors n = [(n, 1)]

def rationalTrait? (question : String) (q : Rat) : Option Bool :=
  let whole := q.den = 1
  match question with
  | "integer" => some whole
  | "rational" => some true
  | "real" => some true
  | "extended_real" => some true
  | "complex" => some true
  | "algebraic" => some true
  | "finite" => some true
  | "hermitian" => some true
  | "infinite" => some false
  | "irrational" => some false
  | "transcendental" => some false
  | "imaginary" => some false
  | "antihermitian" => some (q = 0)
  | "zero" => some (q = 0)
  | "nonzero" => some (q ≠ 0)
  | "extended_nonzero" => some (q ≠ 0)
  | "positive" => some (0 < q)
  | "extended_positive" => some (0 < q)
  | "negative" => some (q < 0)
  | "extended_negative" => some (q < 0)
  | "nonnegative" => some (0 ≤ q)
  | "extended_nonnegative" => some (0 ≤ q)
  | "nonpositive" => some (q ≤ 0)
  | "extended_nonpositive" => some (q ≤ 0)
  | "noninteger" => some (!whole)
  | "even" => some (whole && q.num % 2 = 0)
  | "odd" => some (whole && q.num % 2 ≠ 0)
  | "prime" => some (whole && 0 < q && isPrime q.num.natAbs)
  | "composite" => some (whole && 1 < q && !isPrime q.num.natAbs)
  | _ => none

/-- An answer about a closed real quantity that may be irrational, from its value. -/
def realTrait? (question : String) (q : Rat) : Option Bool :=
  if ["real", "extended_real", "complex", "finite", "hermitian", "infinite", "imaginary", "zero",
      "nonzero", "extended_nonzero", "positive", "extended_positive", "negative",
      "extended_negative", "nonnegative", "extended_nonnegative", "nonpositive",
      "extended_nonpositive"].contains question then
    rationalTrait? question q
  else none

def infiniteTrait? (question : String) (positive : Bool) : Option Bool :=
  match question with
  | "infinite" => some true
  | "extended_real" => some true
  | "extended_nonzero" => some true
  | "extended_positive" => some positive
  | "extended_nonnegative" => some positive
  | "extended_negative" => some !positive
  | "extended_nonpositive" => some !positive
  | question => if (rationalTrait? question 0).isSome then some false else none

/-- An answer about the number whose square is minus one. -/
def imaginaryTrait? (question : String) : Option Bool :=
  if ["imaginary", "complex", "algebraic", "finite", "antihermitian"].contains question then
    some true
  else
    match question with
    | "nonzero" => some false
    | "extended_nonzero" => some false
    | question => if (rationalTrait? question 0).isSome then some false else none

/-- The numbers with names that are known to be no solutions of equations with whole
numbers. -/
def isTranscendental (c : Constant) : Bool := c = .pi || c = .euler

def trait? (question : String) : Expression → Option Bool
  | .number q => rationalTrait? question q
  | .constant .infinity => infiniteTrait? question true
  | .constant .negativeInfinity => infiniteTrait? question false
  | .constant .imaginary => imaginaryTrait? question
  | .constant c =>
      match question with
      | "integer" => if isTranscendental c then some false else none
      | "rational" => if isTranscendental c then some false else none
      | "irrational" => if isTranscendental c then some true else none
      | "transcendental" => if isTranscendental c then some true else none
      | "algebraic" => if isTranscendental c then some false else none
      | "even" => if isTranscendental c then some false else none
      | "odd" => if isTranscendental c then some false else none
      | "prime" => if isTranscendental c then some false else none
      | "composite" => if isTranscendental c then some false else none
      | "noninteger" => if isTranscendental c then some true else none
      | question => (magnitude? (.constant c)).bind (realTrait? question)
  | e =>
      if e.isOpen then
        match question with
        | "real" => if isReal? e = some true then none else isReal? e
        | "extended_real" => isReal? e
        | "extended_nonnegative" => isNonnegative? e
        | _ => none
      else (magnitude? e).bind (realTrait? question)

def isClosed (e : Expression) : Bool := e.isQuantity && !e.isOpen

def familyTrait? (question : String) (e : Expression) : Option Bool :=
  match question with
  | "number" => some e.isClosed
  | "Number" => some (e.isNumeral && e ≠ .constant .complexInfinity)
  | "Float" =>
      match e with
      | .approximate _ => some true
      | _ => some false
  | "Rational" => if e.isClosed then some (e matches .number _) else some false
  | "Integer" => some (e.integer?.isSome && e.isClosed)
  | "NumberSymbol" =>
      match e with
      | .constant c => some (c.value?.isSome && c ≠ .imaginary)
      | _ => some false
  | "comparable" => some (e.isClosed && e.magnitude?.isSome)
  | "Symbol" => some e.isSymbol
  | "symbol" => some e.isSymbol
  | "Function" => some (isFunction e)
  | "Atom" => some (e.parts.isEmpty && !isSteady e)
  | "Add" => some (e matches .compound .sum _)
  | "Mul" => some (e matches .compound .product _)
  | "Pow" => some (e matches .compound .power _)
  | "Not" => some (e matches .compound .not _)
  | "Relational" => some (e matches .compound (.comparison _) _)
  | "Equality" => some (e matches .compound (.comparison .eq) _)
  | "Derivative" => some (e matches .compound (.known "Derivative") _)
  | "Piecewise" => some (e matches .compound (.known "Piecewise") _)
  | question =>
      if ["Dummy", "Wild", "Order", "Poly", "AlgebraicNumber", "Matrix", "Vector", "Point",
          "MatAdd", "MatMul"].contains question then some false
      else none
where
  /-- A function that is applied, one that joins propositions included. -/
  isFunction : Expression → Bool
    | .compound .and _ => true
    | .compound .or _ => true
    | .compound .not _ => true
    | .compound .implies _ => true
    | .compound (.known function) _ =>
        propositionKinds.contains function || ["Max", "Min"].contains function ||
          !unusualKinds.contains function
    | e => e.isOfKind "Function"
  /-- A function that is applied to nothing, which is no atom. -/
  isSteady : Expression → Bool
    | .app _ _ => true
    | .compound _ _ => true
    | _ => false

end Clausal.Expression
