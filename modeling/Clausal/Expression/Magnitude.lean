import Clausal.Approximation.Elementary
import Clausal.Expression.Kind

/-!
# The values of closed expressions

A quantity without symbols is a complex number. Its value is calculated with many
more bits than any number is written with, which decides its sign and its place
among other numbers. Quantities with symbols, and a few functions, have no value.
-/

namespace Clausal

namespace Complex

def valueBits : Nat := 192

/-- A value with real and imaginary part, rounded. -/
def rounded (z : Rat × Rat) : Rat × Rat :=
  (Approximation.round valueBits z.1, Approximation.round valueBits z.2)

/-- The product of two numbers with real and imaginary parts. -/
def times : Rat × Rat → Rat × Rat → Rat × Rat
  | (a, b), (c, d) => (a * c - b * d, a * d + b * c)

/-- The inverse of a number that is not zero. -/
def inverse : Rat × Rat → Rat × Rat
  | (a, b) => (a / (a * a + b * b), -b / (a * a + b * b))

def natPower (z : Rat × Rat) : Nat → Rat × Rat
  | 0 => (1, 0)
  | n + 1 => rounded (times z (natPower z n))

/-- An elementary function of a real number. At zero it has the given value. -/
def real? (function : String) (zero : Rat) (q : Rat) : Option Rat :=
  if q = 0 then some zero
  else (Approximation.applied? function ⟨valueBits, q⟩).map Approximation.value

def pi : Rat :=
  Approximation.round valueBits ((Places.pi (2 * valueBits) : Rat) / Places.one (2 * valueBits))

/-- The angle of a number that is not zero. -/
def angle? : Rat × Rat → Option Rat
  | (a, b) =>
      if b = 0 then some (if a < 0 then pi else 0)
      else if a = 0 then some (if b < 0 then -pi / 2 else pi / 2)
      else (real? "atan" 0 (b / a)).map fun q =>
        if 0 < a then q else if b < 0 then q - pi else q + pi

def exp? : Rat × Rat → Option (Rat × Rat)
  | (a, b) => do
      let size ← real? "exp" 1 a
      let cosine ← real? "cos" 1 b
      let sine ← real? "sin" 0 b
      some (rounded (size * cosine, size * sine))

/-- The natural logarithm of a number that is not zero. -/
def log? (z : Rat × Rat) : Option (Rat × Rat) := do
  let square := z.1 * z.1 + z.2 * z.2
  if square = 0 then none
  else
    let size ← if square = 1 then some 0 else real? "log" 0 square
    let angle ← angle? z
    some (rounded (size / 2, angle))

/-- The greatest whole exponent of a power that is calculated by products. -/
def exponentLimit : Nat := 1000

def power? (z e : Rat × Rat) : Option (Rat × Rat) :=
  if z = (0, 0) then if 0 < e.1 then some (0, 0) else none
  else if e.2 = 0 ∧ e.1.den = 1 ∧ e.1.num.natAbs ≤ exponentLimit then
    let power := natPower z e.1.num.natAbs
    some (if e.1 < 0 then rounded (inverse power) else power)
  else do
    let scaled ← log? z
    exp? (rounded (times e scaled))

end Complex

/-- The number of decimal places of the constants without a rule. -/
def Constant.places : Nat := 60

def Constant.value? : Constant → Option (Rat × Rat)
  | .pi => some (Complex.pi, 0)
  | .euler => (Complex.real? "exp" 1 1).map fun q => (q, 0)
  | .imaginary => some (0, 1)
  | .goldenRatio => (Complex.power? (5, 0) (1 / 2, 0)).map fun root => ((1 + root.1) / 2, 0)
  | .eulerGamma => some (decimal 577215664901532860606512090082402431042159335939923598805767, 0)
  | .catalan => some (decimal 915965594177219015054603514932384110774149374281672134266498, 0)
  | .tribonacci =>
      some (decimal 1839286755214161132551852564653286600424178746097592246778758, 0)
  | _ => none
where
  decimal (digits : Nat) : Rat := (digits : Rat) / (Nat.pow 10 Constant.places : Nat)

namespace Expression

/-- The value of a known function of one argument. -/
def functionValue? (function : String) (z : Rat × Rat) : Option (Rat × Rat) :=
  let real? (zero : Rat) : Option (Rat × Rat) :=
    if z.2 = 0 then (Complex.real? function zero z.1).map fun q => (q, 0) else none
  match function with
  | "exp" => Complex.exp? z
  | "log" => Complex.log? z
  | "Abs" => Complex.power? (z.1 * z.1 + z.2 * z.2, 0) (1 / 2, 0)
  | "cos" => real? 1
  | "cosh" => real? 1
  | "sec" => real? 1
  | "sech" => real? 1
  | "sinc" => real? 1
  | "acos" => real? (Complex.pi / 2)
  | "acot" => real? (Complex.pi / 2)
  | "cot" => if z.1 = 0 then none else real? 0
  | "csc" => if z.1 = 0 then none else real? 0
  | "coth" => if z.1 = 0 then none else real? 0
  | "csch" => if z.1 = 0 then none else real? 0
  | "acosh" => if z.1 = 1 then some (0, 0) else real? 0
  | _ => real? 0

mutual

/-- The value of a closed quantity, as its real and imaginary part. -/
def complexValue? : Expression → Option (Rat × Rat)
  | .number q => some (q, 0)
  | .approximate x => some (x.value, 0)
  | .constant c => c.value?
  | .compound .sum parts =>
      (complexValues? parts).map fun zs =>
        Complex.rounded (zs.foldl (fun w z => (w.1 + z.1, w.2 + z.2)) (0, 0))
  | .compound .product parts =>
      (complexValues? parts).map fun zs =>
        zs.foldl (fun w z => Complex.rounded (Complex.times w z)) (1, 0)
  | .compound .power [base, exponent] => do
      let z ← complexValue? base
      let e ← complexValue? exponent
      Complex.power? z e
  | .compound (.known function) [e] => do
      let z ← complexValue? e
      functionValue? function z
  | _ => none

def complexValues? : List Expression → Option (List (Rat × Rat))
  | [] => some []
  | e :: es => do
      let z ← complexValue? e
      let zs ← complexValues? es
      some (z :: zs)

end

/-- What is nearer to zero than this counts as zero where that is not known
otherwise. -/
def negligible : Rat := 1 / (Nat.pow 2 (Complex.valueBits / 2) : Nat)

def magnitude? (e : Expression) : Option Rat :=
  match e with
  | .number q => some q
  | e => do
      let z ← e.complexValue?
      if z.2.abs < negligible then some z.1 else none

end Expression

end Clausal
