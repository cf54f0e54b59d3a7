import Clausal.Approximation.Basic
import Clausal.Radical

/-!
# Elementary functions of approximate numbers

The value of an elementary function is calculated with binary places: an integer
stands for so many units of the last place. Arguments are made small by the laws of
the function, and then a power series has few terms. The last places are not
reliable, so a result is calculated with more places than it needs, and with still
more if it is near zero (`Approximation.settled?`).
-/

namespace Clausal

/-- A number given to any number of binary places, the last few of which may be
wrong. -/
abbrev Places := Nat → Int

namespace Places

/-- One unit in front of the point. -/
def one (places : Nat) : Int := (Nat.pow 2 places : Nat)

/-- The places of a rational number. -/
def ofRat (q : Rat) (places : Nat) : Int := (q * (one places : Rat)).floor

/-- The product of two numbers given to the same places. -/
def times (places : Nat) (a b : Int) : Int := a * b / one places

/-- The quotient of two numbers given to the same places. -/
def divided (places : Nat) (a b : Int) : Int := a * one places / b

/-- The square root of a number that is not negative. -/
def root (places : Nat) (a : Int) : Int := (rootFloor 2 (a.toNat * Nat.pow 2 places) : Nat)

/-- The sum of the odd powers, each over its exponent, with falling or the same
signs. -/
def oddSeries (places : Nat) (sign : Int) (square : Int) : (fuel : Nat) → (exponent : Nat) →
    (power : Int) → Int
  | 0, _, _ => 0
  | fuel + 1, exponent, power =>
      if power = 0 ∨ power = -1 then 0
      else power / exponent +
        oddSeries places sign square fuel (exponent + 2) (sign * times places power square)

/-- The sum of the powers over the factorials of their exponents, from one exponent on
in steps. -/
def factorialSeries (places : Nat) (step : Nat) (factor : Int) : (fuel : Nat) →
    (exponent : Nat) → (term : Int) → Int
  | 0, _, _ => 0
  | fuel + 1, exponent, term =>
      if term = 0 ∨ term = -1 then 0
      else
        let next := times places term factor / (exponent + 1 : Nat)
        term + factorialSeries places step factor fuel (exponent + step)
          (if step = 2 then next / (exponent + 2 : Nat) else next)

def smallArcTangent (places : Nat) (x : Int) : Int :=
  oddSeries places (-1) (times places x x) (places + 2) 1 x

/-- Half the turn of a circle with the radius one. -/
def pi : Places := fun places =>
  let wide := places + 8
  let part (n : Nat) : Int := smallArcTangent wide (one wide / n)
  (16 * part 5 - 4 * part 239) / 256

/-- The logarithm of a positive number that is near one. -/
def nearLog (places : Nat) (x : Int) : Int :=
  let ratio := divided places (x - one places) (x + one places)
  2 * oddSeries places 1 (times places ratio ratio) (places + 2) 1 ratio

/-- The logarithm of two. -/
def logTwo : Places := fun places => nearLog (places + 8) (2 * one (places + 8)) / 256

def log (places : Nat) (x : Int) : Int :=
  let shift : Int := x.toNat.log2 - places
  let near := if 0 ≤ shift then x / (Nat.pow 2 shift.toNat : Nat)
    else x * (Nat.pow 2 (-shift).toNat : Nat)
  nearLog places near + shift * logTwo places

/-- The exponential function. The argument is split into a multiple of the logarithm
of two and a small rest. -/
def exp (places : Nat) (x : Int) : Int :=
  let count := x / logTwo places
  let rest := x - count * logTwo places
  let small := factorialSeries places 1 rest (places + 8) 0 (one places)
  if 0 ≤ count then small * (Nat.pow 2 count.toNat : Nat)
  else small / (Nat.pow 2 (-count).toNat : Nat)

/-- An angle without full turns. -/
def withoutTurns (places : Nat) (x : Int) : Int := (x + pi places) % (2 * pi places) - pi places

def sine (places : Nat) (x : Int) : Int :=
  let x := withoutTurns places x
  factorialSeries places 2 (-(times places x x)) (places + 8) 1 x

def cosine (places : Nat) (x : Int) : Int :=
  let x := withoutTurns places x
  factorialSeries places 2 (-(times places x x)) (places + 8) 0 (one places)

/-- The tangent of half an angle from the tangent of the angle. -/
def halfTangent (places : Nat) (x : Int) : Int :=
  divided places x (one places + root places (times places x x + one places))

/-- The inverse tangent of a number that is not negative. -/
def positiveArcTangent (places : Nat) (x : Int) : Int :=
  4 * smallArcTangent places (halfTangent places (halfTangent places x))

def arcTangent (places : Nat) (x : Int) : Int :=
  if x < 0 then -(positiveArcTangent places (-x)) else positiveArcTangent places x

/-- The inverse sine of a number between minus one and one. -/
def arcSine (places : Nat) (x : Int) : Int :=
  let other := root places (one places - times places x x)
  if other = 0 then (if x < 0 then -(pi places) / 2 else pi places / 2)
  else arcTangent places (divided places x other)

/-- The logarithm of a number together with a root of its square plus or minus one. -/
def rootLog (places : Nat) (sign x : Int) : Int :=
  log places (x + root places (times places x x + sign * one places))

end Places

namespace Approximation

/-- The number of places that a result has more than it needs. -/
def guardPlaces : Nat := 32

/-- A number that is given to any number of places, with so many bits. A number near
zero takes more places, and one that stays there has no bits. -/
def settledWithin (bits : Nat) (x : Places) : (fuel : Nat) → (places : Nat) → Option Rat
  | 0, _ => none
  | fuel + 1, places =>
      let units := x places
      if bits + guardPlaces / 2 ≤ units.natAbs.log2 then
        some (round bits ((units : Rat) / (Places.one places : Rat)))
      else settledWithin bits x fuel (2 * places)

/-- How often the number of places is doubled at most. -/
def doublings : Nat := 6

/-- An approximate number from a number that is given to any number of places. -/
def settled? (bits : Nat) (x : Places) : Option Approximation :=
  (settledWithin bits x doublings (bits + guardPlaces)).map fun q => ⟨bits, q⟩

/-- The greatest size of an argument. -/
def argumentLimit : Rat := 100000

/-- An elementary function with its name, as a function of places, and the numbers
that have a real value. -/
def elementary? (function : String) : Option ((Nat → Int → Int) × (Rat → Bool)) :=
  let always (_ : Rat) : Bool := true
  let inside (q : Rat) : Bool := -1 ≤ q && q ≤ 1
  match function with
  | "exp" => some (Places.exp, always)
  | "log" => some (Places.log, (0 < ·))
  | "sin" => some (Places.sine, always)
  | "cos" => some (Places.cosine, always)
  | "tan" => some (fun n x => Places.divided n (Places.sine n x) (Places.cosine n x), always)
  | "cot" => some (fun n x => Places.divided n (Places.cosine n x) (Places.sine n x), always)
  | "sec" => some (fun n x => Places.divided n (Places.one n) (Places.cosine n x), always)
  | "csc" => some (fun n x => Places.divided n (Places.one n) (Places.sine n x), always)
  | "sinc" => some (fun n x => Places.divided n (Places.sine n x) x, always)
  | "asin" => some (Places.arcSine, inside)
  | "acos" => some (fun n x => Places.pi n / 2 - Places.arcSine n x, inside)
  | "atan" => some (Places.arcTangent, always)
  | "acot" => some (fun n x => Places.arcTangent n (Places.divided n (Places.one n) x), always)
  | "sinh" => some (fun n x => (Places.exp n x - Places.exp n (-x)) / 2, always)
  | "cosh" => some (fun n x => (Places.exp n x + Places.exp n (-x)) / 2, always)
  | "tanh" =>
      some (fun n x => Places.divided n (Places.exp n (2 * x) - Places.one n)
        (Places.exp n (2 * x) + Places.one n), always)
  | "coth" =>
      some (fun n x => Places.divided n (Places.exp n (2 * x) + Places.one n)
        (Places.exp n (2 * x) - Places.one n), always)
  | "sech" =>
      some (fun n x => Places.divided n (2 * Places.one n)
        (Places.exp n x + Places.exp n (-x)), always)
  | "csch" =>
      some (fun n x => Places.divided n (2 * Places.one n)
        (Places.exp n x - Places.exp n (-x)), always)
  | "asinh" =>
      some (fun n x => if x < 0 then -(Places.rootLog n 1 (-x)) else Places.rootLog n 1 x, always)
  | "acosh" => some (fun n x => Places.rootLog n (-1) x, (1 ≤ ·))
  | "atanh" =>
      some (fun n x => Places.log n (Places.divided n (Places.one n + x) (Places.one n - x)) / 2,
        fun q => -1 < q && q < 1)
  | _ => none

/-- The value of an elementary function at an approximate number that is not
zero. -/
def applied? (function : String) (x : Approximation) : Option Approximation := do
  let (f, isInside) ← elementary? function
  let large := argumentLimit < x.value.abs &&
    !(["log", "atan", "acot", "asinh"].contains function)
  if x.value = 0 ∨ large ∨ !isInside x.value then none
  else
    let extra := (Floating.binaryLog x.value.abs).natAbs
    settled? x.bits fun places =>
      let wide := places + 2 * extra + guardPlaces
      f wide (Places.ofRat x.value wide) / Places.one (wide - places)

/-- The power of a positive number with an exponent that is no whole number. -/
def power? (bits : Nat) (base exponent : Rat) : Option Approximation :=
  let size := (Floating.binaryLog base).natAbs + (Floating.binaryLog exponent.abs).natAbs + 8
  if base ≤ 0 ∨ exponent = 0 ∨ argumentLimit < exponent.abs * (Floating.binaryLog base).natAbs then
    none
  else
    settled? bits fun places =>
      let wide := places + 2 * size + guardPlaces
      let scaled := Places.log wide (Places.ofRat base wide)
      Places.exp wide (exponent * scaled).floor / Places.one (wide - places)

end Approximation

end Clausal
