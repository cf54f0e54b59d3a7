import Clausal.Expression.Trait

/-!
# Prime numbers and divisors

Small numbers are divided into their factors. A larger number counts as prime if it passes
the test of its powers for several bases.
-/

namespace Clausal.Expression

/-- The remainder of a power. The fuel bounds the number of bits of the exponent. -/
def powerModWithin (m : Nat) : (fuel : Nat) → (base exponent : Nat) → Nat
  | 0, _, _ => 1 % m
  | fuel + 1, base, exponent =>
      if exponent = 0 then 1 % m
      else
        let half := powerModWithin m fuel (base * base % m) (exponent / 2)
        if exponent % 2 = 1 then half * base % m else half

def powerMod (base exponent m : Nat) : Nat :=
  powerModWithin m (exponent.log2 + 1) (base % m) exponent

/-- Squares of a number by a modulus, so many of them. -/
def squares (m : Nat) : (count : Nat) → Nat → List Nat
  | 0, _ => []
  | count + 1, a => a :: squares m count (a * a % m)

def passesTest (n base : Nat) : Bool :=
  let (odd, twos) := strip 2 (n.log2 + 1) (n - 1)
  let start := powerMod base odd n
  start = 1 || (squares n twos start).contains (n - 1)

def testBases : List Nat := [2, 3, 5, 7, 11, 13, 17, 19, 23, 29, 31, 37, 41]

/-- A number is prime. Below the square of the greatest number tried as a factor, the
factors decide, and the test of powers above. -/
def isPrimeNumber (n : Nat) : Bool :=
  if n < factorLimit * factorLimit then isPrime n
  else testBases.all fun base => n % base ≠ 0 && passesTest n base

/-- The greatest distance in which a prime number is looked for. -/
def primeDistance : Nat := 4000

def nextPrime? (n : Nat) : Option Nat :=
  (List.range' (n + 1) primeDistance).find? isPrimeNumber

/-- The prime number before. -/
def previousPrime? (n : Nat) : Option Nat :=
  ((List.range (min n primeDistance)).map fun d => n - 1 - d).find? isPrimeNumber

/-- The greatest place in the row of the prime numbers that is looked for. -/
def primePlaceLimit : Nat := 2000

/-- The prime number at a place, the first of which is one. -/
def primeAt? (place : Nat) : Option Nat :=
  if place = 0 ∨ primePlaceLimit < place then none
  else ((List.range 20000).filter isPrime)[place - 1]?

/-- The factors of a number that has only small factors, with their exponents. -/
def primeFactors? (n : Nat) : Option (List (Nat × Nat)) :=
  let parts := factors n
  if n ≠ 0 ∧ parts.all fun part => isPrimeNumber part.1 then some parts else none

end Clausal.Expression
