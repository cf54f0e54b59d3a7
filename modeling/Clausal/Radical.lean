/-!
# Roots of natural numbers

The greatest number whose power does not exceed a given number is found bit by
bit (`rootFloor`). A root that is no number is written as a multiple of roots of
small numbers: the prime factors of the radicand give up as many factors as they
can (`Radical.ofPower`), and roots with the same exponent become one
(`Radical.gathered`).
-/

namespace Clausal

/-- The greatest number from a lower bound on, with so many more bits, whose power
does not exceed a number. -/
def rootFrom (degree n : Nat) : (bits : Nat) → (low : Nat) → Nat
  | 0, low => low
  | bits + 1, low =>
      let next := low + Nat.pow 2 bits
      if Nat.pow next degree ≤ n then rootFrom degree n bits next else rootFrom degree n bits low

/-- The greatest number whose power does not exceed a number. -/
def rootFloor (degree n : Nat) : Nat := rootFrom degree n (n.log2 / degree + 1) 0

/-- The root of a number, if it is a number. -/
def exactRoot? (degree n : Nat) : Option Nat :=
  let root := rootFloor degree n
  if Nat.pow root degree = n then some root else none

/-- The greatest number that is tried as a factor. -/
def factorLimit : Nat := 32768

/-- A number without a factor, and how often the number has it. -/
def strip (d : Nat) : (fuel : Nat) → Nat → Nat × Nat
  | 0, n => (n, 0)
  | fuel + 1, n =>
      if 1 < d ∧ n % d = 0 ∧ 0 < n then
        let (rest, count) := strip d fuel (n / d)
        (rest, count + 1)
      else (n, 0)

/-- The factors of a number from one on, each with its exponent. What has only
large factors is left as it is. -/
def factorsFrom : (fuel : Nat) → (d n : Nat) → List (Nat × Nat)
  | 0, _, n => if n = 1 then [] else [(n, 1)]
  | fuel + 1, d, n =>
      if n < d * d then if n = 1 then [] else [(n, 1)]
      else
        let (rest, count) := strip d (n.log2 + 1) n
        if count = 0 then factorsFrom fuel (d + 1) n
        else (d, count) :: factorsFrom fuel (d + 1) rest

def factors (n : Nat) : List (Nat × Nat) := factorsFrom factorLimit 2 n

/-- A number times powers of natural numbers with exponents between zero and
one. -/
structure Radical where
  coefficient : Rat
  powers : List (Nat × Rat)

namespace Radical

def ofPower (n : Nat) (exponent : Rat) : Radical :=
  let p := exponent.num.toNat
  let q := exponent.den
  match exactRoot? q n with
  | some root => ⟨(Nat.pow root p : Nat), []⟩
  | none =>
      let raised := (factors n).map fun (prime, count) => (prime, count * p)
      let outside : Nat := raised.foldl (fun (product : Nat) (prime, count) =>
        product * Nat.pow prime (count / q)) 1
      let inside := (raised.map fun (prime, count) => (prime, count % q)).filter (·.2 ≠ 0)
      let (together, apart) := inside.partition fun (_, count) => Nat.gcd count q = 1
      let common : Nat := together.foldl (fun (d : Nat) (_, count) => Nat.gcd d count) 0
      let radicand : Nat := together.foldl (fun (product : Nat) (prime, count) =>
        product * Nat.pow prime (count / common)) 1
      let rest := if radicand = 1 then [] else [(radicand, (common : Rat) / q)]
      ⟨outside, (apart.map fun (prime, count) => (prime, (count : Rat) / q)) ++ rest⟩

/-- A product of two numbers of this kind, with the powers of both. -/
def times (r s : Radical) : Radical := ⟨r.coefficient * s.coefficient, r.powers ++ s.powers⟩

/-- The power of a positive number with a positive exponent. A denominator is
raised to a whole exponent. -/
def ofPositive (b exponent : Rat) : Radical :=
  let whole := exponent.num.toNat / exponent.den + 1
  let above := ofPower b.num.natAbs exponent
  if b.den = 1 then above
  else
    let below := ofPower b.den ((whole : Rat) - exponent)
    above.times { below with coefficient := below.coefficient / (Nat.pow b.den whole : Nat) }

/-- Powers with one more base for an exponent. -/
def addBase (n : Nat) (exponent : Rat) : List (Nat × Rat) → List (Nat × Rat)
  | [] => [(n, exponent)]
  | (m, e) :: rest =>
      if e = exponent then (m * n, e) :: rest else (m, e) :: addBase n exponent rest

/-- Powers with one base for every exponent. -/
def joinBases (powers : List (Nat × Rat)) : List (Nat × Rat) :=
  powers.foldl (fun done (n, exponent) => addBase n exponent done) []

/-- Powers with one more exponent for a base. -/
def addExponent (n : Nat) (exponent : Rat) : List (Nat × Rat) → List (Nat × Rat)
  | [] => [(n, exponent)]
  | (m, e) :: rest =>
      if m = n then (m, e + exponent) :: rest else (m, e) :: addExponent n exponent rest

/-- Powers with one exponent for every base. -/
def joinExponents (powers : List (Nat × Rat)) : List (Nat × Rat) :=
  powers.foldl (fun done (n, exponent) => addExponent n exponent done) []

/-- A number times powers of which the exponents are less than one. -/
def reduced (powers : List (Nat × Rat)) : Radical :=
  powers.foldl (fun (r : Radical) (n, exponent) =>
    let whole := exponent.floor.toNat
    let rest := exponent - whole
    ⟨r.coefficient * (Nat.pow n whole : Nat),
      if rest = 0 then r.powers else r.powers ++ [(n, rest)]⟩) ⟨1, []⟩

/-- A base without the factors that it has in common with the bases of powers. These
become powers with the sum of both exponents. What is left of the base, the powers
and the new powers. -/
def withoutCommon (exponent : Rat) : (n : Nat) → List (Nat × Rat) →
    Nat × List (Nat × Rat) × List (Nat × Rat)
  | n, [] => (n, [], [])
  | n, (m, e) :: rest =>
      let common := Nat.gcd n m
      if common ≤ 1 then
        let (n, rest, new) := withoutCommon exponent n rest
        (n, (m, e) :: rest, new)
      else
        let (n, rest, new) := withoutCommon exponent (n / common) rest
        (n, (m / common, e) :: rest, (common, exponent + e) :: new)

/-- A number times powers whose bases have no factors in common. The fuel bounds the
number of powers that are looked at. -/
def parted : (fuel : Nat) → List (Nat × Rat) → Radical
  | 0, powers => ⟨1, powers⟩
  | _, [] => ⟨1, []⟩
  | fuel + 1, (n, exponent) :: rest =>
      let (n, rest, new) := withoutCommon exponent n rest
      let grown := reduced new
      let here := if n = 1 then ⟨1, []⟩ else ofPower n exponent
      let left := parted fuel (rest ++ grown.powers)
      ⟨grown.coefficient * here.coefficient * left.coefficient, here.powers ++ left.powers⟩

/-- The number of powers that are looked at for each power. -/
def partingFuel : Nat := 64

/-- A product of powers as a number with one power for every exponent. -/
def gathered (powers : List (Nat × Rat)) : Radical :=
  let first := reduced (joinBases (joinExponents powers))
  let second := parted (partingFuel * (first.powers.length + 1)) first.powers
  ⟨first.coefficient * second.coefficient, joinBases second.powers⟩

end Radical

end Clausal
