import Clausal.Expression.Argument

/-!
# Functions of whole numbers

Factorials, choices and the numbers of well-known sequences are calculated at whole
numbers that are not too large. At all other arguments the functions stand for
themselves.
-/

namespace Clausal.Expression

/-- The greatest number with a calculated factorial. -/
def factorialLimit : Nat := 2000

/-- The product of the numbers from one on with a distance to the next. -/
def factorialBy (distance : Nat) : (fuel : Nat) → Nat → Nat
  | 0, _ => 1
  | fuel + 1, n => if n ≤ 1 then 1 else n * factorialBy distance fuel (n - distance)

def natFactorial (n : Nat) : Nat := factorialBy 1 (n + 1) n

def factorial (e : Expression) : Expression :=
  match e.integer?, e with
  | some (.ofNat n), _ =>
      if n ≤ factorialLimit then .int (natFactorial n) else stands "factorial" e
  | some _, _ => .constant .complexInfinity
  | none, .constant .infinity => e
  | none, .constant .undefined => e
  | none, e => stands "factorial" e

/-- The factorial of an expression with every other number. -/
def doubleFactorial (e : Expression) : Expression :=
  match e.integer? with
  | some (.ofNat n) =>
      if n ≤ factorialLimit then .int (factorialBy 2 (n + 1) n) else stands "factorial2" e
  | some n =>
      if n % 2 = 0 then stands "factorial2" e
      else
        let size := (1 - n) / 2
        let below : Int := (factorialBy 2 (n.natAbs + 1) (-n - 2).toNat : Nat)
        .number ((if size % 2 = 0 then -1 else 1) / (below : Rat))
  | none => stands "factorial2" e

/-- The number of ways to put all of some things into wrong places. -/
def derangements : Nat → Nat
  | 0 => 1
  | n + 1 =>
      let total := (n + 1) * derangements n
      if n % 2 = 0 then total - 1 else total + 1

/-- The number of ways to put all of some things into wrong places, at an expression. -/
def subfactorial (e : Expression) : Expression :=
  match e.integer? with
  | some (.ofNat n) =>
      if n ≤ factorialLimit then .int (derangements n) else stands "subfactorial" e
  | _ => stands "subfactorial" e

def halfGamma (q : Rat) : Expression :=
  let count := q.floor.natAbs
  let odd : Nat := factorialBy 2 (2 * count + 2) (2 * count - 1)
  let scale : Rat :=
    if 0 < q then (odd : Rat) / (Nat.pow 2 count : Nat)
    else ((Nat.pow 2 count : Nat) : Rat) / odd * (if count % 2 = 0 then 1 else -1)
  product [.number scale, root (.constant .pi)]

def gamma (e : Expression) : Expression :=
  match e with
  | .number q =>
      if q.den = 1 then
        if q.num ≤ 0 then .constant .complexInfinity else factorial (.int (q.num - 1))
      else if q.den = 2 ∧ q.num.natAbs ≤ factorialLimit then halfGamma q
      else stands "gamma" e
  | .constant .infinity => e
  | .constant .undefined => e
  | .constant .complexInfinity => .constant .complexInfinity
  | e => stands "gamma" e

/-- The product of so many falling or rising numbers from an expression on. -/
def stepped (rising : Bool) (function : String) (e count : Expression) : Expression :=
  match count.integer? with
  | some (.ofNat n) =>
      if n ≤ factorialLimit then
        product ((List.range n).map fun (i : Nat) =>
          sum [e, .int (if rising then i else -(i : Int))])
      else .compound (.known function) [e, count]
  | _ => .compound (.known function) [e, count]

def choices (n k : Nat) : Nat :=
  if n < k then 0 else natFactorial n / (natFactorial k * natFactorial (n - k))

/-- The number of choices, for numbers and expressions. -/
def binomial (n k : Expression) : Expression :=
  let unchanged : Expression := .compound (.known "binomial") [n, k]
  if (difference n k).isZero then .number 1
  else
    match n, k.integer? with
    | n, some (.ofNat k) =>
        match n.integer?, n with
        | some (.ofNat n), _ => if n ≤ factorialLimit then .int (choices n k) else unchanged
        | some n, _ =>
            let size := (-n + (k : Int) - 1).toNat
            if size ≤ factorialLimit then
              .int (if k % 2 = 0 then choices size k else -(choices size k : Int))
            else unchanged
        | none, .number q =>
            if k ≤ factorialLimit then
              .number ((List.range k).foldl (fun (total : Rat) (i : Nat) =>
                total * (q - i) / (i + 1 : Nat)) 1)
            else unchanged
        | none, n => if k = 0 then .number 1 else if k = 1 then n else unchanged
    | _, some _ => .number 0
    | _, none => unchanged

/-- A sequence in which every number is the sum of the two before. -/
def summing (first second : Nat) : Nat → Nat
  | 0 => first
  | n + 1 => summing second (first + second) n

/-- The greatest place in a sequence that is calculated. -/
def placeLimit : Nat := 2000

def groupings (n : Nat) : Nat := ((List.range n).foldl (fun row _ => next row) [1]).headD 1
where
  next (row : List Nat) : List Nat :=
    row.foldl (fun grown k => grown ++ [grown.getLastD 0 + k]) [row.getLastD 1]

def divisors (n : Nat) : List Nat := (List.range' 1 n).filter fun d => n % d = 0

/-- The greatest number whose divisors are looked for. -/
def divisorLimit : Nat := 1000000

/-- A sequence in which every number is the sum of the three before. -/
def tripled (first second third : Nat) : Nat → Nat
  | 0 => first
  | n + 1 => tripled second third (first + second + third) n

/-- The number of ways to write a number as a sum, by the greatest summand. -/
def partitions (n : Nat) : Nat :=
  let row := (List.range' 1 n).foldl (fun (counts : Array Nat) summand =>
    (List.range' summand (n + 1 - summand)).foldl (fun (counts : Array Nat) total =>
      counts.setIfInBounds total (counts.getD total 0 + counts.getD (total - summand) 0))
      counts) ((Array.replicate (n + 1) 0).setIfInBounds 0 1)
  row.getD n 0

/-- The number of ways to draw chords that do not meet between points on a circle. -/
def motzkin (n : Nat) : Nat :=
  ((List.range (n / 2 + 1)).map fun k =>
    choices n (2 * k) * (choices (2 * k) k / (k + 1))).foldl (· + ·) 0

/-- The number of orders of some things that go up and down in turn. -/
def zigzag (n : Nat) : Nat := ((List.range n).foldl (fun row _ => next row) [1]).getLastD 1
where
  /-- The next row of the triangle, which is added up from the other side. -/
  next (row : List Nat) : List Nat :=
    row.reverse.foldl (fun grown k => grown ++ [grown.getLastD 0 + k]) [0]

/-- The least exponent at which all powers are one, for the power of a prime number. -/
def unitOrder (p count : Nat) : Nat :=
  let size := Nat.pow p (count - 1) * (p - 1)
  if p = 2 ∧ 2 < count then size / 2 else size

def sequence? (name : String) (n : Nat) : Option Rat :=
  let small (x : Nat) : Option Rat := if n ≤ placeLimit then some (x : Nat) else none
  let primes := factors n
  match name with
  | "fibonacci" => if n ≤ placeLimit then small (summing 0 1 n) else none
  | "lucas" => if n ≤ placeLimit then small (summing 2 1 n) else none
  | "catalan" => if n ≤ placeLimit / 2 then small (choices (2 * n) n / (n + 1)) else none
  | "bell" => if n ≤ 200 then small (groupings n) else none
  | "partition" => if n ≤ 500 then small (partitions n) else none
  | "motzkin" => if n ≤ 500 then small (motzkin n) else none
  | "tribonacci" => if n ≤ placeLimit then small (tripled 0 1 1 n) else none
  | "andre" => if n ≤ 200 then small (zigzag n) else none
  | "euler" =>
      if 200 < n then none
      else if n % 2 = 1 then some 0
      else some ((if n % 4 = 0 then 1 else -1) * (zigzag n : Nat))
  | "primepi" =>
      if divisorLimit < n then none
      else small ((List.range (n + 1)).filter fun k => 1 < k && factors k = [(k, 1)]).length
  | "reduced_totient" =>
      if n = 0 ∨ divisorLimit < n then none
      else small (primes.foldl (fun total (p, k) => Nat.lcm total (unitOrder p k)) 1)
  | "harmonic" =>
      if n ≤ placeLimit then some ((List.range n).foldl (fun h k => h + 1 / (k + 1 : Nat)) 0)
      else none
  | "totient" =>
      if n = 0 ∨ divisorLimit < n then none
      else some ((primes.foldl (fun total (p, _) => total / p * (p - 1)) n : Nat))
  | "primenu" => if n = 0 ∨ divisorLimit < n then none else some ((primes.length : Nat))
  | "primeomega" =>
      if n = 0 ∨ divisorLimit < n then none
      else some ((primes.foldl (fun total (_, k) => total + k) 0 : Nat))
  | "mobius" =>
      if n = 0 ∨ divisorLimit < n then none
      else if primes.any fun p => 1 < p.2 then some 0
      else some (if primes.length % 2 = 0 then 1 else -1)
  | "divisor_sigma" =>
      if n = 0 ∨ divisorLimit < n then none
      else some ((primes.foldl (fun total (p, k) =>
        total * ((Nat.pow p (k + 1) - 1) / (p - 1))) 1 : Nat))
  | _ => none

def sequenceAt (name : String) (e : Expression) : Expression :=
  match e.integer? with
  | some (.ofNat n) => (sequence? name n).elim (stands name e) .number
  | _ => stands name e

/-- The first Bernoulli numbers, as many as are asked for, where that with the place one
is positive. -/
def bernoulliNumbers (count : Nat) : List Rat :=
  (List.range count).foldl (fun known n =>
    let total := ((List.range n).zip known).foldl (fun total (k, b) =>
      total + (choices (n + 1) k : Nat) * b) 0
    known ++ [if n = 0 then 1 else if n = 1 then 1 / 2
      else -(total - corrected n known) / (n + 1 : Nat)]) []
where
  /-- What the place one adds to the sum, where its sign is the other one. -/
  corrected (n : Nat) (known : List Rat) : Rat :=
    if 1 < n then 2 * (choices (n + 1) 1 : Nat) * known.getD 1 0 else 0

def bernoulliNumber (n : Nat) : Rat := (bernoulliNumbers (n + 1)).getD n 0

def bernoulli (e : Expression) : Expression :=
  match e.integer? with
  | some (.ofNat n) => if n ≤ 300 then .number (bernoulliNumber n) else stands "bernoulli" e
  | _ => stands "bernoulli" e

/-- The zeta function, which is known at even and at negative numbers. -/
def zeta (e : Expression) : Expression :=
  match e, e.integer? with
  | .constant .infinity, _ => .number 1
  | .constant .undefined, _ => e
  | _, some (.ofNat n) =>
      if n = 0 then .number (-1 / 2)
      else if n = 1 then .constant .complexInfinity
      else if n % 2 = 0 ∧ n ≤ 100 then
        let scale := (bernoulliNumber n).abs * (Nat.pow 2 (n - 1) : Nat) / natFactorial n
        product [.number scale, power (.constant .pi) (.int n)]
      else stands "zeta" e
  | _, some n =>
      if n.natAbs ≤ 100 then .number (-(bernoulliNumber (n.natAbs + 1)) / (n.natAbs + 1 : Nat))
      else stands "zeta" e
  | e, none => stands "zeta" e

end Clausal.Expression
