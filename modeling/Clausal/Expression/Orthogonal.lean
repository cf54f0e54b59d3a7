import Clausal.Expression.Coefficients

/-!
# Orthogonal polynomials

The families of polynomials with an index, each made from its first two by a rule for the
next one.
-/

namespace Clausal.Coefficients

/-- The polynomial at a place of a row that is made from its first two and a rule, which
takes the place before, the polynomial there and the one before that. -/
def inRow (rule : Nat → Coefficients → Coefficients → Coefficients) (first second : Coefficients) :
    Nat → Coefficients
  | 0 => first
  | n + 1 => (go n).2
where
  /-- Two neighbours of the row. -/
  go : Nat → Coefficients × Coefficients
    | 0 => (first, second)
    | n + 1 => ((go n).2, rule (n + 1) (go n).2 (go n).1)

/-- A sum of multiples of two polynomials. -/
def blend (a : Coefficients) (p : Coefficients) (b : Rat) (q : Coefficients) : Coefficients :=
  plus (times a p) (scale b q)

/-- The polynomials with an index. The rule for the next polynomial has a linear factor
for the one before and a number for the one before that. -/
def orthogonal? (name : String) (n : Nat) : Option Coefficients :=
  match name with
  | "legendre" => some (inRow (fun k p q =>
      let next : Rat := (k + 1 : Nat)
      blend [0, (2 * k + 1 : Nat) / next] p (-(k : Nat) / next) q) [1] [0, 1] n)
  | "chebyshevt" => some (inRow (fun _ p q => blend [0, 2] p (-1) q) [1] [0, 1] n)
  | "chebyshevu" => some (inRow (fun _ p q => blend [0, 2] p (-1) q) [1] [0, 2] n)
  | "hermite" => some (inRow (fun k p q => blend [0, 2] p (-(2 * k : Nat)) q) [1] [0, 2] n)
  | "hermite_prob" => some (inRow (fun k p q => blend [0, 1] p (-(k : Nat)) q) [1] [0, 1] n)
  | "laguerre" => some (inRow (fun k p q =>
      let next : Rat := (k + 1 : Nat)
      blend [(2 * k + 1 : Nat) / next, -1 / next] p (-(k : Nat) / next) q) [1] [1, -1] n)
  | _ => none

/-- The greatest index of a polynomial that is made. -/
def indexLimit : Nat := 60

end Clausal.Coefficients

namespace Clausal.Expression

def orthogonalAt? (name : String) (index e : Expression) : Option Expression :=
  match index.integer? with
  | some (.ofNat n) =>
      if Coefficients.indexLimit < n then none
      else (Coefficients.orthogonal? name n).map (ofCoefficients e)
  | _ => none

end Clausal.Expression
