import Clausal.Expression.Arithmetic

/-!
# Matrices

A matrix is given by its rows, by one column, or by its size and its entries. Matrices of
one size are added, matrices of fitting sizes are multiplied, and a square matrix has a
determinant.
-/

namespace Clausal.Expression

def matrixKind : String := "ImmutableDenseMatrix"

namespace Matrix

def ofRows (rows : List (List Expression)) : Expression :=
  .compound (.known matrixKind) (rows.map (.compound .tuple))

def rows? : Expression → Option (List (List Expression))
  | .compound (.known "ImmutableDenseMatrix") parts => some (parts.map Expression.parts)
  | _ => none

/-- All rows have the same length. -/
def isEven : List (List Expression) → Bool
  | [] => true
  | row :: rest => rest.all fun other => other.length = row.length

/-- A list with its items in groups of a size. The fuel bounds the number of groups. -/
def grouped (size : Nat) : (fuel : Nat) → List Expression → List (List Expression)
  | 0, _ => []
  | fuel + 1, es => if es.isEmpty then [] else es.take size :: grouped size fuel (es.drop size)

/-- A matrix given by a list of rows, by one column, or by its size and its entries. -/
def made? : List Expression → Option Expression
  | [.compound .list items] =>
      let rows := items.map fun item =>
        match item with
        | .compound .list parts => parts
        | .compound .tuple parts => parts
        | e => [e]
      if items.isEmpty || !isEven rows then none else some (ofRows rows)
  | [.leaf (.number m), .leaf (.number n), .compound .list parts] =>
      if m.den = 1 ∧ n.den = 1 ∧ 0 < n ∧ (parts.length : Rat) = m * n then
        some (ofRows (grouped n.num.toNat parts.length parts))
      else none
  | _ => none

/-- The greatest number of rows of a matrix that is made by a rule. -/
def sizeLimit : Rat := 40

def ruled? (m n : Rat) (entry : Nat → Nat → Expression) : Option Expression :=
  if m.den = 1 ∧ n.den = 1 ∧ 0 < m ∧ 0 < n ∧ m ≤ sizeLimit ∧ n ≤ sizeLimit then
    some (ofRows ((List.range m.num.toNat).map fun i =>
      (List.range n.num.toNat).map fun j => entry i j))
  else none

def named? (name : String) (args : List Expression) : Option Expression :=
  match name, args with
  | "eye", [.leaf (.number n)] => ruled? n n fun i j => .number (if i = j then 1 else 0)
  | "zeros", [.leaf (.number n)] => ruled? n n fun _ _ => .number 0
  | "zeros", [.leaf (.number m), .leaf (.number n)] => ruled? m n fun _ _ => .number 0
  | "ones", [.leaf (.number n)] => ruled? n n fun _ _ => .number 1
  | "ones", [.leaf (.number m), .leaf (.number n)] => ruled? m n fun _ _ => .number 1
  | "diag", args => ruled? (args.length : Nat) (args.length : Nat) fun i j =>
      if i = j then args.getD i (.number 0) else .number 0
  | _, _ => none

def transposed (rows : List (List Expression)) : List (List Expression) :=
  (List.range (rows.headD []).length).map fun j => rows.map fun row => row.getD j (.number 0)

/-- The sum of two matrices of one size. -/
def added? (as bs : List (List Expression)) : Option Expression :=
  if as.length = bs.length ∧ (as.headD []).length = (bs.headD []).length then
    some (ofRows ((as.zip bs).map fun (a, b) => (a.zip b).map fun (d, e) => sum [d, e]))
  else none

/-- The product of two matrices of fitting sizes. -/
def multiplied? (as bs : List (List Expression)) : Option Expression :=
  if (as.headD []).length = bs.length then
    some (ofRows (as.map fun row => (transposed bs).map fun column =>
      sum ((row.zip column).map fun (d, e) => product [d, e])))
  else none

def scaledBy (c : Expression) (rows : List (List Expression)) : Expression :=
  ofRows (rows.map fun row => row.map fun e => product [c, e])

/-- The determinant of a square matrix, along its first row. The fuel is the number of
rows. -/
def determinant : (fuel : Nat) → List (List Expression) → Expression
  | 0, _ => .number 1
  | fuel + 1, row :: rest =>
      sum (row.zipIdx.map fun (e, j) =>
        let sign : Rat := if j % 2 = 0 then 1 else -1
        product [.number sign, e, determinant fuel (rest.map fun other => other.eraseIdx j)])
  | _, [] => .number 1

/-- The rows without one row, and without one column. -/
def minor (rows : List (List Expression)) (i j : Nat) : List (List Expression) :=
  (rows.eraseIdx i).map fun row => row.eraseIdx j

/-- The inverse of a square matrix whose determinant is a number other than zero. -/
def inverted? (rows : List (List Expression)) : Option Expression :=
  let size := rows.length
  if (rows.headD []).length ≠ size then none
  else
    match determinant size rows with
    | .leaf (.number q) =>
        if q = 0 then none
        else some (ofRows ((List.range size).map fun i => (List.range size).map fun j =>
          let sign : Rat := if (i + j) % 2 = 0 then 1 else -1
          product [.number (sign / q), determinant (size - 1) (minor rows j i)]))
    | _ => none

def raised? (rows : List (List Expression)) : Nat → Option Expression
  | 0 => named? "eye" [.number (rows.length : Nat)]
  | n + 1 => do
      let power ← raised? rows n
      let factors ← rows? power
      multiplied? factors rows

def trace (rows : List (List Expression)) : Expression :=
  sum (rows.zipIdx.map fun (row, i) => row.getD i (.number 0))

end Matrix

end Clausal.Expression
