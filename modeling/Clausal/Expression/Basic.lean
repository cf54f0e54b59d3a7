import Clausal.Approximation.Basic

/-!
# Expressions

Beyond the terms of first-order logic a worksheet knows expressions of other
kinds: numbers and truth values, sums, products and powers, propositions about
symbols, and groups of expressions. They may be handed to an application as
arguments, although they are no terms of the logic. Symbols and applications are
expressions too.

An expression is a tree. The shape of an inner node tells what is made of its
parts; the functions that build expressions keep their parts in a canonical
order, so that equal expressions are equal trees.
-/

namespace Clausal

/-- Numbers known by a name. -/
inductive Constant where
  | pi
  | euler
  | imaginary
  | infinity
  | negativeInfinity
  | complexInfinity
  | undefined
  | goldenRatio
  | eulerGamma
  | catalan
  | tribonacci
  deriving DecidableEq

/-- The relations between two expressions. -/
inductive Comparison where
  | eq
  | ne
  | lt
  | le
  | gt
  | ge
  deriving DecidableEq

/-- An expression without parts. -/
inductive Leaf where
  | number (q : Rat)
  | approximate (x : Approximation)
  | truth (b : Bool)
  | constant (c : Constant)
  | domain (name : String)
  | function (name : String)
  | functor (name : String)
  | family (path : String)
  /-- Nothing, in the place of a member of a group. -/
  | nothing
  deriving DecidableEq

/-- What an expression makes of its parts. -/
inductive Shape where
  | tuple
  | list
  | set
  | table
  | and
  | or
  | not
  | implies
  | comparison (c : Comparison)
  | sum
  | product
  | power
  | known (function : String)
  deriving DecidableEq

/-- An expression. -/
inductive Expression where
  | sym (name : String)
  | app (name : String) (args : List Expression)
  | leaf (value : Leaf)
  | compound (shape : Shape) (parts : List Expression)

namespace Expression

instance : Inhabited Expression := ⟨.leaf .nothing⟩

mutual

def decEq : (d e : Expression) → Decidable (d = e)
  | .sym f, .sym g => if h : f = g then .isTrue (by rw [h]) else .isFalse (by simp [h])
  | .leaf v, .leaf w => if h : v = w then .isTrue (by rw [h]) else .isFalse (by simp [h])
  | .app f ds, .app g es =>
      if h : f = g then
        match decEqList ds es with
        | .isTrue hs => .isTrue (by rw [h, hs])
        | .isFalse hs => .isFalse (by simp [hs])
      else .isFalse (by simp [h])
  | .compound f ds, .compound g es =>
      if h : f = g then
        match decEqList ds es with
        | .isTrue hs => .isTrue (by rw [h, hs])
        | .isFalse hs => .isFalse (by simp [hs])
      else .isFalse (by simp [h])
  | .sym _, .app _ _ => .isFalse (by simp)
  | .sym _, .leaf _ => .isFalse (by simp)
  | .sym _, .compound _ _ => .isFalse (by simp)
  | .app _ _, .sym _ => .isFalse (by simp)
  | .app _ _, .leaf _ => .isFalse (by simp)
  | .app _ _, .compound _ _ => .isFalse (by simp)
  | .leaf _, .sym _ => .isFalse (by simp)
  | .leaf _, .app _ _ => .isFalse (by simp)
  | .leaf _, .compound _ _ => .isFalse (by simp)
  | .compound _ _, .sym _ => .isFalse (by simp)
  | .compound _ _, .app _ _ => .isFalse (by simp)
  | .compound _ _, .leaf _ => .isFalse (by simp)

def decEqList : (ds es : List Expression) → Decidable (ds = es)
  | [], [] => .isTrue rfl
  | [], _ :: _ => .isFalse (by simp)
  | _ :: _, [] => .isFalse (by simp)
  | d :: ds, e :: es =>
      match decEq d e with
      | .isTrue h =>
          match decEqList ds es with
          | .isTrue hs => .isTrue (by rw [h, hs])
          | .isFalse hs => .isFalse (by simp [hs])
      | .isFalse h => .isFalse (by simp [h])

end

instance : DecidableEq Expression := decEq

/-- A rational number. -/
@[match_pattern] abbrev number (q : Rat) : Expression := .leaf (.number q)

def int (n : Int) : Expression := .number n

/-- An approximate number. -/
@[match_pattern] abbrev approximate (x : Approximation) : Expression := .leaf (.approximate x)

/-- A truth value. -/
@[match_pattern] abbrev truth (b : Bool) : Expression := .leaf (.truth b)

/-- A number known by a name. -/
@[match_pattern] abbrev constant (c : Constant) : Expression := .leaf (.constant c)

/-- Nothing. -/
@[match_pattern] abbrev nothing : Expression := .leaf .nothing

def integer? : Expression → Option Int
  | .number q => if q.den = 1 then some q.num else none
  | _ => none

def isNumber : Expression → Bool
  | .number _ => true
  | .approximate _ => true
  | _ => false

def ofFloating (x : Floating) : Expression := .approximate (.ofFloating x)

/-- The parts of an expression, from left to right. -/
def parts : Expression → List Expression
  | .sym _ => []
  | .app _ args => args
  | .leaf _ => []
  | .compound _ parts => parts

mutual

/-- The number of nodes of an expression, counted in halves. An approximate number
counts as half a node. -/
def weight : Expression → Nat
  | .sym _ => 2
  | .app _ args => weightAll args + 2
  | .leaf (.approximate _) => 1
  | .leaf _ => 2
  | .compound _ parts => weightAll parts + 2

/-- The number of nodes of a list of expressions, counted in halves. -/
def weightAll : List Expression → Nat
  | [] => 0
  | e :: es => e.weight + weightAll es

end

mutual

/-- The expressions without parts inside an expression, from left to right. -/
def tips : Expression → List Expression
  | .sym name => [.sym name]
  | .leaf value => [.leaf value]
  | .app name [] => [.app name []]
  | .compound shape [] => [.compound shape []]
  | .app _ (e :: es) => e.tips ++ tipsAll es
  | .compound _ (e :: es) => e.tips ++ tipsAll es

/-- The expressions without parts inside a list of expressions. -/
def tipsAll : List Expression → List Expression
  | [] => []
  | e :: es => e.tips ++ tipsAll es

end

def isSymbol : Expression → Bool
  | .sym _ => true
  | _ => false

/-- The symbols of an expression and of all its parts. -/
def symbols (e : Expression) : List Expression := (e.tips.filter isSymbol).eraseDups

mutual

/-- A symbol or an application stands somewhere inside an expression. -/
def isOpen : Expression → Bool
  | .sym _ => true
  | .app _ _ => true
  | .leaf _ => false
  | .compound _ parts => anyOpen parts

/-- A symbol or an application stands somewhere inside the expressions of a
list. -/
def anyOpen : List Expression → Bool
  | [] => false
  | e :: es => e.isOpen || anyOpen es

end

/-- The greatest number of digits of an integer that is read or written. -/
def digitLimit : Nat := 4300

/-- The least natural number with more digits. It is too great to be computed in a proof. -/
@[irreducible] def longInteger : Nat := Nat.pow 10 digitLimit

/-- A natural number has too many digits to be written. -/
def isLongInteger (n : Nat) : Bool := longInteger ≤ n

mutual

/-- An integer with too many digits stands somewhere inside an expression. -/
def holdsLongInteger : Expression → Bool
  | .sym _ => false
  | .app _ args => anyHoldsLongInteger args
  | .leaf (.number q) => isLongInteger q.num.natAbs || isLongInteger q.den
  | .leaf _ => false
  | .compound _ parts => anyHoldsLongInteger parts

/-- An integer with too many digits stands somewhere inside the expressions of a
list. -/
def anyHoldsLongInteger : List Expression → Bool
  | [] => false
  | e :: es => e.holdsLongInteger || anyHoldsLongInteger es

end

def isPlain : Expression → Bool
  | .sym _ => true
  | .app _ _ => true
  | _ => false

/-- The known functions whose values are propositions. -/
def connectives : List String := ["Xor", "Equivalent", "ITE", "Contains"]

/-- The known kinds of expressions that are neither quantities nor propositions. -/
def groupKinds : List String := ["Interval", "Union", "ImmutableDenseMatrix", "Range", "Poly"]

/-- A proposition: it can be negated and joined to others. -/
def isProposition : Expression → Bool
  | .sym _ => true
  | .truth _ => true
  | .compound .and _ => true
  | .compound .or _ => true
  | .compound .not _ => true
  | .compound .implies _ => true
  | .compound (.comparison _) _ => true
  | .compound (.known function) _ => connectives.contains function
  | _ => false

/-- A quantity: it can be added and multiplied. -/
def isQuantity : Expression → Bool
  | .sym _ => true
  | .app _ _ => true
  | .number _ => true
  | .approximate _ => true
  | .constant _ => true
  | .compound .sum _ => true
  | .compound .product _ => true
  | .compound .power _ => true
  | .compound (.known function) _ => !connectives.contains function && !groupKinds.contains function
  | _ => false

end Expression

end Clausal
