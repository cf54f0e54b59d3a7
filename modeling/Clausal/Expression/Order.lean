import Clausal.Expression.Magnitude

/-!
# The order of expressions

Where the order of parts does not matter, they are written and kept in fixed
orders. Both are defined by keys: trees of numbers and words that are compared
from the left to the right. The key for writing takes a power as its base with an
exponent and a product with a number as the rest with a factor; the key for
keeping goes by the kinds of the expressions first.

The terms of a sum are written by falling powers of what they are made of.
-/

namespace Clausal

/-- A key to order expressions by. -/
inductive Key where
  | number (q : Rat)
  | word (s : String)
  | row (items : List Key)

namespace Key

instance : Inhabited Key := ⟨.row []⟩

def compareNumbers (p q : Rat) : Ordering :=
  if p < q then .lt else if p = q then .eq else .gt

mutual

def order : Key → Key → Ordering
  | .number p, .number q => compareNumbers p q
  | .word s, .word t => compare s t
  | .row ks, .row ls => orderRows ks ls
  | .number _, _ => .lt
  | _, .number _ => .gt
  | .word _, .row _ => .lt
  | .row _, .word _ => .gt

/-- The order of rows of keys: the first difference decides. -/
def orderRows : List Key → List Key → Ordering
  | [], [] => .eq
  | [], _ :: _ => .lt
  | _ :: _, [] => .gt
  | k :: ks, l :: ls => (order k l).then (orderRows ks ls)

end

/-- One key does not come after the other. -/
def precedes (k l : Key) : Bool := order k l != .gt

def same (k l : Key) : Bool := order k l == .eq

def counted (items : List Key) : Key := .row [.number items.length, .row items]

end Key

namespace Expression

/-- What the order of writing asks of an expression: its family and its operands,
its key, and as a factor the number and the powers that it is a product of. The
number has a real and an imaginary part. -/
structure Profile where
  family : Key
  operands : Key
  key : Key
  coefficient : Rat × Rat
  powers : List (Key × Int)

def familyKey (rank subrank : Rat) (name : String) : Key :=
  .row [.number rank, .number subrank, .word name]

/-- The family of all numbers. -/
def numberFamily : Key := familyKey 1 0 "Number"

def numberKey (q : Rat) : Key := .row [numberFamily, Key.counted [], .row [], .number q]

def powerKey (family operands exponent : Key) (factor : Rat) : Key :=
  .row [family, operands, exponent, .number factor]

def wholeProfile (family operands : Key) : Profile :=
  let key := powerKey family operands (numberKey 1) 1
  ⟨family, operands, key, (1, 0), [(key, 1)]⟩

def numberProfile (q : Rat) : Profile :=
  ⟨numberFamily, Key.counted [], numberKey q, (q, 0), []⟩

/-- A number that is greater than any other number that is met. -/
def immense : Rat := (Nat.pow 10 400 : Nat)

/-- The value of a constant, as far as the order of terms needs it. -/
def estimate? : Constant → Option (Rat × Rat)
  | .infinity => some (immense, 0)
  | .negativeInfinity => some (-immense, 0)
  | c => c.value?

/-- The profile of a constant. Its value counts as a number, and an infinite number
is a number itself. -/
def constantProfile (c : Constant) : Profile :=
  let whole := wholeProfile (familyKey 2 0 c.kind) (Key.counted [.word c.label])
  match c, estimate? c with
  | .infinity, some (q, _) => numberProfile q
  | .negativeInfinity, some (q, _) => numberProfile q
  | _, some value => { whole with coefficient := value, powers := [] }
  | _, none => { whole with powers := [] }

def leafProfile : Leaf → Profile
  | .number q => numberProfile q
  | .approximate x => numberProfile x.value
  | .truth b => wholeProfile (familyKey 5 0 (Leaf.truth b).kind)
      (Key.counted [.word (if b then "True" else "False")])
  | .constant c => constantProfile c
  | .domain name => wholeProfile (familyKey 5 0 name) (Key.counted [])
  | .function name => wholeProfile (familyKey 0 0 "FunctionClass") (Key.counted [.word name])
  | .functor name =>
      wholeProfile (familyKey 0 0 "UndefinedFunction") (Key.counted [.word name])
  | .family path => wholeProfile (familyKey 0 0 "type") (Key.counted [.word path])
  | .nothing => wholeProfile (familyKey 0 0 "NoneType") (Key.counted [.word "None"])

/-- The places of well-known functions among all functions. -/
def functionPlaces : List (String × Nat) :=
  [("exp", 10), ("log", 11), ("sin", 20), ("cos", 21), ("tan", 22), ("cot", 23), ("sinh", 30),
    ("cosh", 31), ("tanh", 32), ("coth", 33), ("conjugate", 40), ("re", 41), ("im", 42),
    ("arg", 43)]

/-- The known functions that take any number of arguments. They stand where functions stand of
which nothing is known. -/
def openFunctions : List String := ["Piecewise", "LeviCivita"]

/-- The known kinds of expressions that are applied to arguments, but are no functions. -/
def otherKinds : List String :=
  ["Max", "Min", "Derivative", "Integral", "Sum", "Product", "Limit", "Order", "Subs", "Lambda",
    "Interval", "Union", "Range", "Poly", "ImmutableDenseMatrix", "Xor", "Equivalent", "ITE",
    "Contains"]

def functionFamily (name : String) : Key :=
  match functionPlaces.lookup name with
  | some place => familyKey 4 (place : Nat) name
  | none =>
      if otherKinds.contains name then familyKey 5 0 name
      else if name = "Dummy" ∨ name = "Wild" then familyKey 2 0 name
      else familyKey 4 (if openFunctions.contains name then 0 else 10000) name

def shapeFamily : Shape → Key
  | .sum => familyKey 3 1 Shape.sum.kind
  | .product => familyKey 3 0 Shape.product.kind
  | .power => familyKey 3 2 Shape.power.kind
  | .known function => functionFamily function
  | shape => familyKey 5 0 shape.kind

def exponentIn (powers : List (Key × Int)) (base : Key) : Int :=
  ((powers.find? fun (k, _) => k.same base).map Prod.snd).getD 0

/-- The bases of powers, each once, in the order of writing. -/
def basesOf (powers : List (Key × Int)) : List Key :=
  ((powers.map Prod.fst).mergeSort Key.precedes).eraseDupsBy Key.same

/-- The place of a term in a sum with the given bases: high powers come first,
and numbers decide last. -/
def termKey (bases : List Key) (p : Profile) : Key :=
  .row [.row (bases.map fun base => .number (-(exponentIn p.powers base : Rat))),
    .number (if p.coefficient.2 = 0 then 0 else 1), .number p.coefficient.2,
    .number p.coefficient.1]

/-- A number greater than zero. -/
def isPositiveNumber : Expression → Bool
  | .number q => 0 < q
  | .approximate x => 0 < x.value
  | .constant .pi => true
  | .constant .euler => true
  | .constant .goldenRatio => true
  | .constant .eulerGamma => true
  | .constant .catalan => true
  | .constant .tribonacci => true
  | _ => false

/-- A product of a negative number and one other factor. -/
def isNegativeMultiple : Expression → Bool
  | .compound .product [.number q, _] => q < 0
  | .compound .product [.approximate x, _] => x.value < 0
  | _ => false

/-- The terms of a sum, given with their profiles, in the order of writing. A
positive number comes before a negative multiple if there are no other terms. -/
def sortTerms (terms : List (Expression × Profile)) : List (Expression × Profile) :=
  let bases := basesOf (terms.flatMap fun t => t.2.powers)
  let sorted := terms.mergeSort fun s t => (termKey bases s.2).precedes (termKey bases t.2)
  match terms with
  | [a, b] =>
      if isPositiveNumber a.1 && isNegativeMultiple b.1 then [a, b]
      else if isPositiveNumber b.1 && isNegativeMultiple a.1 then [b, a]
      else sorted
  | _ => sorted

/-- The profile of a product with the given factors. A number with one other
factor is a multiple of that factor. -/
def productProfile (factors : List (Expression × Profile)) : Profile :=
  let ps := factors.map Prod.snd
  let operands := Key.counted ((ps.map Profile.key).mergeSort Key.precedes)
  let whole := wholeProfile (shapeFamily .product) operands
  let key :=
    match factors with
    | [(.leaf (.number q), _), (_, ⟨_, _, .row [family, operands, exponent, _], _, _⟩)] =>
        powerKey family operands exponent q
    | (.leaf (.number q), _) :: rest =>
        powerKey (shapeFamily .product)
          (Key.counted ((rest.map fun f => f.2.key).mergeSort Key.precedes)) (numberKey 1) q
    | _ => whole.key
  { whole with
    key
    coefficient := (ps.map Profile.coefficient).foldl Complex.times (1, 0)
    powers := ps.flatMap Profile.powers }

/-- The profile of a power. A root counts as a power of the root of the same degree. -/
def powerProfile (base exponent : Expression × Profile) : Profile :=
  let whole := wholeProfile (shapeFamily .power) (Key.counted [base.2.key, exponent.2.key])
  let operands :=
    match base.1 with
    | .number q => Key.counted [.word (Int.repr q.num)]
    | _ => base.2.operands
  let keyWith (exponent : Key) : Key := powerKey base.2.family operands exponent 1
  let key := keyWith exponent.2.key
  match base.1, exponent.1 with
  | _, .number e =>
      let root := if e.den = 1 then base.2.key else keyWith (numberKey (1 / (e.den : Rat)))
      { whole with key, powers := [(root, e.num)] }
  | _, _ => { whole with key, powers := [(key, 1)] }

def compoundProfile (shape : Shape) (parts : List (Expression × Profile)) : Profile :=
  match shape, parts with
  | .sum, terms =>
      wholeProfile (shapeFamily .sum) (Key.counted ((sortTerms terms).map fun t => t.2.key))
  | .product, factors => productProfile factors
  | .power, [base, exponent] => powerProfile base exponent
  | shape, parts => wholeProfile (shapeFamily shape) (Key.counted (parts.map fun t => t.2.key))

mutual

/-- What the order of writing asks of an expression. -/
def profile : Expression → Profile
  | .sym name => wholeProfile (familyKey 2 0 "Symbol") (Key.counted [.word name])
  | .app name args =>
      wholeProfile (familyKey 4 ((functionPlaces.lookup name).getD 0 : Nat) name)
        (Key.counted ((profiles args).map fun t => t.2.key))
  | .leaf value => leafProfile value
  | .compound shape parts =>
      let whole := compoundProfile shape (profiles parts)
      match complexValue? (.compound shape parts) with
      | some value => { whole with coefficient := value, powers := [] }
      | none => whole

def profiles : List Expression → List (Expression × Profile)
  | [] => []
  | e :: es => (e, e.profile) :: profiles es

end

def isOrder : Expression → Bool
  | .compound (.known "Order") _ => true
  | _ => false

/-- The terms of a sum in the order of writing. Beside an order of growth, the terms come from
the small powers to the large ones. -/
def orderedTerms (terms : List Expression) : List Expression :=
  let sorted := (sortTerms (profiles terms)).map Prod.fst
  let (orders, others) := sorted.partition isOrder
  if orders.isEmpty then sorted else others.reverse ++ orders

/-- Expressions in the order of writing. -/
def ordered (es : List Expression) : List Expression :=
  ((profiles es).mergeSort fun s t => s.2.key.precedes t.2.key).map Prod.fst

/-- Expressions in the order of writing, small ones before large ones. -/
def orderedBySize (es : List Expression) : List Expression :=
  let key (e : Expression) : Key := .row [.number e.weight, e.profile.key]
  ((es.map fun e => (e, key e)).mergeSort fun s t => s.2.precedes t.2).map Prod.fst

/-- The known set without members. -/
def emptySet : Expression := .leaf (.domain "EmptySet")

def setOf (es : List Expression) : Expression :=
  if es.isEmpty then emptySet else .compound .set (orderedBySize es.eraseDups)

def members? (e : Expression) : Option (List Expression) :=
  match e with
  | .compound .set members => some members
  | e => if e = emptySet then some [] else none

/-- The keys of a table, whose keys and values stand in turn. -/
def keysIn : List Expression → List Expression
  | key :: _ :: rest => key :: keysIn rest
  | _ => []

/-- Kinds that come before all other kinds, in order. -/
def leadingKinds : List String :=
  ["Zero", "One", "Half", "Infinity", "NaN", "NegativeOne", "NegativeInfinity", "Integer",
    "Rational", "Float", "Exp1", "Pi", "ImaginaryUnit", "Symbol", "Pow", "Mul", "Add"]

/-- The place of a kind. -/
def kindKey (kind : String) : Key :=
  let place := leadingKinds.idxOf kind
  .row [.number place, .word (if place < leadingKinds.length then "" else kind)]

mutual

/-- The key by which the parts of an expression are kept in order. -/
def storageKey : Expression → Key
  | .sym name => .row [kindKey "Symbol", Key.counted [.word name]]
  | .app name args => .row [kindKey name, Key.counted (storageKeys args)]
  | .leaf (.number q) =>
      .row [kindKey (numberKind q), Key.counted [.number q.num, .number q.den]]
  | .leaf (.approximate x) => .row [kindKey "Float", Key.counted [.number x.value]]
  | .leaf value => .row [kindKey value.kind]
  | .compound shape parts => .row [kindKey shape.kind, Key.counted (storageKeys parts)]

def storageKeys : List Expression → List Key
  | [] => []
  | e :: es => e.storageKey :: storageKeys es

end

/-- Expressions in the order of keeping. -/
def stored (es : List Expression) : List Expression :=
  ((es.map fun e => (e, e.storageKey)).mergeSort fun s t => s.2.precedes t.2).map Prod.fst

end Expression

end Clausal
