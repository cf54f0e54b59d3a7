import Clausal.Expression.Order

/-!
# The plain text of expressions

Sums, products and powers are written with signs and with no more brackets than
needed; what binds at most as tightly as its surroundings stands in brackets. A
product is a fraction if some of its factors are reciprocals. An approximate
number by itself has all its digits, and as a part of an expression it loses the
zeros at its end.
-/

namespace Clausal

def Comparison.sign : Comparison → String
  | .eq => "=="
  | .ne => "!="
  | .lt => "<"
  | .le => "<="
  | .gt => ">"
  | .ge => ">="

namespace Expression

def disjunctionLevel : Nat := 20

def equivalenceLevel : Nat := 10

def exclusiveLevel : Nat := 37

def conjunctionLevel : Nat := 30

def comparisonLevel : Nat := 35

/-- How tightly operands of a disjunction have to bind. -/
def disjunctLevel : Nat := 36

/-- How tightly operands of a conjunction have to bind. -/
def conjunctLevel : Nat := 38

def sumLevel : Nat := 40

def productLevel : Nat := 50

def powerLevel : Nat := 60

def applicationLevel : Nat := 70

def negationLevel : Nat := 100

/-- How tightly anything binds that is never put into brackets. -/
def tightLevel : Nat := 1000

/-- A number less than zero. -/
def isNegativeNumber : Expression → Bool
  | .number q => q < 0
  | .approximate x => x.value < 0
  | .constant .negativeInfinity => true
  | _ => false

/-- A negative number or a product with a negative number. -/
def isNegative : Expression → Bool
  | .compound .product (e :: _) => e.isNegativeNumber
  | e => e.isNegativeNumber

/-- How tightly an expression binds. -/
def level (e : Expression) : Nat :=
  match e with
  | .number q =>
      if q < 0 then sumLevel else if q.den = 1 then tightLevel else productLevel
  | .approximate x => if x.value < 0 then sumLevel else tightLevel
  | .constant .negativeInfinity => sumLevel
  | .compound .or _ => disjunctionLevel
  | .compound .and _ => conjunctionLevel
  | .compound (.comparison .eq) _ => productLevel
  | .compound (.comparison .ne) _ => productLevel
  | .compound (.comparison _) _ => comparisonLevel
  | .compound .sum _ => sumLevel
  | .compound .product _ => if e.isNegative then sumLevel else productLevel
  | .compound .power _ => powerLevel
  | .compound .implies _ => equivalenceLevel
  | .compound (.known "Xor") _ => equivalenceLevel
  | .compound (.known "Equivalent") _ => equivalenceLevel
  | .compound (.known "ITE") _ => tightLevel
  | .compound (.known "Lambda") _ => tightLevel
  | .compound (.known _) _ => applicationLevel
  | .app _ _ => applicationLevel
  | _ => tightLevel

/-- An expression with the other sign, as far as it shows a sign. -/
def opposite : Expression → Expression
  | .number q => .number (-q)
  | .approximate x => .approximate x.opposite
  | .compound .product (.number q :: rest) =>
      if q = -1 then
        match rest with
        | [e] => e
        | rest => .compound .product rest
      else .compound .product (.number (-q) :: rest)
  | .compound .product (.approximate x :: rest) =>
      .compound .product (.approximate x.opposite :: rest)
  | .constant .infinity => .constant .negativeInfinity
  | .constant .negativeInfinity => .constant .infinity
  | .compound .product parts => .compound .product (.number (-1) :: parts)
  | e => .compound .product [.number (-1), e]

/-- A factor above or below the line of a fraction: on which side it stands, what
stands there, and whether it needs brackets in any case. -/
structure Side where
  below : Bool
  factor : Expression
  bracketed : Bool

/-- A product or a power, which is ambiguous below a line. -/
def isBundle : Expression → Bool
  | .compound .product _ => true
  | .compound .power _ => true
  | _ => false

/-- The sides on which a factor of a product is written. -/
def sides (e : Expression) : List Side :=
  match e with
  | .number q =>
      (if q.num = 1 then [] else [⟨false, .number q.num, false⟩]) ++
        (if q.den = 1 then [] else [⟨true, .number q.den, false⟩])
  | .compound .power [base, exponent] =>
      if exponent.isNegative then
        if exponent = .number (-1) then [⟨true, base, base.isBundle⟩]
        else [⟨true, .compound .power [base, exponent.opposite], false⟩]
      else [⟨false, e, false⟩]
  | e => [⟨false, e, false⟩]

def bracketed (s : String) : String := "(" ++ s ++ ")"

/-- The sign in front of a written term and the rest of it. -/
def splitSign (s : String) : String × String :=
  match s.toList with
  | '-' :: rest => ("-", String.ofList rest)
  | _ => ("+", s)

/-- Terms, each with its sign, joined to a sum. -/
def joinTerms : List (String × String) → String
  | [] => ""
  | (sign, term) :: rest =>
      (if sign = "+" then "" else sign) ++ term ++
        String.join (rest.map fun (sign, term) => " " ++ sign ++ " " ++ term)

/-- The text of a group of one kind of brackets. -/
def tupleText (parts : List String) : String :=
  match parts with
  | [part] => "(" ++ part ++ ",)"
  | parts => bracketed (String.intercalate ", " parts)

/-- The text of a leaf inside an expression. -/
def leafText : Leaf → String
  | .number q => if q.den = 1 then Int.repr q.num else Int.repr q.num ++ "/" ++ Nat.repr q.den
  | .approximate x => x.strippedText
  | .truth b => if b then "True" else "False"
  | .constant c => c.label
  | .domain name => name
  | .function name => name
  | .functor name => name
  | .family path => familyName path
  | .nothing => "None"

def fractionText (above below : List String) : String :=
  let above := String.intercalate "*" (if above.isEmpty then ["1"] else above)
  match below with
  | [] => above
  | [e] => above ++ "/" ++ e
  | es => above ++ "/" ++ bracketed (String.intercalate "*" es)

def tableText : List String → List String
  | key :: value :: rest => (key ++ ": " ++ value) :: tableText rest
  | _ => []

/-- A comparison with the negative infinite number on its right side, once its sides
are in order. Conjunctions are written with it at the front. -/
def isAboveNegativeInfinity : Expression → Bool
  | .compound (.comparison _) [d, e] =>
      (e = .constant .negativeInfinity && !d.isNegative) ||
        (d = .constant .negativeInfinity && !e.isNegative) ||
        (e = .constant .infinity && d.isNegative) || (d = .constant .infinity && e.isNegative)
  | _ => false

/-- A variable with its bounds or its number, as it is written. A variable alone and a
single derivative need no brackets. -/
def writtenRange : Expression → Expression
  | .compound .tuple [x] => x
  | .compound .tuple [x, .number 1] => x
  | e => e

/-- A group of one expression as the expression. -/
def withoutGroup : Expression → Expression
  | .compound .tuple [e] => e
  | e => e

/-- The kinds of expressions that run over variables. -/
def rangedKinds : List String := ["Derivative", "Integral", "Sum", "Product"]

def isInfinite (e : Expression) : Bool :=
  e = .constant .infinity || e = .constant .negativeInfinity

/-- How the text of an interval tells which of its ends are open. Infinite ends are open
in any case. -/
def intervalMark (low high : Expression) (lowOpen highOpen : Bool) : String :=
  let lowOpen := lowOpen && !low.isInfinite
  let highOpen := highOpen && !high.isInfinite
  if (low.isInfinite && !highOpen) || (high.isInfinite && !lowOpen) then ""
  else
    match lowOpen || low.isInfinite, highOpen || high.isInfinite with
    | false, false => ""
    | true, true => ".open"
    | true, false => ".Lopen"
    | false, true => ".Ropen"

/-- A text with blanks in front of it up to a width. -/
def aligned (width : Nat) (s : String) : String :=
  String.ofList (List.replicate (width - s.length) ' ') ++ s

/-- The text of a matrix from the texts of its entries. All entries of a column have the
same width. -/
def matrixText (rows : List (List String)) : String :=
  let width (j : Nat) : Nat := rows.foldl (fun w row => max w (row.getD j "").length) 0
  let lines := rows.map fun row =>
    "[" ++ ", ".intercalate (row.zipIdx.map fun (s, j) => aligned (width j) s) ++ "]"
  match lines with
  | [line] => "Matrix([" ++ line ++ "])"
  | lines => "Matrix([\n" ++ ",\n".intercalate lines ++ "])"

/-- The terms of a polynomial with its coefficients, that of the constant term first, each
with its sign. The term with the highest power is the first one. -/
def polynomialTerms (write : Expression → String) (raise : Nat → String) (sign : String)
    (x : Expression) (coefficients : List Expression) : List (String × String) :=
  let term (c : Expression) (n : Nat) : String × String :=
    let power := if n = 0 then "" else write x ++ (if n = 1 then "" else raise n)
    if n ≠ 0 ∧ c = .number 1 then ("+", power)
    else if n ≠ 0 ∧ c = .number (-1) then ("-", power)
    else
      let s := write c ++ (if n = 0 then "" else sign ++ power)
      match s.toList with
      | '-' :: rest => ("-", String.ofList rest)
      | _ => ("+", s)
  let terms := (coefficients.zipIdx.filter fun c => c.1 ≠ .number 0).map fun (c, n) => term c n
  if terms.isEmpty then [("+", "0")] else terms.reverse

def joinPolynomial : List (String × String) → String
  | [] => ""
  | (sign, first) :: rest =>
      (if sign = "-" then "-" else "") ++ first ++
        String.join (rest.map fun (sign, s) => " " ++ sign ++ " " ++ s)

/-- The text of an expression inside an expression. The fuel bounds the number of
nested expressions. -/
def writeWithin : (fuel : Nat) → Expression → String
  | 0, _ => ""
  | fuel + 1, e =>
      let write := writeWithin fuel
      let enclose (limit : Nat) (part : Expression) : String :=
        if part.level ≤ limit then bracketed (write part) else write part
      match e with
      | .sym name => name
      | .app name args => name ++ bracketed (String.intercalate ", " (args.map write))
      | .leaf value => leafText value
      | .compound .tuple parts => tupleText (parts.map write)
      | .compound .list parts => "[" ++ String.intercalate ", " (parts.map write) ++ "]"
      | .compound .set parts =>
          "\x7b" ++ String.intercalate ", " ((ordered parts).map write) ++ "\x7d"
      | .compound .table parts =>
          "\x7b" ++ String.intercalate ", " (tableText (parts.map write)) ++ "\x7d"
      | .compound .and parts =>
          let (front, rest) := parts.partition isAboveNegativeInfinity
          String.intercalate " & " ((front.reverse ++ rest).map (enclose conjunctLevel))
      | .compound .or parts => String.intercalate " | " (parts.map (enclose disjunctLevel))
      | .compound .not parts => "~" ++ String.join (parts.map (enclose negationLevel))
      | .compound (.comparison .eq) parts =>
          "Eq" ++ bracketed (String.intercalate ", " (parts.map write))
      | .compound (.comparison .ne) parts =>
          "Ne" ++ bracketed (String.intercalate ", " (parts.map write))
      | .compound (.comparison c) parts =>
          String.intercalate (" " ++ c.sign ++ " ") (parts.map (enclose comparisonLevel))
      | .compound .sum parts =>
          joinTerms ((orderedTerms parts).map fun term =>
            let (sign, text) := splitSign (write term)
            (sign, if term.level < sumLevel then bracketed text else text))
      | .compound .product _ =>
          let negative := e.isNegative
          let factors :=
            match (if negative then e.opposite else e) with
            | .compound .product parts => ordered parts
            | factor => [factor]
          let limit := e.level
          let texts := (factors.flatMap sides).map fun side =>
            (side.below,
              if side.bracketed then bracketed (write side.factor)
              else enclose limit side.factor)
          let pick (below : Bool) : List String :=
            (texts.filter fun t => t.1 == below).map Prod.snd
          (if negative then "-" else "") ++ fractionText (pick false) (pick true)
      | .compound .power [base, exponent] =>
          if exponent = .number (1 / 2) then "sqrt" ++ bracketed (write base)
          else if exponent = .number (-1 / 2) then "1/sqrt" ++ bracketed (write base)
          else if exponent = .number (-1) then "1/" ++ enclose powerLevel base
          else enclose powerLevel base ++ "**" ++ enclose powerLevel exponent
      | .compound (.known "Xor") parts =>
          String.intercalate " ^ " (parts.map (enclose exclusiveLevel))
      | .compound (.known "Lambda") [.compound .tuple [name], e] =>
          "Lambda" ++ bracketed (write name ++ ", " ++ write e)
      | .compound (.known "Subs") parts =>
          "Subs" ++ bracketed (", ".intercalate (parts.map fun e => write e.withoutGroup))
      | .compound (.known "Limit") [e, x, point, side] =>
          "Limit" ++ bracketed (", ".intercalate ([e, x, point].map write ++
            ["dir='" ++ write side ++ "'"]))
      | .compound (.known "Interval") [low, high, .truth lowOpen, .truth highOpen] =>
          "Interval" ++ intervalMark low high lowOpen highOpen ++
            bracketed (write low ++ ", " ++ write high)
      | .compound (.known "ImmutableDenseMatrix") rows =>
          matrixText (rows.map fun row => row.parts.map write)
      | .compound (.known "Order") [e] => "O" ++ bracketed (write e)
      | .compound (.known "Dummy") [.sym name] => "_" ++ name
      | .compound (.known "Wild") [.sym name] => name ++ "_"
      | .compound (.known "Poly") [.compound .tuple coefficients, x, .leaf (.domain domain)] =>
          let terms := polynomialTerms write (fun n => "**" ++ Nat.repr n) "*" x coefficients
          "Poly" ++ bracketed (joinPolynomial terms ++ ", " ++ write x ++
            ", domain='" ++ domain ++ "'")
      | .compound (.known kind) parts =>
          kind ++ bracketed (", ".intercalate (parts.map fun e =>
            write (if rangedKinds.contains kind then e.writtenRange else e)))
      | .compound shape parts =>
          shape.kind ++ bracketed (String.intercalate ", " (parts.map write))

/-- The text of an expression inside another one. -/
def innerText (e : Expression) : String := writeWithin (e.weight + 2) e

def text : Expression → String
  | .approximate x => x.paddedText
  | e => e.innerText

end Expression

end Clausal
