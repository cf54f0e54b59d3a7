import Clausal.Expression.Ancestry
import Clausal.Expression.Latex
import Clausal.Expression.Prime
import Clausal.Worksheet.Calculation
import Clausal.Worksheet.Method
import Clausal.Worksheet.SymbolNames

/-!
# Known procedures

A procedure takes values of any kind. Some ask about values, some compute with numbers and
texts, and some look at the kinds of values; all others take expressions.
-/

namespace Clausal.Worksheet

namespace Procedure

def kinds? : Value → Option (List String)
  | .expression (.leaf (.function name)) => some [name]
  | .expression (.leaf (.family path)) => some [bareName path]
  | .procedure name "type" => some [name]
  | .tuple items => (items.mapM kindOf?).map List.flatten
  | _ => none
where
  kindOf? : Value → Option (List String)
    | .expression (.leaf (.function name)) => some [name]
    | .expression (.leaf (.family path)) => some [bareName path]
    | .procedure name "type" => some [name]
    | _ => none

/-- A value is of one of some kinds. -/
def isOfKind (kinds : List String) : Value → Bool
  | .expression (.leaf (.function _)) => kinds.contains "FunctionClass"
  | .expression e => kinds.any e.isOfKind
  | _ => false

def isApplicable : Value → Bool
  | .expression (.leaf (.function _)) => true
  | .expression (.leaf (.functor _)) => true
  | .expression (.leaf (.family _)) => true
  | .expression (.compound (.known "Lambda") _) => true
  | .procedure _ path =>
      ["function", "builtin_function_or_method", "type", registerClass].contains path
  | .method _ _ => true
  | _ => false

/-- Whether all, or any, items of a value count as something. The first that decides is
the last that is looked at. -/
def quantified (every : Bool) : List Value → Except Fault Value
  | [] => .ok (.ofBool every)
  | v :: vs => do
      if (← v.holds) = every then quantified every vs else .ok (.ofBool !every)

def inSystem (mark : String) (base : Nat) (n : Int) : String :=
  (if n < 0 then "-0" else "0") ++ mark ++ String.ofList (Nat.toDigits base n.natAbs)

def whole (v : Value) : Except Fault Int :=
  v.integer?.elim (.error (.notIndex v.kind)) .ok

def character (n : Int) : Except Fault Value :=
  if n < 0 ∨ 0x110000 ≤ n then .error .noCharacter
  else .ok (.ofText (Char.ofNat n.toNat).toString)

def characterNumber : Value → Except Fault Value
  | .scalar (.text s) =>
      match s.toList with
      | [c] => .ok (.ofNat c.toNat)
      | cs => .error (.notCharacter cs.length)
  | v => .error (.notCharacterText v.kind)

/-- The whole part of a quotient, and the rest of the division. -/
def divided (v w : Value) : Except Fault Value :=
  match v.quantity?, w.quantity? with
  | some d, some e =>
      if e = .number 0 then
        .error (.dividedByZero (if d.integer?.isSome then .quotient else .residue))
      else do
        let quotient ← Value.calculated "//" d e
        let rest ← Value.calculated "%" d e
        .ok (.tuple [quotient, rest])
  | _, _ => .error (.notJoined "divmod()" v.kind w.kind)

/-- The rest of a power in a division, by squares. -/
def restOfPower (b divisor : Int) (n : Nat) : Int :=
  if n = 0 then (1 : Int).fmod divisor
  else
    let half := restOfPower b divisor (n / 2)
    let square := (half * half).fmod divisor
    if n % 2 = 1 then (square * b).fmod divisor else square
termination_by n
decreasing_by omega

/-- The factor of the first number in the greatest common divisor of two numbers. The fuel bounds
the number of divisions. -/
def divisorFactor : (fuel : Nat) → (a b : Int) → Int × Int
  | 0, _, _ => (1, 0)
  | fuel + 1, a, b =>
      if b = 0 then (1, 0)
      else
        let (s, t) := divisorFactor fuel b (a.emod b)
        (t, s - a.ediv b * t)

def inverseAmong (a n : Int) : Except Fault Int :=
  let rest := a.emod n
  if Int.gcd rest n ≠ 1 then .error (.noInverse a n)
  else .ok ((divisorFactor n.natAbs rest n.natAbs).1.emod n)

/-- A power, of which only the rest of a division is kept if a divisor is given. -/
def raised (base exponent : Value) (divisor? : Option Value) : Except Fault Value :=
  match divisor? with
  | none => Value.combined "**" base exponent
  | some divisor =>
      match base.integer?, exponent.integer?, divisor.integer? with
      | some b, some n, some m =>
          let rest := restOfPower b m n.natAbs
          if m = 0 then .error .inapplicable
          else if 0 ≤ n then .ok (.expression (.int rest))
          else (inverseAmong rest m).map fun inverse => .expression (.int inverse)
      | _, _, _ => .error .inapplicable

/-- A value rounded to a place after the point. -/
def rounded (v : Value) (place? : Option Value) : Except Fault Value :=
  match v with
  | .expression e =>
      if !e.isQuantity then .error .inapplicable
      else if e.isOpen then .error .notRounded
      else
        match place?, place?.bind Value.integer? with
        | none, _ => Method.given (e.roundedAt? none)
        | some (.scalar .null), _ => Method.given (e.roundedAt? none)
        | some _, some place => Method.given (e.roundedAt? (some place))
        | some _, none => .error .inapplicable
  | .scalar (.int n) => .ok (.scalar (.int n))
  | .scalar (.truth b) => .ok (.scalar (.int (if b then 1 else 0)))
  | _ => .error .inapplicable

/-- The sum of values from a start on. A text is no start. -/
def total (start : Value) (items : List Value) : Except Fault Value :=
  items.foldlM (Value.combined "+") start

/-- Whether a value comes before another one. -/
def precedes (v w : Value) : Except Fault Bool := do
  let answer ← Value.compared "<" v w
  answer.holds

/-- A list in order with one more value, after those that it does not precede. -/
def inserted (v : Value) : List Value → Except Fault (List Value)
  | [] => .ok [v]
  | w :: ws => do
      if ← precedes v w then .ok (v :: w :: ws)
      else
        let rest ← inserted v ws
        .ok (w :: rest)

def sorted (items : List Value) : Except Fault Value := do
  let ordered ← items.foldlM (fun done v => inserted v done) []
  .ok (.list ordered)

/-- The natural number that a value is, for a function of whole numbers. -/
def natural? (v : Value) : Option Nat :=
  match v.integer? with
  | some (.ofNat n) => some n
  | _ => none

/-- A value or no value for numbers that are too large. -/
def found (n? : Option Nat) : Except Fault Value :=
  n?.elim (.error .inapplicable) fun n => .ok (.ofNat n)

def numberTable (entries : List (Int × Nat)) : Value :=
  .expression (Value.tableOf (entries.map fun (n, count) => (.int n, .int count)))

def factorTable (n : Int) : Except Fault Value :=
  if n = 0 then .ok (numberTable [(0, 1)])
  else
    match Expression.primeFactors? n.natAbs with
    | none => .error .inapplicable
    | some parts =>
        let parts : List (Int × Nat) := parts.map fun (p, count) => (p, count)
        .ok (numberTable (if n < 0 then (-1, 1) :: parts else parts))

/-- A function of one whole number. -/
def ofNumber? (name : String) (v : Value) : Option (Except Fault Value) :=
  match name, v.integer? with
  | "isprime", some n => some (.ok (.ofBool (0 < n && Expression.isPrimeNumber n.toNat)))
  | "isprime", none => some (v.refuse .notWhole)
  | "factorint", some n => some (factorTable n)
  | "factorint", none => some (v.refuse .notWhole)
  | "nextprime", some n => some (found (Expression.nextPrime? n.toNat))
  | "prevprime", some n =>
      some (if n < 3 then .error .noEarlierPrime else found (Expression.previousPrime? n.toNat))
  | "prime", some n => some (found (Expression.primeAt? n.toNat))
  | "divisors", some n =>
      some (if Expression.divisorLimit < n.natAbs then .error .inapplicable
        else .ok (.list ((Expression.divisors n.natAbs).map .ofNat)))
  | "divisor_count", some n =>
      some (if Expression.divisorLimit < n.natAbs then .error .inapplicable
        else .ok (.ofNat (Expression.divisors n.natAbs).length))
  | "primefactors", some n =>
      some ((Expression.primeFactors? n.natAbs).elim (.error .inapplicable) fun parts =>
        .ok (.list (parts.map fun part => .ofNat part.1)))
  | _, _ => none

/-- The greatest common divisor, or the least common multiple, of whole numbers. -/
def sharedNumber (multiple : Bool) (values : List Value) : Except Fault Value := do
  let numbers ← values.mapM fun v =>
    match v.integer? with
    | some n => .ok n
    | none => v.refuse .notWhole
  let join (m n : Nat) : Nat := if multiple then Nat.lcm m n else Nat.gcd m n
  .ok (.ofNat ((numbers.map Int.natAbs).foldl join (if multiple then 1 else 0)))

def isAssumption (option : String × Value) : Bool :=
  questions.contains option.1 || option.1 = "commutative"

def symbolsOf (s : String) : Except Fault Value := do
  let (names, several) ← SymbolNames.ofText s
  match names, several with
  | [name], false => .ok (.ofName name)
  | names, _ => .ok (.tuple (names.map .ofName))

/-- The expression that is to vanish in an equation. -/
def vanishing : Expression → Expression
  | .compound (.comparison .eq) [d, e] => Expression.difference d e
  | e => e

/-- The solutions of an equation in a symbol. -/
def solutions? (e : Expression) (x? : Option Expression) : Option (List (Expression × Nat)) :=
  let e := vanishing e
  match x?, e.symbols with
  | some x, _ => Expression.roots? x e
  | none, [x] => Expression.roots? x e
  | none, _ => none

/-- What is made of the solutions of an equation: a list of them, a set, or a table with
how often they occur. -/
def solved? (name : String) (e : Expression) (x? : Option Expression) : Option Value :=
  match name with
  | "solve" => (solutions? e x?).map fun roots =>
      .list ((Expression.orderedBySize (roots.map Prod.fst)).map .expression)
  | "solveset" => (solutions? e x?).map fun roots =>
      .expression (Expression.setOf (roots.map Prod.fst))
  | "roots" => (solutions? e x?).map fun roots =>
      .expression (Value.tableOf (roots.map fun (root, count) => (root, .int count)))
  | _ => none

/-- Integers below this bound stand for themselves in a table. -/
def hashLimit : Nat := 2305843009213693951

def moduleNames : List String := ["os", "sys", "math", "re", "json", "random", "time", "sympy"]

def passageKind? : Value → Option String
  | .list _ => some "list_iterator"
  | .tuple _ => some "tuple_iterator"
  | .set _ => some "set_iterator"
  | .record _ => some "dict_keyiterator"
  | .expression (.compound .tuple _) => some "tuple_iterator"
  | _ => none

def ofValues? (name : String) (args : List Value) : Option (Except Fault Value) :=
  match name, args with
  | "all", [v] => some (v.items >>= quantified true)
  | "any", [v] => some (v.items >>= quantified false)
  | "callable", [v] => some (.ok (.ofBool (isApplicable v)))
  | "isinstance", [v, kinds] => some (match kinds? kinds with
      | some kinds => .ok (.ofBool (isOfKind kinds v))
      | none => .error .notClass)
  | "getattr", [v, .scalar (.text name)] => some (v.memberOf name)
  | "getattr", [v, .scalar (.text name), instead] => some (match v.memberOf name with
      | .error (.noAttribute _ _) => .ok instead
      | result => result)
  | "hasattr", [v, .scalar (.text name)] => some (match v.memberOf name with
      | .ok _ => .ok (.ofBool true)
      | .error (.noAttribute _ _) => .ok (.ofBool false)
      | .error e => .error e)
  | "bin", [v] => some ((whole v).map fun n => .ofText (inSystem "b" 2 n))
  | "oct", [v] => some ((whole v).map fun n => .ofText (inSystem "o" 8 n))
  | "hex", [v] => some ((whole v).map fun n => .ofText (inSystem "x" 16 n))
  | "chr", [v] => some (whole v >>= character)
  | "ord", [v] => some (characterNumber v)
  | "divmod", [v, w] => some (divided v w)
  | "pow", [v, w] => some (raised v w none)
  | "pow", [v, w, m] => some (raised v w (some m))
  | "round", [v] => some (rounded v none)
  | "round", [v, place] => some (rounded v (some place))
  | "sum", [v] => some (v.items >>= total (.ofNat 0))
  | "sum", [v, start] => some (v.items >>= total start)
  | "sorted", [v] => some (v.items >>= sorted)
  | "repr", [v] => some (v.shown.map .ofText)
  | "ascii", [v] => some (v.shown.map .ofText)
  | "format", [v] => some (match v with
      | .scalar (.text s) => .ok (.ofText s)
      | v => v.shown.map .ofText)
  | "iter", [v] => some (match passageKind? v, v.items? with
      | some kind, _ => .ok (.thing kind)
      | none, some _ => .error .inapplicable
      | none, none => .error (.noItems v.kind))
  | "symbols", [.scalar (.text s)] => some (symbolsOf s)
  | "var", [.scalar (.text s)] => some (symbolsOf s)
  | "igcd", v :: w :: vs => some (sharedNumber false (v :: w :: vs))
  | "ilcm", v :: w :: vs => some (sharedNumber true (v :: w :: vs))
  | "prod", [v] => some (v.items >>= fun items =>
      items.foldlM (Value.combined "*") (.ofNat 1))
  | "limit", [.expression e, .expression x, .expression point, .scalar (.text side)] =>
      if ["+", "-"].contains side then
        some (Method.given (Expression.limit? e x point (side = "-")))
      else none
  | "print", _ => some (.ok (.scalar .null))
  | "hash", [v] =>
      match v.integer? with
      | some n => if n.natAbs < hashLimit && n ≠ -1 then some (.ok (.scalar (.int n))) else none
      | none => none
  | "Limit", [.expression e, .expression x, .expression point, .scalar (.text side)] =>
      if ["+", "-", "+-"].contains side then
        some (.ok (.expression (.compound (.known "Limit") [e, x, point, .sym side])))
      else none
  | "Dict", [.expression (.compound .table parts)] =>
      some (.ok (.expression (.compound .table parts)))
  | "latex", [.expression e] => some ((e.latex?.mapError .misfit).map .ofText)
  | "sstr", [v] => some (v.shown.map .ofText)
  | "__import__", [.scalar (.text s)] =>
      if moduleNames.contains s then some (.ok (.thing "module")) else none
  | "abs", [v] =>
      match v.quantity? with
      | some _ => none
      | none => some (.error (.badOperand "abs" v.kind))
  | name, [v] => ofNumber? name v
  | _, _ => none

/-- A procedure on expressions whose result may be no expression. -/
def ofExpressions? (name : String) (args : List Expression) : Option Value :=
  match name, args with
  | name, [e] => (solved? name e none).or
      (if name = "fraction" then
        some (.tuple (Value.ofExpressions [(Expression.aboveAndBelow e).1,
          (Expression.aboveAndBelow e).2]))
      else none)
  | name, [e, x] => solved? name e (some x)
  | _, _ => none

end Procedure

end Clausal.Worksheet
