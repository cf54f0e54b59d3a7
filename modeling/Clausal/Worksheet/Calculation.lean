import Clausal.Expression.Functions
import Clausal.Expression.Growth
import Clausal.Expression.Membership
import Clausal.Expression.Matrix
import Clausal.Worksheet.Same
import Clausal.Worksheet.Sequence
import Clausal.Worksheet.Sign

/-!
# Calculations with values

A sign between two values joins quantities or propositions, puts sequences after
each other or repeats them. Other signs compare values, order quantities, or look
for a value among the members of another one. Which of these a sign does depends
on the kinds of the values, and for most kinds it does nothing.
-/

namespace Clausal.Worksheet

namespace Value

/-- The quantity that a value is. Plain integers count as quantities. -/
def quantity? : Value → Option Expression
  | .expression e => if e.isQuantity then some e else none
  | .scalar (.int n) => some (.int n)
  | _ => none

/-- The result of a sign between two quantities. -/
def calculated? (sign : String) (d e : Expression) : Option Expression :=
  match sign with
  | "+" => some (Expression.sum [d, e]).settled
  | "-" => some (Expression.sum [d, e.minus.settled]).settled
  | "*" => some (Expression.product [d, e]).settled
  | "/" => some (d.quotient e).settled
  | "**" => some (d.power e).settled
  | "//" => Expression.unary? "floor" (d.quotient e)
  | "%" => if e.isZero then none else some (d.remainder e)
  | _ => none

/-- The way in which a sign divides a quantity so that zero is no divisor. -/
def division? (sign : String) (d : Expression) : Option Division :=
  match sign, d with
  | "//", .number q => if q.den = 1 then some .quotient else none
  | "%", .number q => some (if q.den = 1 then .remainder else .quotient)
  | "%", d => if d.isNumber then none else some .residue
  | _, _ => none

/-- The value of a sign between two quantities. -/
def calculated (sign : String) (d e : Expression) : Except Fault Value :=
  match (if e = .number 0 then division? sign d else none), calculated? sign d e with
  | some division, _ => .error (.dividedByZero division)
  | none, some e => .ok (.expression e)
  | none, none => .error .inapplicable

/-- What a sign between two integers makes of them, where truth values count as one
and zero. -/
def counted? (sign : String) (m n : Int) : Option Int :=
  match sign with
  | "+" => some (m + n)
  | "-" => some (m - n)
  | "*" => some (m * n)
  | "%" => if n = 0 then none else some (m.fmod n)
  | _ => none

def plainSequence? : Value → Option Sequence
  | .list _ => some .list
  | .tuple _ => some .tuple
  | .scalar (.text _) => some .text
  | _ => none

/-- A sequence with another one of its kind after it. -/
def concatenated? : Value → Value → Option Value
  | .list as, .list bs => some (.list (as ++ bs))
  | .tuple as, .tuple bs => some (.tuple (as ++ bs))
  | .scalar (.text s), .scalar (.text t) => some (.ofText (s ++ t))
  | _, _ => none

/-- The greatest number of times that a sequence is repeated. -/
def repetitionLimit : Int := 10000

def repeated (sequence count : Value) : Except Fault Value :=
  match count.integer?, sequence with
  | none, _ => .error (.notRepeated count.kind)
  | some n, sequence =>
      if repetitionLimit < n then .error .inapplicable
      else
        match sequence with
        | .list items => .ok (.list (List.replicate n.toNat items).flatten)
        | .tuple items => .ok (.tuple (List.replicate n.toNat items).flatten)
        | .scalar (.text s) => .ok (.ofText (String.join (List.replicate n.toNat s)))
        | _ => .error .inapplicable

def filler (v : Value) : Except Fault Text.Filler := do
  let spelled ← v.shown
  match v with
  | .scalar (.text s) => .ok (.ofText s)
  | v =>
      let truncated? := v.quantity?.bind fun e =>
        e.magnitude?.map fun q => if q < 0 then q.ceil else q.floor
      .ok ⟨spelled, spelled, v.kind, v.integer?, truncated?⟩

def isTuple : Value → Bool
  | .tuple _ => true
  | _ => false

/-- The values that are put into the gaps of a text: those of a tuple, or a single value. -/
def fillers (v : Value) : Except Fault (List Text.Filler) :=
  match v with
  | .tuple items => items.mapM filler
  | v => (filler v).map fun f => [f]

/-- A text with values in its gaps. Gaps that take their width from a value, or what they hold
from a table, and decimal places of numbers are left out. -/
def filled (template : String) (v : Value) : Except Fault Value := do
  let given ← fillers v
  let plain := given.all fun f => f.kind = Text.textKind
  match Text.fill template given with
  | .ok s => .ok (.ofText s)
  | .error .noWidth => .error (if plain then .misfit .noWidth else .inapplicable)
  | .error (.notDecimal kind) =>
      .error (if kind = Text.textKind then .misfit (.notDecimal kind) else .inapplicable)
  | .error m =>
      let keyed := [Text.Misfit.named, .tooMany].contains m && v.items?.isSome && !v.isTuple
      .error (if keyed then .inapplicable else .misfit m)

def signLabel (sign : String) : String := if sign = "**" then "** or pow()" else sign

/-- The value of a sign between two values that are not both quantities. -/
def combinedItems (sign : String) (v w : Value) : Except Fault Value :=
  match sign, v.plainSequence?, w.plainSequence? with
  | "+", some sequence, _ =>
      match concatenated? v w with
      | some joined => .ok joined
      | none => .error (.notConcatenated sequence w.kind)
  | "*", some _, _ => repeated v w
  | "*", none, some _ => repeated w v
  | sign, _, _ =>
      match v.integer?, w.integer? with
      | some m, some n =>
          match counted? sign m n, v, w with
          | some total, .scalar _, .scalar _ => .ok (.scalar (.int total))
          | some total, _, _ => .ok (.expression (.int total))
          | none, .scalar _, .scalar _ => .error .inapplicable
          | none, _, _ => .error (.notJoined (signLabel sign) v.kind w.kind)
      | _, _ => .error (.notJoined (signLabel sign) v.kind w.kind)

def matrix? : Value → Option (List (List Expression))
  | .expression e => Expression.Matrix.rows? e
  | _ => none

/-- The greatest exponent of a matrix. -/
def matrixPowerLimit : Rat := 64

/-- The value of a sign between two values of which one is a matrix. -/
def combinedMatrix? (sign : String) (v w : Value) : Option Expression :=
  match sign, v.matrix?, w.matrix?, v.quantity?, w.quantity? with
  | "+", some as, some bs, _, _ => Expression.Matrix.added? as bs
  | "-", some as, some bs, _, _ =>
      (Expression.Matrix.rows? (Expression.Matrix.scaledBy (.number (-1)) bs)).bind
        (Expression.Matrix.added? as)
  | "*", some as, some bs, _, _ => Expression.Matrix.multiplied? as bs
  | "*", some rows, none, _, some c => some (Expression.Matrix.scaledBy c rows)
  | "*", none, some rows, some c, _ => some (Expression.Matrix.scaledBy c rows)
  | "**", some rows, none, _, some (.leaf (.number q)) =>
      if q = -1 then Expression.Matrix.inverted? rows
      else if q.den = 1 ∧ 0 ≤ q ∧ q ≤ matrixPowerLimit then
        Expression.Matrix.raised? rows q.num.toNat
      else none
  | "/", some rows, none, _, some c => some (Expression.Matrix.scaledBy (Expression.inverse c) rows)
  | _, _, _, _, _ => none

/-- The value of a sign between two values. -/
def combined (sign : String) (v w : Value) : Except Fault Value :=
  match Sign.ofLabel? sign, combinedMatrix? sign v w with
  | some sign, _ => sign.apply v w
  | none, some e => .ok (.expression e)
  | none, none =>
      match v.quantity?, w.quantity? with
      | some d, some e =>
          if sign = "@" then .error (.notJoined sign v.kind w.kind) else calculated sign d e
      | _, _ =>
          match sign, v with
          | "%", .scalar (.text s) => filled s w
          | sign, v => combinedItems sign v w

/-- The value of a sign before a value. -/
def signed (sign : String) (v : Value) : Except Fault Value :=
  match sign, v with
  | "not", v => do
      let b ← v.holds
      .ok (.ofBool !b)
  | "~", v => Sign.complement v
  | sign, .scalar s =>
      match (Value.scalar s).integer? with
      | some n => .ok (.scalar (.int (if sign = "-" then -n else n)))
      | none => .error (.notSigned sign v.kind)
  | sign, .expression e =>
      if e.isQuantity then
        .ok (.expression (if sign = "-" then e.minus.settled else e))
      else .error (.notSigned sign v.kind)
  | sign, v => .error (.notSigned sign v.kind)

mutual

/-- The imaginary unit stands somewhere inside an expression. -/
def holdsUnit : Expression → Bool
  | .constant .imaginary => true
  | .compound _ parts => anyHoldsUnit parts
  | _ => false

/-- The imaginary unit stands somewhere inside the expressions of a list. -/
def anyHoldsUnit : List Expression → Bool
  | [] => false
  | e :: es => holdsUnit e || anyHoldsUnit es

end

def isUnitMultiple : Expression → Bool
  | .constant .imaginary => true
  | .compound .product parts =>
      parts.contains (.constant .imaginary) &&
        parts.all fun e => e = .constant .imaginary || e.magnitude?.isSome
  | _ => false

/-- A quantity that is known to be no real number. -/
def isUnreal : Expression → Bool
  | .constant .complexInfinity => true
  | .compound .sum parts =>
      (parts.filter isUnitMultiple).length = 1 &&
        parts.all fun e => isUnitMultiple e || e.magnitude?.isSome
  | e => isUnitMultiple e

def orderFault? (e : Expression) : Option Fault :=
  if isUnreal e then some (.naming .notReal e)
  else if e = .constant .undefined then some .notDefined
  else if holdsUnit e && !e.isOpen then some .inapplicable
  else none

/-- An ordering of two values. -/
def ordering (c : Comparison) (v w : Value) : Except Fault Value :=
  match v.quantity?, w.quantity? with
  | some d, some e =>
      match (orderFault? d).or (orderFault? e) with
      | some fault => .error fault
      | none => .ok (.expression (.related c d e))
  | _, _ =>
      match v, w with
      | .scalar (.text s), .scalar (.text t) => .ok (.ofBool (Expression.decideTexts c s t))
      | .list _, .list _ => .error .inapplicable
      | .tuple _, .tuple _ => .error .inapplicable
      | .set _, .set _ => .error .inapplicable
      | .scalar (.truth _), .scalar (.truth _) => .error .inapplicable
      | v, w => .error (.notOrdered c.sign v.kind w.kind)

/-- A text stands somewhere in another one. -/
def isPart (part : List Char) : List Char → Bool
  | [] => part.isEmpty
  | c :: cs => part.isPrefixOf (c :: cs) || isPart part cs

/-- Whether a value is among the items of another one. -/
def isItem (v w : Value) : Except Fault Bool :=
  match w.items? with
  | some items => .ok (items.any v.same)
  | none => .error (.noMembers w.kind)

/-- Whether a value is among the members of another one. -/
def isMember (v w : Value) : Except Fault Bool :=
  match v, w with
  | .scalar (.text s), .scalar (.text t) => .ok (isPart s.toList t.toList)
  | v, .scalar (.text _) => .error (.notPartOfText v.kind)
  | .expression e, .expression group =>
      if group.isSet then
        match Expression.belonging e group with
        | some (.truth b) => .ok b
        | some p => .error (.naming .undecidedMember p)
        | none => .error (.undecidedMember "None")
      else
        match group with
        | .compound .table parts => .ok ((Expression.keysIn parts).any (Value.expression e).sameAs)
        | _ => isItem v w
  | v, .expression (.compound .table parts) => .ok ((Expression.keysIn parts).any v.sameAs)
  | v, w => isItem v w

/-- Whether two values are one thing. Plain values and expressions are kept once, except
for approximate numbers. Lists, sets and groups with members are made anew. -/
def isIdentical (v w : Value) : Except Fault Bool :=
  match v, w with
  | .scalar a, .scalar b => .ok (a.kind = b.kind && a.same b)
  | .expression (.approximate _), _ => .ok false
  | .expression d, .expression e => .ok (d = e)
  | .tuple as, .tuple bs => .ok (as.isEmpty && bs.isEmpty)
  | .thing p, .thing q => .ok (p = q)
  | .procedure name _, .procedure other _ => .ok (name = other)
  | _, _ => .ok false

/-- A comparison of two values. -/
def compared (sign : String) (v w : Value) : Except Fault Value :=
  match sign with
  | "==" => .ok (.ofBool (v.same w))
  | "!=" => .ok (.ofBool !(v.same w))
  | "in" => (isMember v w).map .ofBool
  | "not in" => (isMember v w).map fun b => .ofBool !b
  | "is" => (isIdentical v w).map .ofBool
  | "is not" => (isIdentical v w).map fun b => .ofBool !b
  | sign =>
      match [Comparison.lt, .le, .gt, .ge].find? fun c => c.sign = sign with
      | some c => ordering c v w
      | none => .error .inapplicable

end Value

end Clausal.Worksheet
