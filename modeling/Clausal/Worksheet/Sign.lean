import Clausal.Bits
import Clausal.Expression.Logic
import Clausal.Worksheet.Naming
import Clausal.Worksheet.Same

/-!
# Signs between values

Five signs join formulas or propositions or combine integers, depending on the
values. Between formulas and between propositions they are connectives, and
between integers they work bit by bit. Two of them join sets, and one records.
-/

namespace Clausal.Worksheet

/-- A sign between two values. -/
inductive Sign where
  | and
  | or
  | right
  | left
  deriving DecidableEq

namespace Sign

def label : Sign → String
  | .and => "&"
  | .or => "|"
  | .right => ">>"
  | .left => "<<"

def ofLabel? (label : String) : Option Sign :=
  [Sign.and, .or, .right, .left].find? fun sign => sign.label = label

/-- The sign that changes every bit and negates formulas. -/
def complementLabel : String := "~"

/-- The formula that a sign makes of two formulas. -/
def connect : Sign → Formula → Formula → Formula
  | .and, f, g => .and f g
  | .or, f, g => .or f g
  | .right, f, g => .binary .implies f g
  | .left, f, g => .binary .implies g f

/-- The proposition that a sign makes of two propositions. -/
def propose : Sign → Expression → Expression → Expression
  | .and, d, e => .joined .and d e
  | .or, d, e => .joined .or d e
  | .right, d, e => .implication d e
  | .left, d, e => .implication e d

/-- The greatest number of bits that an integer is made longer by. -/
def shiftLimit : Int := 100000

/-- The integer that a sign makes of two integers. -/
def combine : Sign → Int → Int → Except Fault Int
  | .and, m, n => .ok (Bits.both m n)
  | .or, m, n => .ok (Bits.either m n)
  | .right, m, n => if n < 0 then .error .negativeShift else .ok (Bits.shiftDown m n.toNat)
  | .left, m, n =>
      if n < 0 then .error .negativeShift
      else if m = 0 then .ok 0
      else if shiftLimit < n then .error .inapplicable
      else .ok (Bits.shiftUp m n.toNat)

/-- The value of a combination of two values. It is an expression if one of
them is, and a truth value if both are and bits were not moved. -/
def valueOf (sign : Sign) (v w : Value) (n : Int) : Value :=
  match sign, v, w with
  | _, .expression _, _ => .expression (.int n)
  | _, _, .expression _ => .expression (.int n)
  | .and, .scalar (.truth _), .scalar (.truth _) => .ofBool (n ≠ 0)
  | .or, .scalar (.truth _), .scalar (.truth _) => .ofBool (n ≠ 0)
  | _, _, _ => .scalar (.int n)

def proposition? : Value → Option Expression
  | .expression e => if e.isProposition then some e else none
  | .scalar (.truth b) => some (.truth b)
  | _ => none

/-- The members that two finite sets have in common, if it is known which these
are. -/
def common? (ds es : List Expression) : Option (List Expression) :=
  if ds = es then some ds
  else if (ds ++ es).all fun e => e.isNumber then some (ds.filter es.contains)
  else none

/-- The value of a sign between two sets or two records. -/
def joinMembers? (sign : Sign) (v w : Value) : Option (Except Fault Value) :=
  match sign, v, w with
  | .or, .record fields, .record more => some (.ok (.record (more.foldl putField fields)))
  | .or, .set as, .set bs =>
      some (.ok (.set (as ++ bs.filter fun b => !as.any b.same)))
  | .and, .set as, .set bs => some (.ok (.set (as.filter fun a => bs.any a.same)))
  | sign, .expression d, .expression e =>
      match sign, d.members?, e.members? with
      | .or, some ds, some es => some (.ok (.expression (.setOf (ds ++ es))))
      | .and, some ds, some es =>
          some (match common? ds es with
            | some members => .ok (.expression (.setOf members))
            | none => .error .inapplicable)
      | _, _, _ => none
  | _, _, _ => none
where
  /-- Fields with one more. A key that is there keeps its place and gets the new
  value. -/
  putField (fields : List (String × Value)) (field : String × Value) : List (String × Value) :=
    if fields.any fun f => f.1 = field.1 then
      fields.map fun f => if f.1 = field.1 then field else f
    else fields ++ [field]

/-- The value of a sign between two values that are no formulas. -/
def combineValues (sign : Sign) (v w : Value) : Except Fault Value :=
  match v.integer?, w.integer?, sign.joinMembers? v w with
  | some m, some n, _ => do
      let result ← sign.combine m n
      .ok (sign.valueOf v w result)
  | _, _, some joined => joined
  | _, _, none =>
      match proposition? v, proposition? w with
      | some d, some e => .ok (.expression (sign.propose d e))
      | _, _ => .error (.notJoined sign.label v.kind w.kind)

/-- The value of a sign between two values. -/
def apply (sign : Sign) (v w : Value) : Except Fault Value :=
  match v with
  | .formula f => do
      let g ← w.formula?
      .ok (.formula (sign.connect f g))
  | v => sign.combineValues v w

/-- The value of the sign for the complement before a value. -/
def complement (v : Value) : Except Fault Value :=
  match v with
  | .formula f => .ok (.formula (.neg f))
  | .expression e =>
      match e.integer? with
      | some n => .ok (.expression (.int (Bits.complement n)))
      | none =>
          if e.isProposition then .ok (.expression e.negate)
          else .error (.notSigned complementLabel v.kind)
  | v =>
      match v.integer? with
      | some n => .ok (.scalar (.int (Bits.complement n)))
      | none => .error (.notSigned complementLabel v.kind)

end Sign

end Clausal.Worksheet
