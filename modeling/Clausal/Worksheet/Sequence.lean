import Clausal.Worksheet.Kind

/-!
# Values with items

Lists, tuples, prefixes and texts have items that are numbered from zero on. The
items of a prefix are pairs, and those of a text are its characters. A record and a
table have their keys as items, and the values of their fields are found by them. A
set has its members as items, in no order of their own.
-/

namespace Clausal.Worksheet

/-- The least number that is too large for an index. -/
def indexLimit : Int := 9223372036854775808

namespace Value

/-- What a value with numbered items is, and its items. -/
def sequence? : Value → Option (Sequence × List Value)
  | .list items => some (.list, items)
  | .tuple items => some (.tuple, items)
  | .expression (.compound .tuple parts) => some (.tuple, ofExpressions parts)
  | .binders items => some (.binders, items)
  | .scalar (.text s) => some (.text, s.toList.map fun c => ofText c.toString)
  | _ => none

/-- All items of a value. -/
def items? : Value → Option (List Value)
  | .record fields => some (fields.map fun field => ofText field.1)
  | .set items => some items
  | .expression (.compound .table parts) => some (ofExpressions (Expression.keysIn parts))
  | .expression e =>
      (e.members?.map ofExpressions).or ((Value.expression e).sequence?.map Prod.snd)
  | v => v.sequence?.map Prod.snd

/-- A set, whose items have no order. -/
def isUnordered : Value → Bool
  | .set _ => true
  | .expression e => e.members?.isSome
  | _ => false

/-- The items of a value, from the first on. -/
def items (v : Value) : Except Fault (List Value) :=
  match v.items? with
  | some items => .ok items
  | none => .error (.noItems v.kind)

/-- The items of a value, from the last on. -/
def reversed (v : Value) : Except Fault (List Value) :=
  match v.items? with
  | some items => if v.isUnordered then .error (.notReversible v.kind) else .ok items.reverse
  | none => .error (.notReversible v.kind)

def length (v : Value) : Except Fault Value :=
  match v.items? with
  | some items => .ok (.ofNat items.length)
  | none => .error (.noLength v.kind)

def fieldAt (fields : List (String × Value)) (key : Value) : Except Fault Value :=
  match key with
  | .scalar (.text name) =>
      match fields.lookup name with
      | some v => .ok v
      | none => .error (.noEntry (Text.quoted name))
  | .scalar s => .error (.noEntry s.shown)
  | key => .error (.notKey key.kind)

/-- The item of a sequence at an index. Negative indices count from the end. -/
def itemOf (sequence : Sequence) (items : List Value) (index : Int) : Except Fault Value :=
  if index < -indexLimit ∨ indexLimit ≤ index then .error .hugeIndex
  else
    let position := if index < 0 then index + items.length else index
    let found := if position < 0 then none else items[position.toNat]?
    found.elim (.error (.outOfRange sequence)) .ok

/-- The item at an index, or the value of a field. -/
def itemAt (v index : Value) : Except Fault Value :=
  match v, v.sequence? with
  | .record fields, _ => fieldAt fields index
  | _, none => .error (.notIndexed v.owner)
  | _, some (sequence, items) =>
      match index.integer? with
      | none => .error (.badIndex sequence index.kind)
      | some index => itemOf sequence items index

/-- The two items of a pair. -/
def pair (v : Value) : Except Fault (Value × Value) :=
  match v.items? with
  | some [a, b] => .ok (a, b)
  | some items => .error (if items.length < 2 then .shortPair items.length else .longPair)
  | none => .error (.notPair v.kind)

end Value

end Clausal.Worksheet
