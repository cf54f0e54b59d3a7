import Clausal.Worksheet.Naming
import Clausal.Worksheet.Same

/-!
# What can be done with lists, tuples and tables

Items are counted and found, and the values of a table are looked up. What changes a list
in place has no value, as nothing else refers to the list.
-/

namespace Clausal.Worksheet

namespace Collection

def listMethods : List String :=
  ["append", "clear", "copy", "count", "extend", "index", "insert", "pop", "remove", "reverse",
    "sort"]

def tupleMethods : List String := ["count", "index"]

def setMethods : List String :=
  ["add", "clear", "copy", "difference", "difference_update", "discard", "intersection",
    "intersection_update", "isdisjoint", "issubset", "issuperset", "pop", "remove",
    "symmetric_difference", "symmetric_difference_update", "union", "update"]

def recordMethods : List String :=
  ["clear", "copy", "fromkeys", "get", "items", "keys", "pop", "popitem", "setdefault", "update",
    "values"]

def tableMethods : List String := ["get", "items", "keys", "values", "copy"]

def methods : Value → List String
  | .list _ => listMethods
  | .tuple _ => tupleMethods
  | .set _ => setMethods
  | .record _ => recordMethods
  | .expression (.compound .list _) => listMethods
  | .expression (.compound .tuple _) => tupleMethods
  | .expression (.compound .table _) => tableMethods
  | _ => []

def nothing : Value := .scalar .null

def ofItems (isList : Bool) (items : List Value) (name : String) (args : List Value) :
    Except Fault Value :=
  match name, args with
  | "count", [v] => .ok (.ofNat (items.filter v.same).length)
  | "index", [v] =>
      match items.findIdx? v.same, isList with
      | some place, _ => .ok (.ofNat place)
      | none, true => v.refuse .noSuchItem
      | none, false => .error .noSuchMember
  | "copy", [] => .ok (.list items)
  | "pop", [] => items.getLast?.elim (.error .emptyList) .ok
  | "append", [_] => .ok nothing
  | "insert", [_, _] => .ok nothing
  | "reverse", [] => .ok nothing
  | "clear", [] => .ok nothing
  | "extend", [v] => v.items.map fun _ => nothing
  | _, _ => .error .inapplicable

def ofMembers (items : List Value) (name : String) (args : List Value) : Except Fault Value :=
  match name, args with
  | "copy", [] => .ok (.set items)
  | "add", [_] => .ok nothing
  | "clear", [] => .ok nothing
  | "union", [v] => do
      let others ← v.items
      .ok (.set (items ++ others.filter fun other => !items.any other.same))
  | "intersection", [v] => do
      let others ← v.items
      .ok (.set (items.filter fun item => others.any item.same))
  | "difference", [v] => do
      let others ← v.items
      .ok (.set (items.filter fun item => !others.any item.same))
  | "issubset", [v] => do
      let others ← v.items
      .ok (.ofBool (items.all fun item => others.any item.same))
  | "issuperset", [v] => do
      let others ← v.items
      .ok (.ofBool (others.all fun other => items.any other.same))
  | "isdisjoint", [v] => do
      let others ← v.items
      .ok (.ofBool (items.all fun item => !others.any item.same))
  | _, _ => .error .inapplicable

def ofFields (fields : List (String × Value)) (name : String) (args : List Value) :
    Except Fault Value :=
  match name, args with
  | "copy", [] => .ok (.record fields)
  | "clear", [] => .ok nothing
  | "get", [.scalar (.text key)] => .ok ((fields.lookup key).getD nothing)
  | "get", [.scalar (.text key), instead] => .ok ((fields.lookup key).getD instead)
  | _, _ => .error .inapplicable

/-- The value for a key in a table that holds its keys and values in turn. -/
def valueIn? (key : Value) : List Expression → Option Value
  | e :: v :: rest => if key.sameAs e then some (.ofExpression v) else valueIn? key rest
  | _ => none

def ofEntries (parts : List Expression) (name : String) (args : List Value) :
    Except Fault Value :=
  match name, args with
  | "copy", [] => .ok (.expression (.compound .table parts))
  | "get", [key] => .ok ((valueIn? key parts).getD nothing)
  | "get", [key, instead] => .ok ((valueIn? key parts).getD instead)
  | _, _ => .error .inapplicable

def applied (owner : Value) (name : String) (args : List Value) : Except Fault Value :=
  match owner with
  | .list items => ofItems true items name args
  | .tuple items => ofItems false items name args
  | .expression (.compound .list parts) => ofItems true (Value.ofExpressions parts) name args
  | .expression (.compound .tuple parts) => ofItems false (Value.ofExpressions parts) name args
  | .expression (.compound .table parts) => ofEntries parts name args
  | .set items => ofMembers items name args
  | .record fields => ofFields fields name args
  | _ => .error .inapplicable

end Collection

end Clausal.Worksheet
