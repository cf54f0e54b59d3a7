import Clausal.Phrase.Reader
import Clausal.Worksheet.Calculation
import Clausal.Worksheet.Calling
import Clausal.Worksheet.Members
import Clausal.Worksheet.Slicing

/-!
# The meaning of texts

A text that is handed to an application is read as a phrase, and the phrase is
evaluated. Names stand for themselves unless they are known names, a name right
before a bracket is a function symbol, and signs calculate with quantities, join
propositions, compare values or ask whether values count as something. The parts
of a phrase are evaluated from left to right, and the first fault is the fault of
the phrase.

Texts inside a text are evaluated when they become arguments in turn. As they
are shorter than the text around them, the length of a text bounds the depth of
this (`meaning`).
-/

namespace Clausal.Worksheet

namespace Value

def named (name : String) : Except Fault Value :=
  match Known.ofName? name with
  | none => .error (.unknownName name)
  | some (.expression e) => .ok (.expression e)
  | some (.thing path) => .ok (.procedure (Known.canonical name) path)

/-- The fields of a value, if it has some. -/
def fields? : Value → Option (List (Value × Value))
  | .record fields => some (fields.map fun field => (.ofText field.1, field.2))
  | .expression (.compound .table parts) => some (inTurn (ofExpressions parts))
  | _ => none
where
  /-- The keys and values of a table from a list where they stand in turn. -/
  inTurn : List Value → List (Value × Value)
    | key :: v :: rest => (key, v) :: inTurn rest
    | _ => []

/-- Fields with one more. A key that is there keeps its place and gets the new
value. -/
def putField (fields : List (Value × Value)) (field : Value × Value) : List (Value × Value) :=
  if fields.any fun f => f.1.same field.1 then
    fields.map fun f => if f.1.same field.1 then (f.1, field.2) else f
  else fields ++ [field]

/-- The text that a key is. -/
def textOf? : Value → Option String
  | .scalar (.text s) => some s
  | _ => none

/-- The kind of a value, or of the first item of it, that cannot be looked up. -/
def unhashable? : Value → Option String
  | .list items => some (Value.list items).kind
  | .set items => some (Value.set items).kind
  | .record fields => some (Value.record fields).kind
  | .expression (.compound .table _) => some (Value.record []).kind
  | .tuple items => among items
  | _ => none
where
  /-- The kind of the first item of a list that cannot be looked up. -/
  among : List Value → Option String
    | [] => none
    | v :: vs => (unhashable? v).or (among vs)

def requireKey (v : Value) : Except Fault Unit :=
  match v.unhashable? with
  | some kind => .error (.notKey kind)
  | none => .ok ()

/-- The table with the given fields. A table whose keys are texts is a record. -/
def tableFrom (fields : List (Value × Value)) : Except Fault Value :=
  match fields.mapM fun field => field.1.textOf?.map fun key => (key, field.2) with
  | some (field :: fields) => .ok (.record (field :: fields))
  | _ => do
      let entries ← fields.mapM fun (key, v) => do
        let key ← key.asPart
        let e ← v.asPart
        .ok (key, e)
      tableOf? entries

def fieldOf (fields : List (Value × Value)) (key : Value) : Except Fault Value := do
  requireKey key
  match fields.find? fun field => field.1.same key with
  | some field => .ok field.2
  | none => key.refuse .noEntry

/-- The place that an index means among a number of places, if there is one. -/
def placeAt? (count : Nat) (v : Value) : Option Nat :=
  v.integer?.bind fun n =>
    let place := if n < 0 then n + (count : Int) else n
    if 0 ≤ place && place < (count : Int) then some place.toNat else none

/-- The entry of a matrix at a row and a column, or at its number. -/
def entryAt (rows : List (List Expression)) (index : Value) : Except Fault Value :=
  let width := (rows.headD []).length
  let entry? : Option Expression :=
    match index with
    | .tuple [i, j] => do
        let row ← rows[(← placeAt? rows.length i)]?
        row[(← placeAt? width j)]?
    | index => do rows.flatten[(← placeAt? (rows.length * width) index)]?
  entry?.elim (.error .inapplicable) fun e => .ok (.ofExpression e)

/-- The item of a value at an index, or its value for a key. -/
def found (v index : Value) : Except Fault Value :=
  match v.fields?, v.matrix? with
  | some fields, _ => fieldOf fields index
  | none, some rows => entryAt rows index
  | none, none => v.itemAt index

/-- The arguments with the items of a value at the end. -/
def withItems (label : Option String) (alone : Bool) (args : Arguments) (v : Value) :
    Except Fault Arguments :=
  match v.items?, label with
  | some items, _ => .ok { args with inOrder := args.inOrder ++ items }
  | none, some label =>
      .error (if alone then .notSpread label v.kind else .notSpreadHere v.kind)
  | none, none => .error (if alone then .inapplicable else .notSpreadHere v.kind)

/-- The arguments with the fields of a value at the end. -/
def withFields (label : Option String) (args : Arguments) (v : Value) : Except Fault Arguments :=
  match v.fields?, label with
  | some fields, _ =>
      match fields.mapM fun field => field.1.textOf?.map fun key => (key, field.2) with
      | some byName => .ok { args with byName := args.byName ++ byName }
      | none => .error .inapplicable
  | none, some label => .error (.notFields label v.kind)
  | none, none => .error .inapplicable

mutual

/-- The value of a phrase. -/
def ofPhrase (meaning : Meaning) : Phrase → Except Fault Value
  | .name s => named s
  | .integer n => .ok (.ofNat n)
  | .text s => .ok (.ofText s)
  | .bytes _ => .ok (.thing "bytes")
  | .truth b => .ok (.ofBool b)
  | .nothing => .ok (.scalar .null)
  | .dots => .ok (.thing "ellipsis")
  | .procedure _ => .ok (.thing "function")
  | .tuple items => do
      let items ← ofPhrases meaning items
      .ok (.tuple items)
  | .list items => do
      let items ← ofPhrases meaning items
      .ok (.list items)
  | .set items => do
      let items ← ofPhrases meaning items
      let _ ← items.mapM requireKey
      .ok (.set (items.foldl (fun kept v => if kept.any v.same then kept else kept ++ [v]) []))
  | .table entries => do
      let fields ← ofEntries meaning [] entries
      tableFrom fields
  | .call head args => do
      let v ← ofPhrase meaning head
      let alone := args.length = 1
      let args ← ofArguments meaning v.functorName? alone ⟨[], []⟩ args
      applied meaning v args
  | .member owner name => do
      let v ← ofPhrase meaning owner
      v.memberOf name
  | .item owner (.slice start stop step) => do
      let v ← ofPhrase meaning owner
      let start ← ofPhrase meaning start
      let stop ← ofPhrase meaning stop
      let step ← ofPhrase meaning step
      v.sliced start stop step
  | .item owner index => do
      let v ← ofPhrase meaning owner
      let w ← ofPhrase meaning index
      found v w
  | .slice start stop step => do
      let _ ← ofPhrase meaning start
      let _ ← ofPhrase meaning stop
      let _ ← ofPhrase meaning step
      .ok (.thing "slice")
  | .signed sign arg => do
      let v ← ofPhrase meaning arg
      v.signed sign
  | .joined "or" lhs rhs => do
      let v ← ofPhrase meaning lhs
      if ← v.holds then .ok v else ofPhrase meaning rhs
  | .joined "and" lhs rhs => do
      let v ← ofPhrase meaning lhs
      if ← v.holds then ofPhrase meaning rhs else .ok v
  | .joined sign lhs rhs => do
      let v ← ofPhrase meaning lhs
      let w ← ofPhrase meaning rhs
      combined sign v w
  | .compared [] _ => .error .inapplicable
  | .compared (first :: operands) signs => do
      let v ← ofPhrase meaning first
      ofComparisons meaning v operands signs
  | .choice condition yes no => do
      let v ← ofPhrase meaning condition
      if ← v.holds then ofPhrase meaning yes else ofPhrase meaning no
  | .given _ _ => .error .inapplicable
  | .spread _ => .error .inapplicable
  | .spreadFields _ => .error .inapplicable

/-- The values of a list of phrases. The items of a value after a star are values of
the list. -/
def ofPhrases (meaning : Meaning) : List Phrase → Except Fault (List Value)
  | [] => .ok []
  | .spread p :: ps => do
      let v ← ofPhrase meaning p
      match v.items? with
      | some items => do
          let vs ← ofPhrases meaning ps
          .ok (items ++ vs)
      | none => .error (.notSpreadHere v.kind)
  | p :: ps => do
      let v ← ofPhrase meaning p
      let vs ← ofPhrases meaning ps
      .ok (v :: vs)

/-- The values of arguments, after those that were there before. -/
def ofArguments (meaning : Meaning) (label : Option String) (alone : Bool) (args : Arguments) :
    List Phrase → Except Fault Arguments
  | [] => .ok args
  | .given name p :: ps => do
      let v ← ofPhrase meaning p
      ofArguments meaning label alone { args with byName := args.byName ++ [(name, v)] } ps
  | .spread p :: ps => do
      let v ← ofPhrase meaning p
      let args ← withItems label alone args v
      ofArguments meaning label alone args ps
  | .spreadFields p :: ps => do
      let v ← ofPhrase meaning p
      let args ← withFields label args v
      ofArguments meaning label alone args ps
  | p :: ps => do
      let v ← ofPhrase meaning p
      ofArguments meaning label alone { args with inOrder := args.inOrder ++ [v] } ps

/-- The fields of a table, of which the keys and values stand in turn, after those
that were there before. -/
def ofEntries (meaning : Meaning) (fields : List (Value × Value)) :
    List Phrase → Except Fault (List (Value × Value))
  | .spreadFields p :: _ :: ps => do
      let v ← ofPhrase meaning p
      match v.fields? with
      | some more => ofEntries meaning (more.foldl putField fields) ps
      | none => .error (.notFieldsHere v.kind)
  | key :: p :: ps => do
      let key ← ofPhrase meaning key
      let v ← ofPhrase meaning p
      requireKey key
      ofEntries meaning (putField fields (key, v)) ps
  | _ => .ok fields

/-- The value of comparisons in a row after a first operand. The first that does
not hold is the value of all. -/
def ofComparisons (meaning : Meaning) (v : Value) :
    List Phrase → List String → Except Fault Value
  | p :: ps, sign :: signs => do
      let w ← ofPhrase meaning p
      let result ← compared sign v w
      if signs.isEmpty then .ok result
      else if ← result.holds then ofComparisons meaning w ps signs
      else .ok result
  | _, _ => .error .inapplicable

end

end Value

/-- The meaning of a text. The fuel bounds the depth of texts inside texts. -/
def meaningWithin : (fuel : Nat) → Meaning
  | 0, _ => .error .inapplicable
  | fuel + 1, s =>
      let line := String.ofList (s.toList.filter (· ≠ '\n'))
      match Phrase.read (fun name => (Known.ofName? name).isSome) (Text.trimmed line) with
      | .ok p => Value.ofPhrase (meaningWithin fuel) p
      | .error .unknown => .error .inapplicable
      | .error p => .error (.misspelt line p)

/-- The meaning of a text. -/
def meaning (s : String) : Except Fault Value := meaningWithin (s.length + 1) s

def applyFunction (name : String) (args : List Value) : Except Fault Expression :=
  applyFunctionWith meaning name ⟨args, []⟩

end Clausal.Worksheet
