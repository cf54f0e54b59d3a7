import Clausal.Worksheet.Naming

/-!
# Arguments of applications

An application takes any expression as an argument. Other values are converted on
the way: a number or a truth value becomes an expression, a tuple a group of
expressions, and a text whatever it means. All arguments are converted twice, as
a text may stand for another text, before the first of them is refused for having
no place in an application.

What a text means is a parameter here.
-/

namespace Clausal.Worksheet

/-- What gives texts a meaning. -/
abbrev Meaning := String → Except Fault Value

namespace Value

mutual

/-- A list stands somewhere inside an expression. -/
def holdsList : Expression → Bool
  | .compound .list _ => true
  | .compound _ parts => anyHoldsList parts
  | .app _ args => anyHoldsList args
  | _ => false

/-- A list stands somewhere inside the expressions of a list. -/
def anyHoldsList : List Expression → Bool
  | [] => false
  | e :: es => holdsList e || anyHoldsList es

end

/-- The keys and values of a table in the order of the keys. -/
def tableOf (entries : List (Expression × Expression)) : Expression :=
  let sorted := (entries.map fun entry => (entry, entry.1.profile.key)).mergeSort fun s t =>
    s.2.precedes t.2
  .compound .table (sorted.flatMap fun s => [s.1.1, s.1.2])

mutual

def asPart : Value → Except Fault Expression
  | .expression e => .ok e
  | .scalar .null => .ok .nothing
  | .list items => do
      let parts ← asParts items
      .ok (.compound .list parts)
  | _ => .error .inapplicable

def asParts : List Value → Except Fault (List Expression)
  | [] => .ok []
  | v :: vs => do
      let e ← v.asPart
      let es ← asParts vs
      .ok (e :: es)

end

/-- A table of converted keys and values. What holds a list cannot be kept in a
table. -/
def tableOf? (entries : List (Expression × Expression)) : Except Fault Value :=
  if entries.any fun entry => holdsList entry.1 || holdsList entry.2 then
    .error (.notKey (Value.list []).kind)
  else .ok (.expression (tableOf entries))

mutual

/-- A value converted once. -/
def converted (meaning : Meaning) : Value → Except Fault Value
  | .expression e => .ok (.expression e)
  | .scalar .null => .ok (.scalar .null)
  | .scalar (.truth b) => .ok (.expression (.truth b))
  | .scalar (.int n) => .ok (.expression (.int n))
  | .scalar (.floating x) => .ok (.expression (.ofFloating x))
  | .scalar (.text s) => meaning s
  | .binders items => do
      let items ← convertedItems meaning items
      .ok (.binders [.list items])
  | .list items => do
      let items ← convertedItems meaning items
      .ok (.list items)
  | .tuple items => do
      let items ← convertedItems meaning items
      let parts ← asParts items
      .ok (.expression (.compound .tuple parts))
  | .set items => do
      let items ← convertedItems meaning items
      let parts ← asParts items
      .ok (.expression (.setOf parts))
  | .record fields => do
      let entries ← convertedFields meaning fields
      tableOf? entries
  | .thing "bytes" => .ok (.thing "bytes")
  | v => .error (.notArgument v.className)

/-- The items of a list converted once. -/
def convertedItems (meaning : Meaning) : List Value → Except Fault (List Value)
  | [] => .ok []
  | item :: items => do
      let v ← item.converted meaning
      let vs ← convertedItems meaning items
      .ok (v :: vs)

/-- The keys and values of a record converted once. -/
def convertedFields (meaning : Meaning) :
    List (String × Value) → Except Fault (List (Expression × Expression))
  | [] => .ok []
  | (key, v) :: fields => do
      let key ← meaning key
      let key ← key.asPart
      let v ← v.converted meaning
      let e ← v.asPart
      let rest ← convertedFields meaning fields
      .ok ((key, e) :: rest)

end

/-- The name of the attribute that every argument has. -/
def floatingAttribute : String := "is_Float"

def argument? : Value → Except Fault Expression
  | .expression e => .ok e
  | v => v.lacks floatingAttribute

def functorName? : Value → Option String
  | .expression (.leaf (.functor name)) => some name
  | _ => none

/-- Arguments converted twice. Function symbols by themselves are refused in
between. -/
def convertedTwice (meaning : Meaning) (args : List Value) : Except Fault (List Value) := do
  let args ← convertedItems meaning args
  let functors := args.filterMap functorName?
  if functors.isEmpty then convertedItems meaning args else .error (.functorsGiven functors)

end Value

/-- What a function is applied to: values in order, and values with names. -/
structure Arguments where
  inOrder : List Value
  byName : List (String × Value)

/-- The names of arguments that tell a function how to be applied and are no
options. -/
def Arguments.instructions : List String := ["evaluate", "nargs"]

/-- The values with names are no options that no function knows. -/
def Arguments.requireNoOptions (args : Arguments) : Except Fault Unit :=
  let options := args.byName.filter fun field => !instructions.contains field.1
  if options.isEmpty then .ok () else (Value.record options).refuse .unknownOptions

/-- Applies a function symbol. Its name is checked before its arguments. -/
def applyFunctionWith (meaning : Meaning) (name : String) (args : Arguments) :
    Except Fault Expression :=
  if name.toList.contains '\x00' then .error .nullInName
  else do
    let values ← Value.convertedTwice meaning args.inOrder
    args.requireNoOptions
    let parts ← values.mapM Value.argument?
    .ok (.app name parts)

end Clausal.Worksheet
