import Clausal.Worksheet.Display

/-!
# Results of a worksheet

What a step hands out is its value with every text made up. A value that holds a
formula with a foreign value in it cannot be handed out, although later steps
may use it.
-/

namespace Clausal.Worksheet

/-- The value of a step as it is handed out. -/
inductive Shown where
  | scalar (s : Scalar)
  | formula (text : String)
  | term (text : String)
  | binders (binders : List (String × String))
  | literal (text : String) (negated : Shown)
  | operator (label : String)
  | skolem (matrix : String) (mapping : List (String × String)) (universals : List String)
  | horn (r : HornReport)
  | list (items : List Shown)
  | record (fields : List (String × Shown))

/-- The name under which a value of a Skolem form is handed out. -/
def Value.handedName : Value → Except Fault String
  | .expression (.app name _) => .ok name
  | .formula (.atom (.pred name _)) => .ok name
  | v => v.variableText

mutual

def Value.result : Value → Except Fault Shown
  | .scalar s => .ok (.scalar s)
  | .expression (.leaf (.function name)) => .ok (.operator name)
  | .expression (.leaf (.family path)) => .ok (.operator (bareName path))
  | .expression e => do
      let text ← e.text?
      .ok (.term text)
  | .formula f => do
      let text ← f.applicative?
      .ok (.formula text)
  | .binders items => do
      let pairs ← binderTexts items
      .ok (.binders pairs)
  | .literal atom negated => do
      let text ← literalText "~" atom negated
      let negated ← negated.result
      .ok (.literal text negated)
  | .operator o => .ok (.operator o.label)
  | .skolem matrix mapping universals => do
      let matrix ← matrix.applicative?
      let mapping ← mapping.mapM fun (v, e) => do
        let name ← v.handedName
        let text ← e.text?
        .ok (name, text)
      let universals ← universals.mapM handedName
      .ok (.skolem matrix mapping universals)
  | .horn r => .ok (.horn r)
  | .list items => (Value.results items).map .list
  | .tuple items => (Value.results items).map .list
  | .record fields => (Value.fieldResults fields).map .record
  | v => .error (.notHandedOut v.className)

def Value.results : List Value → Except Fault (List Shown)
  | [] => .ok []
  | item :: items => do
      let shown ← item.result
      let rest ← Value.results items
      .ok (shown :: rest)

def Value.fieldResults : List (String × Value) → Except Fault (List (String × Shown))
  | [] => .ok []
  | (key, v) :: fields => do
      let shown ← v.result
      let rest ← Value.fieldResults fields
      .ok ((key, shown) :: rest)

end

end Clausal.Worksheet
