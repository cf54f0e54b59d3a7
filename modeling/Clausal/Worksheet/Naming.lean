import Clausal.Worksheet.Sequence

/-!
# Values named in messages

A value that does not fit is named in the message of the fault it causes, by a
text that shows what it is made of. Values with parts that have no text have none
themselves, and cause another fault instead.
-/

namespace Clausal.Worksheet

namespace Value

def operatorNameAttribute : String := "__name__"

def nameAttribute : String := "name"

def operatorName : Value → Except Fault String
  | .operator o => .ok o.label
  | v => v.lacks operatorNameAttribute

def variableText : Value → Except Fault String
  | .expression e => liftM e.text?
  | _ => .error .inapplicable

def binderTexts (items : List Value) : Except Fault (List (String × String)) :=
  items.mapM fun item => do
    let (o, x) ← item.pair
    let name ← o.operatorName
    let text ← x.variableText
    .ok (name, text)

mutual

def shown : Value → Except Fault String
  | .scalar (.int n) => liftM (Expression.int n).text?
  | .scalar s => .ok s.shown
  | .expression e => liftM e.text?
  | .formula f => liftM f.applicative?
  | .binders items => do
      let pairs ← binderTexts items
      let texts := pairs.map fun (name, x) => "(" ++ name ++ ", " ++ x ++ ")"
      .ok ("Prefix(" ++ String.intercalate ", " texts ++ ")")
  | .literal atom negated => do
      let atom ← atom.shown
      let negated ← negated.shown
      .ok ("Literal(atom=" ++ atom ++ ", negated=" ++ negated ++ ")")
  | .operator o => .ok o.qualified
  | .skolem matrix mapping universals => do
      let matrix ← matrix.applicative?
      let mapping ← shownPairs mapping
      let universals ← shownItems universals
      .ok ("SkolemResult(matrix=" ++ matrix ++ ", mapping=[" ++
        String.intercalate ", " mapping ++ "], universals=[" ++
        String.intercalate ", " universals ++ "])")
  | .horn r => .ok r.applicative
  | .list items => do
      let names ← shownItems items
      .ok ("[" ++ String.intercalate ", " names ++ "]")
  | .tuple items => do
      let names ← shownItems items
      .ok ("(" ++ String.intercalate ", " names ++ (if names.length = 1 then ",)" else ")"))
  | .set _ => .error .inapplicable
  | .record fields => do
      let texts ← shownFields fields
      .ok ("\x7b" ++ String.intercalate ", " texts ++ "\x7d")
  | v => .ok v.className

def shownItems : List Value → Except Fault (List String)
  | [] => .ok []
  | item :: items => do
      let name ← item.shown
      let names ← shownItems items
      .ok (name :: names)

/-- How a message names the pairs of values and their replacements. -/
def shownPairs : List (Value × Expression) → Except Fault (List String)
  | [] => .ok []
  | (v, e) :: pairs => do
      let name ← v.shown
      let text ← e.text?
      let names ← shownPairs pairs
      .ok (("(" ++ name ++ ", " ++ text ++ ")") :: names)

def shownFields : List (String × Value) → Except Fault (List String)
  | [] => .ok []
  | (key, v) :: fields => do
      let name ← v.shown
      let names ← shownFields fields
      .ok ((Text.quoted key ++ ": " ++ name) :: names)

end

def refuse {α : Type} (cause : String → Fault) (v : Value) : Except Fault α := do
  .error (cause (← v.shown))

def formula? : Value → Except Fault Formula
  | .formula f => .ok f
  | v => v.refuse .notFormula

/-- The value is a term at its top. -/
def isTerm : Value → Bool
  | .expression e => e.isPlain
  | _ => false

/-- The value is a term of the logic at its top. -/
def term? (v : Value) : Except Fault Term :=
  match v with
  | .expression e => if e.isPlain then .ok (.ofExpression e) else v.refuse .notTerm
  | _ => v.refuse .notTerm

end Value

end Clausal.Worksheet
