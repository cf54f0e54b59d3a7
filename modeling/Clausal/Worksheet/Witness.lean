import Clausal.FreshName
import Clausal.Skolem
import Clausal.Worksheet.Display
import Clausal.Worksheet.Replacement

/-!
# Skolem forms of loose prefixes

On a worksheet the prefix of a Skolem form may be any list of pairs. The second
value of a pair has to have a name, and the first to be a quantifier. What a
universal quantifier binds becomes an argument of the witnesses to its right;
what an existential one binds is replaced by a witness wherever it occurs.
-/

namespace Clausal.Worksheet

/-- The name of a value, if it has one. -/
def nameOf : Value → Except Fault String
  | .expression (.sym name) => .ok name
  | .expression (.app name _) => .ok name
  | .formula (.atom (.pred name _)) => .ok name
  | v => v.lacks Value.nameAttribute

/-- What the removal of quantifiers carries along: the matrix, the witnesses and
the universally bound values so far, the two counters, and the names in use. -/
structure Removal where
  matrix : Formula
  mapping : List (Value × Expression)
  universals : List Value
  constants : Int
  functions : Int
  used : List String

namespace Removal

/-- A witness that is new, and what is carried along after it. -/
def witness (r : Removal) : Except Fault (Expression × Removal) :=
  if r.universals.isEmpty then
    let minted := mint Skolemized.constantStem r.constants r.used
    .ok (.sym minted.name, { r with constants := minted.counter, used := minted.used })
  else
    let minted := mint Skolemized.functionStem r.functions r.used
    (applyFunction minted.name r.universals).map fun e =>
      (e, { r with functions := minted.counter, used := minted.used })

/-- Removes one pair. -/
def step (r : Removal) (item : Value) : Except Fault Removal := do
  let (o, bound) ← item.pair
  match o with
  | .operator (.quantifier .all) => .ok { r with universals := r.universals ++ [bound] }
  | .operator (.quantifier .ex) => do
      let (e, r) ← r.witness
      let matrix ← Table.inFormula [(bound, .expression e)] r.matrix
      .ok { r with matrix, mapping := r.mapping ++ [(bound, e)] }
  | o => do
      let text ← o.plainText
      .error (.ruledOut text)

end Removal

/-- The Skolem form of a list of pairs and a matrix. All names are collected
before the first pair is removed. -/
def skolemizeBy (p : Value) (matrix : Formula) : Except Fault Value := do
  let matrix ← matrix.withTerms
  let items ← p.items
  let names ← items.mapM fun item => do
    let (_, bound) ← item.pair
    nameOf bound
  let start : Removal := ⟨matrix, [], [], 0, 0, matrix.names ++ names ++ matrix.predicates⟩
  let r ← items.foldlM Removal.step start
  .ok (.skolem r.matrix r.mapping r.universals)

end Clausal.Worksheet
