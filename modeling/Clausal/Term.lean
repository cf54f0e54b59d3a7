import Clausal.Expression.Text

/-!
# Terms

The terms of first-order logic without fixed arities: symbols, which are
variables or constants depending on the quantifiers around them, and
applications of function symbols to any number of arguments. Foreign values may
be handed to an application as arguments, although they are no terms of the
logic; every operation that names or writes terms can tell where one occurs
(`Term.foreignValues`).

Each function on terms has a companion on argument lists.
-/

namespace Clausal

/-- A symbol, an application, or a value handed in from outside. -/
inductive Term where
  | sym (name : String)
  | app (name : String) (args : List Term)
  | foreign (value : Expression)

namespace Term

instance : Inhabited Term := ⟨.sym ""⟩

mutual

def decEq : (s t : Term) → Decidable (s = t)
  | .sym f, .sym g => if h : f = g then .isTrue (by rw [h]) else .isFalse (by simp [h])
  | .foreign v, .foreign w => if h : v = w then .isTrue (by rw [h]) else .isFalse (by simp [h])
  | .app f ss, .app g ts =>
      if h : f = g then
        match decEqList ss ts with
        | .isTrue hs => .isTrue (by rw [h, hs])
        | .isFalse hs => .isFalse (by simp [hs])
      else .isFalse (by simp [h])
  | .sym _, .app _ _ => .isFalse (by simp)
  | .sym _, .foreign _ => .isFalse (by simp)
  | .app _ _, .sym _ => .isFalse (by simp)
  | .app _ _, .foreign _ => .isFalse (by simp)
  | .foreign _, .sym _ => .isFalse (by simp)
  | .foreign _, .app _ _ => .isFalse (by simp)

def decEqList : (ss ts : List Term) → Decidable (ss = ts)
  | [], [] => .isTrue rfl
  | [], _ :: _ => .isFalse (by simp)
  | _ :: _, [] => .isFalse (by simp)
  | s :: ss, t :: ts =>
      match decEq s t with
      | .isTrue h =>
          match decEqList ss ts with
          | .isTrue hs => .isTrue (by rw [h, hs])
          | .isFalse hs => .isFalse (by simp [hs])
      | .isFalse h => .isFalse (by simp [h])

end

instance : DecidableEq Term := decEq

/-- A variable or a constant. -/
def isSymbol : Term → Bool
  | .sym _ => true
  | _ => false

/-- An application of a function symbol. -/
def isApplication : Term → Bool
  | .app _ _ => true
  | _ => false

/-- A function symbol applied to arguments; without arguments it is a symbol. -/
def applied (name : String) : List Term → Term
  | [] => .sym name
  | args => .app name args

mutual

/-- The greatest number of applications around a part of the term. -/
def depth : Term → Nat
  | .sym _ => 0
  | .app _ args => depthList args + 1
  | .foreign _ => 0

/-- The greatest depth in an argument list. -/
def depthList : List Term → Nat
  | [] => 0
  | t :: ts => max t.depth (depthList ts)

end

mutual

/-- All symbols and function names of the term, from left to right. -/
def names : Term → List String
  | .sym name => [name]
  | .app name args => name :: namesList args
  | .foreign _ => []

def namesList : List Term → List String
  | [] => []
  | t :: ts => t.names ++ namesList ts

end

theorem namesList_eq_flatMap (ts : List Term) : namesList ts = ts.flatMap names := by
  induction ts with
  | nil => rfl
  | cons t ts ih => simp [namesList, ih]

mutual

/-- All foreign values in the term, from left to right. -/
def foreignValues : Term → List Expression
  | .sym _ => []
  | .app _ args => foreignValuesList args
  | .foreign value => [value]

def foreignValuesList : List Term → List Expression
  | [] => []
  | t :: ts => t.foreignValues ++ foreignValuesList ts

end

theorem foreignValuesList_eq_flatMap (ts : List Term) :
    foreignValuesList ts = ts.flatMap foreignValues := by
  induction ts with
  | nil => rfl
  | cons t ts ih => simp [foreignValuesList, ih]

/-- The marks around and between the arguments of an application. -/
structure Marks where
  opening : String
  separator : String
  closing : String

/-- Round brackets and a comma followed by a space. -/
def Marks.spaced : Marks := ⟨"(", ", ", ")"⟩

/-- Round brackets and a bare comma. -/
def Marks.tight : Marks := ⟨"(", ",", ")"⟩

def Marks.enclose (m : Marks) (args : List String) : String :=
  m.opening ++ String.intercalate m.separator args ++ m.closing

mutual

/-- A term written with the given marks. An application shows its marks even
when it has no arguments. -/
def write (m : Marks) : Term → String
  | .sym name => name
  | .app name args => name ++ m.enclose (writeList m args)
  | .foreign value => value.innerText

/-- The arguments of an application, each written. -/
def writeList (m : Marks) : List Term → List String
  | [] => []
  | t :: ts => t.write m :: writeList m ts

end

def text : Term → String
  | .foreign value => value.text
  | t => t.write .spaced

mutual

def toExpression : Term → Expression
  | .sym name => .sym name
  | .app name args => .app name (toExpressions args)
  | .foreign value => value

def toExpressions : List Term → List Expression
  | [] => []
  | t :: ts => t.toExpression :: toExpressions ts

end

mutual

/-- The term of an expression. Only symbols and applications are terms of the
logic. -/
def ofExpression : Expression → Term
  | .sym name => .sym name
  | .app name args => .app name (ofExpressions args)
  | .leaf value => .foreign (.leaf value)
  | .compound shape parts => .foreign (.compound shape parts)

def ofExpressions : List Expression → List Term
  | [] => []
  | e :: es => ofExpression e :: ofExpressions es

end

end Term

end Clausal
