import Clausal.Expression.Basic
import Clausal.Floating.Shortest
import Clausal.Text.Quoted

/-!
# Plain values

Options and worksheets take values from outside that are no formulas: nothing,
truth values, numbers, texts, lists and records of such values. They are never
computed with, only checked and named in messages.
-/

namespace Clausal

/-- A plain value without parts. -/
inductive Scalar where
  | null
  | truth (b : Bool)
  | int (n : Int)
  | floating (x : Floating)
  | text (s : String)
  deriving DecidableEq

def Scalar.shown : Scalar → String
  | .null => "None"
  | .truth true => "True"
  | .truth false => "False"
  | .int n => Int.repr n
  | .floating x => x.text
  | .text s => Text.quoted s

/-- A scalar is an integer with too many digits to be written. -/
def Scalar.isLong : Scalar → Bool
  | .int n => Expression.isLongInteger n.natAbs
  | _ => false

/-- The number that a scalar stands for. A truth value counts as one or zero. -/
def Scalar.number? : Scalar → Option Rat
  | .truth b => some (if b then 1 else 0)
  | .int n => some n
  | .floating x => some x.toRat
  | .null => none
  | .text _ => none

/-- Scalars are the same when they are equal or stand for the same number. -/
def Scalar.same (a b : Scalar) : Bool :=
  match a.number?, b.number? with
  | some m, some n => m = n
  | _, _ => a == b

/-- A plain value. -/
inductive Datum where
  | scalar (s : Scalar)
  | list (items : List Datum)
  | record (fields : List (String × Datum))

instance : Inhabited Datum := ⟨.scalar .null⟩

mutual

def Datum.shown : Datum → String
  | .scalar s => s.shown
  | .list items => "[" ++ String.intercalate ", " (Datum.shownItems items) ++ "]"
  | .record fields => "\x7b" ++ String.intercalate ", " (Datum.shownFields fields) ++ "\x7d"

def Datum.shownItems : List Datum → List String
  | [] => []
  | item :: items => item.shown :: Datum.shownItems items

def Datum.shownFields : List (String × Datum) → List String
  | [] => []
  | (key, value) :: fields => (Text.quoted key ++ ": " ++ value.shown) :: Datum.shownFields fields

end

mutual

/-- An integer with too many digits stands somewhere inside a value. -/
def Datum.holdsLong : Datum → Bool
  | .scalar s => s.isLong
  | .list items => Datum.anyHoldsLong items
  | .record fields => Datum.anyFieldHoldsLong fields

/-- An integer with too many digits stands somewhere inside the values of a list. -/
def Datum.anyHoldsLong : List Datum → Bool
  | [] => false
  | item :: items => item.holdsLong || Datum.anyHoldsLong items

/-- An integer with too many digits stands somewhere inside the values of a record. -/
def Datum.anyFieldHoldsLong : List (String × Datum) → Bool
  | [] => false
  | (_, value) :: fields => value.holdsLong || Datum.anyFieldHoldsLong fields

end

end Clausal
