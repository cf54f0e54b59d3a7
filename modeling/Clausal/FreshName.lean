import Clausal.Failure

/-!
# Fresh names

A fresh name is a stem with a number, the smallest for which the name is not in
use yet. Bound variables keep the letters of their old names as stem and count
from one; witnesses have fixed stems, and each stem has a counter of its own
that only goes up.

Numbers of any size have a name, but one with too many digits cannot be written.
For counters from outside the searches are therefore given twice: as the names
that there are, and as what happens when these are written one after the other.
-/

namespace Clausal

/-- A stem with a number. -/
def numbered (stem : String) (n : Int) : String := stem ++ Int.repr n

/-- The first number from `n` on whose name is not in use, if at most `bound`
of the names are. -/
def firstUnusedFrom (stem : String) (used : List String) : (bound : Nat) → (n : Int) → Int
  | 0, n => n
  | bound + 1, n =>
      if used.contains (numbered stem n) then firstUnusedFrom stem used bound (n + 1) else n

/-- The first number after `counter` whose name is not in use. Of any
`used.length + 1` names with one stem some name is unused, so the search ends. -/
def nextUnused (stem : String) (used : List String) (counter : Int) : Int :=
  firstUnusedFrom stem used used.length (counter + 1)

/-- A fresh name with the number it carries and the names in use afterwards. -/
structure Minted where
  counter : Int
  name : String
  used : List String
  deriving DecidableEq

/-- A fresh name with the given stem and a number above the counter. -/
def mint (stem : String) (counter : Int) (used : List String) : Minted :=
  let n := nextUnused stem used counter
  ⟨n, numbered stem n, numbered stem n :: used⟩

/-- The unaccented letters of a name, or the letter `x` if it has none. -/
def variableStem (name : String) : String :=
  let letters := name.toList.filter Char.isAlpha
  if letters.isEmpty then "x" else String.ofList letters

def mintVariable (name : String) (used : List String) : Minted := mint (variableStem name) 0 used

/-- Fresh names for variables, one after the other, with the names in use
afterwards. -/
def mintVariables : List String → (used : List String) → List String × List String
  | [], used => ([], used)
  | name :: names, used =>
      let minted := mintVariable name used
      let (rest, used) := mintVariables names minted.used
      (minted.name :: rest, used)

/-- A stem with a number, unless the number has too many digits to be written. -/
def numbered? (stem : String) (n : Int) : Except Failure String := do
  let digits ← (Scalar.int n).text?
  .ok (stem ++ digits)

/-- The search of `firstUnusedFrom`, where every name is written before it is looked up. -/
def firstUnusedFrom? (stem : String) (used : List String) :
    (bound : Nat) → (n : Int) → Except Failure Int
  | 0, n => do
      let _ ← numbered? stem n
      .ok n
  | bound + 1, n => do
      let name ← numbered? stem n
      if used.contains name then firstUnusedFrom? stem used bound (n + 1) else .ok n

/-- A fresh name, unless the search for it comes to a number that cannot be written. -/
def mint? (stem : String) (counter : Int) (used : List String) : Except Failure Minted := do
  let n ← firstUnusedFrom? stem used used.length (counter + 1)
  let name ← numbered? stem n
  .ok ⟨n, name, name :: used⟩

def mintVariable? (name : String) (used : List String) : Except Failure Minted :=
  mint? (variableStem name) 0 used

/-- Fresh names for variables like those of `mintVariables`, if they can be written. -/
def mintVariables? :
    List String → (used : List String) → Except Failure (List String × List String)
  | [], used => .ok ([], used)
  | name :: names, used => do
      let minted ← mintVariable? name used
      let (rest, used) ← mintVariables? names minted.used
      .ok (minted.name :: rest, used)

/-- Fresh names for witnesses, one after the other, with one counter for all
stems and the names in use afterwards, if they can be written. -/
def mintWitnesses? : List String → (counter : Int) → (used : List String) →
    Except Failure (List (Int × String) × List String)
  | [], _, used => .ok ([], used)
  | stem :: stems, counter, used => do
      let minted ← mint? stem counter used
      let (rest, used) ← mintWitnesses? stems minted.counter minted.used
      .ok ((minted.counter, minted.name) :: rest, used)

end Clausal
