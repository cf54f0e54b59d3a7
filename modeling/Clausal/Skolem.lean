import Clausal.FreshName
import Clausal.Prefix
import Clausal.Formula.Substitution

/-!
# Skolem form

The existential quantifiers of a prefix are removed by putting witnesses in for
their variables. A witness is a new constant if no universal quantifier stands
to its left, and otherwise a new function of all universal variables to its
left. Constants and functions are numbered separately. The universal variables
remain free in the matrix.
-/

namespace Clausal

/-- A matrix with witnesses. -/
structure Skolemized where
  matrix : Formula
  mapping : List (String × Term)
  universals : List String
  deriving DecidableEq

namespace Skolemized

def constantStem : String := "sk_c"

def functionStem : String := "sk_f"

/-- What the removal of quantifiers carries along: the result so far, the two
counters, and the names in use. -/
structure State where
  result : Skolemized
  constants : Int
  functions : Int
  used : List String

def State.witness (s : State) (x : String) (t : Term) : State :=
  { s with result :=
      { s.result with
        matrix := s.result.matrix.subst [(x, t)]
        mapping := s.result.mapping ++ [(x, t)] } }

/-- Removes one quantifier. -/
def State.step (s : State) (b : Binder) : State :=
  match b.quantifier with
  | .all => { s with result := { s.result with universals := s.result.universals ++ [b.name] } }
  | .ex =>
      if s.result.universals.isEmpty then
        let minted := mint constantStem s.constants s.used
        { s with constants := minted.counter, used := minted.used }.witness b.name
          (.sym minted.name)
      else
        let minted := mint functionStem s.functions s.used
        { s with functions := minted.counter, used := minted.used }.witness b.name
          (.app minted.name (s.result.universals.map .sym))

/-- The names that witnesses have to avoid. -/
def reserved (p : Prefix) (matrix : Formula) : List String :=
  matrix.names ++ p.map Binder.name ++ matrix.predicates

/-- The state before any quantifier is removed. -/
def State.start (p : Prefix) (matrix : Formula) : State :=
  ⟨⟨matrix, [], []⟩, 0, 0, reserved p matrix⟩

end Skolemized

/-- The Skolem form of a prenex formula. The witnesses are put in from left to
right, each into the matrix with the earlier ones. -/
def skolemize (p : Prefix) (matrix : Formula) : Skolemized :=
  (p.foldl Skolemized.State.step (.start p matrix)).result

end Clausal
