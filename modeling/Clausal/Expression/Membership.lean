import Clausal.Expression.Interval
import Clausal.Expression.Logic
import Clausal.Expression.Trait

/-!
# Members of sets

Whether an expression belongs to a set is decided for numbers. Otherwise it is said by a
proposition: the expression equals a member, or it lies between two ends. Of a set of numbers
that have a trait, nothing is said about an expression for which the trait is not known.
-/

namespace Clausal.Expression

/-- The answers to whether an expression has all of some traits. -/
def traits? (questions : List String) (e : Expression) : Option Bool :=
  let answers := questions.map fun question => e.trait? question
  if answers.contains (some false) then some false
  else if answers.contains none then none
  else some true

def domainTraits? : String → Option (List String)
  | "Integers" => some ["integer"]
  | "Naturals" => some ["integer", "positive"]
  | "Naturals0" => some ["integer", "nonnegative"]
  | "Rationals" => some ["rational"]
  | _ => none

/-- An expression lies between the ends of a span. -/
def Span.placed (s : Span) (e : Expression) : Expression :=
  Expression.joined .and (related (if s.lowOpen then .lt else .le) s.low e)
    (related (if s.highOpen then .lt else .le) e s.high)

/-- The span of all real numbers. -/
def realSpan : Span :=
  ⟨.constant .negativeInfinity, .constant .infinity, true, true⟩

/-- An expression that is known to be no real number. -/
def isNoReal (e : Expression) : Bool := e.trait? "real" = some false

/-- What says that an expression belongs to a set: a truth value or another proposition, or
nothing if the set only asks for a trait that is not known. -/
def belonging (e : Expression) : Expression → Option Expression
  | .compound .set members =>
      if members.contains e then some (.truth true)
      else some (joinAll .or (members.map fun member => related .eq member e))
  | .leaf (.domain "EmptySet") => some (.truth false)
  | .leaf (.domain "UniversalSet") => some (.truth true)
  | .leaf (.domain "Reals") =>
      if isNoReal e then some (.truth false)
      else if e.trait? "real" = some true then some (.truth true)
      else some (realSpan.placed e)
  | .leaf (.domain name) =>
      ((domainTraits? name).bind fun questions => traits? questions e).map .truth
  | set =>
      match Span.ofExpression? set with
      | some s => some (if isNoReal e then .truth false else s.placed e)
      | none => none

def isSet (e : Expression) : Bool :=
  match e with
  | .compound .set _ => true
  | .leaf (.domain _) => true
  | .compound (.known kind) _ => ["Interval", "Union"].contains kind
  | _ => false

def contained (e set : Expression) : Expression :=
  match belonging e set with
  | some (.truth b) => .truth b
  | _ => .compound (.known "Contains") [e, set]

/-- What a set answers about an expression: what says that it belongs to it. -/
def containing (set e : Expression) : Expression :=
  (belonging e set).getD (.compound (.known "Contains") [e, set])

/-- Finite sets of numbers, whose members are known to differ if they are not the same. -/
def numberMembers? (set : Expression) : Option (List Expression) :=
  set.members?.bind fun members => if members.all isNumber then some members else none

/-- The union of finite sets, or of intervals. -/
def unionOfSets? (sets : List Expression) : Option Expression :=
  match sets.mapM members? with
  | some groups => some (setOf groups.flatten)
  | none => unionOf? sets

/-- The common part of finite sets of numbers, or of intervals. -/
def intersectionOfSets? (sets : List Expression) : Option Expression :=
  match sets.mapM numberMembers? with
  | some (first :: rest) => some (setOf (first.filter fun e => rest.all fun s => s.contains e))
  | _ => intersectionOf? sets

/-- The numbers of a finite set that do not belong to another set. -/
def withoutMembers? (set other : Expression) : Option Expression := do
  let members ← numberMembers? set
  let kept ← members.filterM fun e =>
    match belonging e other with
    | some (.truth b) => some !b
    | _ => none
  some (setOf kept)

def ofSets? (name : String) (sets : List Expression) : Option Expression :=
  match name, sets with
  | "Union", sets => unionOfSets? sets
  | "Intersection", sets => intersectionOfSets? sets
  | "Complement", [s, t] => withoutMembers? s t
  | "Contains", [e, s] => if s.isSet then some (contained e s) else none
  | "union", [s, t] => unionOfSets? [s, t]
  | "intersect", [s, t] => intersectionOfSets? [s, t]
  | "intersection", [s, t] => intersectionOfSets? [s, t]
  | "contains", [s, e] => some (containing s e)
  | _, _ => none

/-- What can be done with every set, as far as it is an operation on sets. -/
def setOperations : List String := ["union", "intersect", "intersection", "contains"]

def Span.part? (name : String) (s : Span) : Option Expression :=
  match name with
  | "start" => some s.low
  | "left" => some s.low
  | "inf" => some s.low
  | "end" => some s.high
  | "right" => some s.high
  | "sup" => some s.high
  | "left_open" => some (.truth s.lowOpen)
  | "right_open" => some (.truth s.highOpen)
  | "measure" => some (difference s.high s.low)
  | _ => none

end Clausal.Expression
