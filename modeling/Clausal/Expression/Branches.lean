import Clausal.Expression.Logic

/-!
# Values in branches

An expression may have one value or another, by the first of several conditions that
holds. Branches that never hold are left out, nothing comes after a branch that always
holds, and neighbours with the same value or the same condition are one branch.
-/

namespace Clausal.Expression

/-- A value with the condition under which it counts. -/
structure Branch where
  value : Expression
  condition : Expression
  deriving DecidableEq

namespace Branch

def ofPair? : Expression → Option Branch
  | .compound .tuple [value, condition] =>
      if condition.isProposition then some ⟨value, condition⟩ else none
  | _ => none

def pair (b : Branch) : Expression := .compound .tuple [b.value, b.condition]

/-- Branches without those that never hold, up to the first that always holds. -/
def reachable : List Branch → List Branch
  | [] => []
  | b :: rest =>
      if b.condition = .truth false then reachable rest
      else if b.condition = .truth true then [b]
      else b :: reachable rest

end Branch

/-- A number in front of an expression, and what is left. -/
def leadingFactor (e : Expression) : Rat × Expression :=
  match e with
  | .compound .product (.number q :: rest) =>
      (q, match rest with
        | [e] => e
        | rest => .compound .product rest)
  | e => (1, e)

/-- A number among the terms of an expression, and what is left. -/
def leadingTerm (e : Expression) : Rat × Expression :=
  match e with
  | .compound .sum (.number q :: rest) =>
      (q, match rest with
        | [e] => e
        | rest => .compound .sum rest)
  | e => (0, e)

/-- A comparison with all numbers on its right side. -/
def solvedForm (c : Comparison) (d e : Expression) : Expression :=
  let (c, d, e) := canonical c d e
  if e.isTruth || (e.isProposition && !e.isSymbol) then .compound (.comparison c) [d, e]
  else
    let (term, rest) := leadingTerm d
    let (factor, d) := leadingFactor rest
    let e := product [sum [e, .number (-term)], .number (1 / factor)]
    related (if factor < 0 then mirrored c else c) d e

mutual

/-- A condition with all comparisons in it solved. -/
def solved : Expression → Expression
  | .compound (.comparison c) [d, e] => solvedForm c d e
  | .compound .and parts => joinAll .and (solvedAll parts)
  | .compound .or parts => joinAll .or (solvedAll parts)
  | e => e

/-- The conditions of a list with all comparisons in them solved. -/
def solvedAll : List Expression → List Expression
  | [] => []
  | e :: es => solved e :: solvedAll es

end

/-- The operands of a conjunction, or the condition by itself. -/
def conjuncts : Expression → List Expression
  | .compound .and parts => parts
  | e => [e]

/-- A condition without those of its conjuncts that hold because earlier conditions do
not. -/
def conditionAfter (seen : List Expression) (condition : Expression) : Expression :=
  let holds (e : Expression) : Bool :=
    match e with
    | .compound (.comparison c) [d, e] =>
        let (c, d, e) := canonical (opposed c) d e
        seen.contains (.compound (.comparison c) [d, e])
    | _ => false
  joinAll .and ((conjuncts condition).filter fun e => !holds e)

/-- Branches that were looked at, the last one first, with one more. -/
def withBranch (done : List Branch) (b : Branch) : List Branch :=
  match done with
  | [] => [b]
  | last :: rest =>
      if last.value = b.value then
        ⟨b.value, joined .or b.condition last.condition⟩ :: rest
      else if last.condition = b.condition then done
      else b :: done

/-- Branches with simple conditions, without those that come too late. -/
def collapsed (seen : List Expression) (done : List Branch) : List Branch → List Branch
  | [] => done.reverse
  | b :: rest =>
      let condition := solved b.condition
      let repeats := seen.contains condition ||
        (match condition with
          | .compound .and parts => parts.any seen.contains
          | _ => false)
      if repeats then collapsed seen done rest
      else
        let condition := conditionAfter seen condition
        collapsed (condition :: seen) (withBranch done ⟨b.value, condition⟩) rest

def branchFunction : String := "Piecewise"

/-- The value of branches. The fuel bounds the number of rounds in which they get
simpler. -/
def chosenWithin : (fuel : Nat) → List Branch → Expression
  | 0, branches => .compound (.known branchFunction) (branches.map Branch.pair)
  | fuel + 1, branches =>
      match Branch.reachable branches with
      | [] => .constant .undefined
      | [⟨value, .truth true⟩] => value
      | reached =>
          let simpler := collapsed [] [] reached
          if simpler = reached then .compound (.known branchFunction) (reached.map Branch.pair)
          else chosenWithin fuel simpler

def chosen? (pairs : List Expression) : Option Expression :=
  if pairs.isEmpty then none
  else (pairs.mapM Branch.ofPair?).map fun branches => chosenWithin (pairs.length + 4) branches

end Clausal.Expression
