import Clausal.Expression.Relation
import Clausal.Formula.Basic

/-!
# Propositions

Symbols and truth values can be negated and joined to propositions. A junction
has no repeated operands and no operand that is a junction of the same kind or a
truth value, and it keeps its operands in order. Comparisons that say the same count
as one operand, and opposite ones decide the junction.

The negation normal form of a proposition (`nnf`) has negations only at operands
that are no propositions with operands themselves, and no connectives but
junctions. On the way, an operand next to its negation decides the junction.
-/

namespace Clausal

/-- The two junctions of propositions. -/
def Junction.shape : Junction → Shape
  | .and => .and
  | .or => .or

/-- The truth value that decides a junction on its own. -/
def Junction.deciding : Junction → Bool
  | .and => false
  | .or => true

namespace Expression

/-- The truth value that an expression counts as, if it is a truth value or a
number. -/
def counted? : Expression → Option Bool
  | .truth b => some b
  | .number q => some (q ≠ 0)
  | .approximate x => some (x.value ≠ 0)
  | _ => none

/-- The truth value that an expression is in a junction: itself, or one or
zero. -/
def decided? : Expression → Option Bool
  | .truth b => some b
  | .number q => if q = 0 then some false else if q = 1 then some true else none
  | _ => none

/-- An operand with numbers taken as truth values. -/
def asTruth (e : Expression) : Expression := (e.counted?.map truth).getD e

def negate (e : Expression) : Expression :=
  match e with
  | .compound .not [e] => e
  | .compound (.comparison c) parts => .compound (.comparison (opposed c)) parts
  | e =>
      match e.counted? with
      | some b => .truth (!b)
      | none => .compound .not [e]

/-- The operands of an expression in a junction: its own if it is such a
junction. -/
def operandsIn (j : Junction) (e : Expression) : List Expression :=
  match e with
  | .compound shape parts => if shape = j.shape then parts else [e]
  | e => [e]

/-- A junction of operands that do not decide it. -/
def junctionOf (j : Junction) (operands : List Expression) : Expression :=
  match orderedBySize operands.eraseDups with
  | [] => .truth (!j.deciding)
  | [e] => e
  | operands => .compound j.shape operands

/-- The operands of expressions in a junction, without truth values that do not
decide it. There are none if one decides it. -/
def undecided? (j : Junction) (es : List Expression) : Option (List Expression) :=
  let operands := es.flatMap (operandsIn j)
  if operands.any fun e => e.decided? == some j.deciding then none
  else some (operands.filter fun e => e.decided?.isNone)

/-- Expressions joined by a junction. Comparisons are looked at among all operands of a
conjunction, and among the given expressions of a disjunction. -/
def joinAll (j : Junction) (es : List Expression) : Expression :=
  let kept :=
    match j with
    | .and => undecided? .and es >>= fun operands =>
        distinctComparisons? [] (orderedBySize operands.eraseDups)
    | .or => distinctComparisons? [] es >>= undecided? .or
  match kept with
  | some operands => junctionOf j operands
  | none => .truth j.deciding

/-- The conjunction or disjunction of two expressions. -/
def joined (j : Junction) (d e : Expression) : Expression := joinAll j [d, e]

/-- The implication from one expression to another. -/
def implication (d e : Expression) : Expression :=
  let d := asTruth d
  let e := asTruth e
  if d.isTruth || e.isTruth then joined .or d.negate e
  else if d = e then .truth true
  else
    match d.canonicalForm?, e.canonicalForm?, d.negate.canonicalForm? with
    | some form, some target, some opposite =>
        if form = target then .truth true
        else if opposite = target then e
        else .compound .implies [d, e]
    | _, _, _ => .compound .implies [d, e]

/-- An expression is among others or leaves them, each time it occurs. -/
def toggled (e : Expression) (es : List Expression) : List Expression :=
  if es.contains e then es.erase e else es ++ [e]

/-- The first comparison among expressions that says the same as a comparison or its
opposite, and whether it is the opposite. -/
def partnerOf? (e : Expression) (es : List Expression) : Option (Expression × Bool) :=
  es.findSome? fun d =>
    if d.canonicalForm?.isNone then none
    else if d.canonicalForm? = e.negate.canonicalForm? then some (d, true)
    else if d.canonicalForm? = e.canonicalForm? then some (d, false)
    else none

/-- Expressions without pairs of opposite comparisons, and whether the number of pairs
is odd. The fuel bounds the number of expressions. -/
def withoutOpposites : (fuel : Nat) → List Expression → List Expression × Bool
  | 0, es => (es, false)
  | _, [] => ([], false)
  | fuel + 1, e :: es =>
      let partner? := if e.canonicalForm?.isSome then partnerOf? e es else none
      match partner? with
      | some (d, true) =>
          let (rest, odd) := withoutOpposites fuel (es.erase d)
          (rest, !odd)
      | _ =>
          let (rest, odd) := withoutOpposites fuel es
          (e :: rest, odd)

/-- The operands of an exclusive disjunction, of which each counts by how often it
occurs. True operands count as one truth value. -/
def exclusiveOperands (es : List Expression) : List Expression :=
  let counted := es.foldl (fun kept e =>
    match asTruth e with
    | .truth false => kept
    | .compound (.known "Xor") parts => parts.foldl (fun kept part => toggled part kept) kept
    | e => toggled e kept) []
  let (kept, odd) := withoutOpposites counted.length counted
  if odd then toggled (.truth true) kept else kept

/-- The exclusive disjunction of expressions: an odd number of them is true. -/
def exclusive (es : List Expression) : Expression :=
  let operands := exclusiveOperands es
  let parts := operands.filter fun e => !e.isTruth
  let body : Expression :=
    match parts with
    | [] => .truth false
    | [e] => e
    | parts => .compound (.known "Xor") (orderedBySize parts)
  if operands.length = parts.length then body else body.negate

/-- The equivalence of expressions: all are true or none. -/
def equivalence (es : List Expression) : Expression :=
  let operands := (es.map asTruth).eraseDups
  let comparisons := operands.filter fun e => e.canonicalForm?.isSome
  let forms := comparisons.filterMap canonicalForm?
  if comparisons.any fun e => forms.any fun form => e.negate.canonicalForm? = some form then
    .truth false
  else
    let isSame (d e : Expression) : Bool := d.canonicalForm?.isSome &&
      d.canonicalForm? = e.canonicalForm?
    let repeated := operands.filter fun e => 1 < (operands.filter (isSame e)).length
    let kept := operands.filter fun e => !repeated.contains e
    let kept := if repeated.isEmpty then kept else (kept ++ [truth true]).eraseDups
    if kept.length ≤ 1 then .truth true
    else if kept.contains (.truth true) then joinAll .and (kept.erase (.truth true))
    else if kept.contains (.truth false) then
      joinAll .and ((kept.erase (.truth false)).map negate)
    else .compound (.known "Equivalent") (orderedBySize kept)

mutual

/-- The symbols that stand for truth values in a proposition. -/
def truthSymbols : Expression → List Expression
  | .sym name => [.sym name]
  | .compound (.comparison c) parts =>
      if (c = .eq ∨ c = .ne) ∧ parts.any isTruth then parts.filter isSymbol else []
  | .compound .and parts => truthSymbolsOf parts
  | .compound .or parts => truthSymbolsOf parts
  | .compound .not parts => truthSymbolsOf parts
  | .compound .implies parts => truthSymbolsOf parts
  | .compound (.known function) parts =>
      if connectives.contains function then truthSymbolsOf parts else []
  | _ => []

/-- The symbols that stand for truth values in the propositions of a list. -/
def truthSymbolsOf : List Expression → List Expression
  | [] => []
  | e :: es => truthSymbols e ++ truthSymbolsOf es

end

/-- The condition of an alternative. An equality between a truth value and something
else is a condition itself, and a symbol for a truth value equals nothing else. -/
def conditionOf (condition yes no : Expression) : Expression :=
  match condition with
  | .compound (.comparison c) [d, e] =>
      if c ≠ .eq ∧ c ≠ .ne then condition
      else
        let symbols := truthSymbols yes ++ truthSymbols no
        let others := ([d, e].eraseDups).filter fun part => !symbols.contains part
        let meant? : Option Expression :=
          match d, e with
          | .truth true, e => some e
          | d, .truth true => some d
          | .truth false, e => some e.negate
          | d, .truth false => some d.negate
          | _, _ => if others.length = 1 then some (.truth false) else none
        match meant? with
        | some meant => if c = .eq then meant else meant.negate
        | none => condition
  | condition => condition

/-- One of two propositions, depending on a condition. -/
def alternative (condition yes no : Expression) : Expression :=
  let condition := conditionOf (truthOf condition) (truthOf yes) (truthOf no)
  let yes := truthOf yes
  let no := truthOf no
  match condition, yes, no with
  | .truth b, yes, no => if b then yes else no
  | condition, yes, no =>
      if yes = no then yes
      else if yes = .truth true ∧ no = .truth false then condition
      else if yes = .truth false ∧ no = .truth true then condition.negate
      else .compound (.known "ITE") [condition, yes, no]
where
  /-- An operand, of which one and zero count as truth values. -/
  truthOf (e : Expression) : Expression := (e.decided?.map truth).getD e

/-- Joins operands from the left to the right. An operand next to its negation
decides the junction. -/
def joinExclusive (j : Junction) (operands : List Expression) : Expression :=
  let operands := operands.flatMap (operandsIn j)
  if operands.any fun e => operands.contains e.negate then .truth j.deciding
  else joinAll j operands

/-- An expression is no proposition with operands, or the negation of such a one. -/
def isLiteral : Expression → Bool
  | .compound .not [e] => !isFunction e
  | e => !isFunction e
where
  /-- A proposition with operands. -/
  isFunction : Expression → Bool
    | .compound .and _ => true
    | .compound .or _ => true
    | .compound .not _ => true
    | .compound .implies _ => true
    | .compound (.known function) _ => connectives.contains function
    | _ => false

/-- The disjunctions of operands of which an even or an odd number is negated. -/
def parityClauses (odd : Bool) : List Expression → List (List Expression)
  | [] => if odd then [] else [[]]
  | e :: es =>
      ((parityClauses odd es).map (e :: ·)) ++ (parityClauses (!odd) es).map (e.negate :: ·)

/-- Every operand implies the next one, and the last one the first. -/
def cycleClauses (first : Expression) : List Expression → List (List Expression)
  | [] => []
  | [e] => [[e.negate, first]]
  | d :: e :: es => [d.negate, e] :: cycleClauses first (e :: es)

/-- The junction that a proposition is, with its operands. -/
def junctionOperands? : Expression → Option (Junction × List Expression)
  | .compound .and parts => some (.and, parts)
  | .compound .or parts => some (.or, parts)
  | .compound .implies [d, e] => some (.or, [d.negate, e])
  | .compound (.known "Xor") parts =>
      some (.and, (parityClauses false parts).map (joinAll .or))
  | .compound (.known "Equivalent") (e :: es) =>
      some (.and, (cycleClauses e (e :: es)).map (joinAll .or))
  | .compound (.known "ITE") [c, d, e] => some (.and, [joined .or c.negate d, joined .or c e])
  | .compound .not [.compound .and parts] => some (.or, parts.map negate)
  | .compound .not [.compound .or parts] => some (.and, parts.map negate)
  | .compound .not [.compound .implies [d, e]] => some (.and, [d, e.negate])
  | .compound .not [.compound (.known "Xor") parts] =>
      some (.and, (parityClauses true parts).map (joinAll .or))
  | .compound .not [.compound (.known "Equivalent") parts] =>
      some (.and, [joinAll .or parts, joinAll .or (parts.map negate)])
  | .compound .not [.compound (.known "ITE") [c, d, e]] =>
      some (.and, [joined .or c e.negate, joined .or c.negate d.negate])
  | _ => none

/-- The negation normal form of a proposition. The fuel bounds the number of nested
propositions. -/
def nnfWithin : (fuel : Nat) → Expression → Expression
  | 0, e => e
  | fuel + 1, e =>
      match (if e.isLiteral then none else junctionOperands? e) with
      | some (j, operands) => joinExclusive j (operands.map (nnfWithin fuel))
      | none => e

def nnf (e : Expression) : Expression := nnfWithin (2 * e.weight) e

end Expression

end Clausal
