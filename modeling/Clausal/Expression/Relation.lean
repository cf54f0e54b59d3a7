import Clausal.Expression.Arithmetic

/-!
# Comparisons of expressions

A comparison is decided when both sides are real or infinite numbers, or when their
difference is a number. Other comparisons stand for themselves. Comparisons that say
the same in different ways, with the sides or the signs exchanged, have one canonical
form (`canonical`).
-/

namespace Clausal.Expression

/-- A comparison of two numbers. -/
def decide (c : Comparison) (p q : Rat) : Bool :=
  match c with
  | .eq => p = q
  | .ne => p ≠ q
  | .lt => p < q
  | .le => p ≤ q
  | .gt => q < p
  | .ge => q ≤ p

/-- A comparison of two texts, character by character. -/
def decideTexts (c : Comparison) (s t : String) : Bool :=
  match c with
  | .eq => s = t
  | .ne => s ≠ t
  | .lt => s < t
  | .le => !(t < s)
  | .gt => t < s
  | .ge => !(s < t)

def isReflexive : Comparison → Bool
  | .eq => true
  | .le => true
  | .ge => true
  | _ => false

def comparisonNamed? (kind : String) : Option Comparison :=
  [Comparison.eq, .ne, .lt, .le, .gt, .ge].find? fun c => c.kind = kind

/-- Where a quantity stands: below all real numbers, among them, or above them. -/
def rank? : Expression → Option (Int × Rat)
  | .constant .infinity => some (1, 0)
  | .constant .negativeInfinity => some (-1, 0)
  | e => e.magnitude?.map fun q => (0, q)

/-- A comparison of two ranks. -/
def decideRanks (c : Comparison) (r s : Int × Rat) : Bool :=
  if r.1 = s.1 then decide c r.2 s.2 else decide c r.1 s.1

def isTruth : Expression → Bool
  | .truth _ => true
  | _ => false

/-- Expressions that cannot be equal: different truth values, or a proposition and
something else that is no symbol. -/
def areUnlike (d e : Expression) : Bool :=
  (d.isTruth && e.isTruth && d ≠ e) ||
    (!d.isSymbol && !e.isSymbol && d.isProposition != e.isProposition)

/-- A comparison of two expressions. It is decided if both are real or infinite
numbers, or if their difference is a number. -/
def related (c : Comparison) (d e : Expression) : Expression :=
  if d = e then .truth (isReflexive c)
  else if (c = .eq ∨ c = .ne) ∧ areUnlike d e then .truth (c = .ne)
  else
    match d.rank?, e.rank? with
    | some r, some s => .truth (decideRanks c r s)
    | _, _ =>
        match d.difference e with
        | .number q => .truth (decide c q 0)
        | _ => .compound (.comparison c) [d, e]

/-- An expression counts as negative: a negative number or product, or a sum with
more negative terms than others. In a sum with as many of both kinds the order of
the sum and its opposite decides. -/
def isMinus (e : Expression) : Bool :=
  match e with
  | .compound .sum terms =>
      let negative := (terms.filter isNegative).length
      if negative * 2 = terms.length then
        e.profile.key.order e.minus.profile.key == .lt
      else terms.length < negative * 2
  | e => e.isNegative

def mirrored : Comparison → Comparison
  | .eq => .eq
  | .ne => .ne
  | .lt => .gt
  | .le => .ge
  | .gt => .lt
  | .ge => .le

def opposed : Comparison → Comparison
  | .eq => .ne
  | .ne => .eq
  | .lt => .ge
  | .le => .gt
  | .gt => .le
  | .ge => .lt

/-- The sides of a comparison in order: a closed side comes last, and otherwise the
smaller one comes first. -/
def sidesInOrder (c : Comparison) (d e : Expression) : Comparison × Expression × Expression :=
  let exchanged :=
    if !e.isOpen then d.isNumber && e.isNumber && e.value < d.value
    else !d.isOpen || orderedBySize [d, e] ≠ [d, e]
  if exchanged then (mirrored c, e, d) else (c, d, e)

/-- A comparison with the signs of both sides changed. -/
def signsChanged (c : Comparison) (d e : Expression) : Comparison × Expression × Expression :=
  (mirrored c, d.minus, e.minus)

/-- The form that comparisons have in common if they say the same. -/
def canonical (c : Comparison) (d e : Expression) : Comparison × Expression × Expression :=
  let (c, d, e) := sidesInOrder c d e
  if d.isTruth || e.isTruth then (c, d, e)
  else if d.isMinus then signsChanged c d e
  else if e.isOpen && e.isMinus && (orderedBySize [d, e.minus]).head? ≠ some d then
    signsChanged (mirrored c) e d
  else (c, d, e)

/-- The canonical form of an expression that is a comparison. -/
def canonicalForm? : Expression → Option (Comparison × Expression × Expression)
  | .compound (.comparison c) [d, e] => some (canonical c d e)
  | _ => none

/-- Expressions without comparisons that say the same as an earlier one. There are none
if two comparisons say the opposite. -/
def distinctComparisons? (seen : List (Comparison × Expression × Expression)) :
    List Expression → Option (List Expression)
  | [] => some []
  | e :: es =>
      match e with
      | .compound (.comparison c) [d, d'] =>
          let form := canonical c d d'
          let (c, d, d') := form
          if seen.contains form then distinctComparisons? seen es
          else if seen.contains (canonical (opposed c) d d') then none
          else (distinctComparisons? (form :: seen) es).map (e :: ·)
      | e => (distinctComparisons? seen es).map (e :: ·)

end Clausal.Expression
