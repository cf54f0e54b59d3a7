import Clausal.Worksheet.Sequence

/-!
# Ranges of items

A range takes the items of a sequence at some indices with a distance between
them. Its bounds may be missing and may count from the end, and what lies outside
of the sequence is not taken. With a negative distance the items are taken from
the end on.
-/

namespace Clausal.Worksheet

/-- A bound of a range in a sequence, counted from the front and moved to the next
place that the range may reach. -/
def clampedBound (size low high bound : Int) : Int :=
  let bound := if bound < 0 then bound + size else bound
  if bound < low then low else if high < bound then high else bound

/-- The indices from a start up to a stop, both of which lie in a sequence of the
given size or next to it. -/
def indicesFrom (start stop step : Int) : (fuel : Nat) → List Int
  | 0 => []
  | fuel + 1 =>
      if (0 < step ∧ start < stop) ∨ (step < 0 ∧ stop < start) then
        start :: indicesFrom (start + step) stop step fuel
      else []

/-- The indices of a range in a sequence of a size. -/
def rangeIndices (size : Nat) (start? stop? : Option Int) (step : Int) : List Int :=
  let n : Int := size
  let low := if step < 0 then -1 else 0
  let high := if step < 0 then n - 1 else n
  let start := (start?.map (clampedBound n low high)).getD (if step < 0 then high else low)
  let stop := (stop?.map (clampedBound n low high)).getD (if step < 0 then low else high)
  indicesFrom start stop step (size + 1)

namespace Value

/-- A bound of a range. -/
def rangeBound : Value → Except Fault (Option Int)
  | .scalar .null => .ok none
  | v =>
      match v.integer? with
      | some n => .ok (some n)
      | none => .error .badRange

def hasFields : Value → Bool
  | .record _ => true
  | .expression (.compound .table _) => true
  | _ => false

/-- The items of a sequence at the indices of a range, as a sequence of its kind. -/
def sliced (v start stop step : Value) : Except Fault Value :=
  match v, v.sequence? with
  | .expression _, some _ => .error .inapplicable
  | _, some (sequence, items) => do
      let step ← step.rangeBound
      if step = some 0 then .error .zeroStep
      else
        let start ← start.rangeBound
        let stop ← stop.rangeBound
        let taken := (rangeIndices items.length start stop (step.getD 1)).filterMap fun i =>
          items[i.toNat]?
        match sequence with
        | .list => .ok (.list taken)
        | .tuple => .ok (.tuple taken)
        | .text => .ok (.ofText (String.join (taken.map textPart)))
        | .binders => .error .inapplicable
  | v, none => .error (if v.hasFields then .notKey "slice" else .notIndexed v.owner)
where
  textPart : Value → String
    | .scalar (.text s) => s
    | _ => ""

end Value

end Clausal.Worksheet
