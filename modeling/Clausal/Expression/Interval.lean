import Clausal.Expression.Relation

/-!
# Intervals

All numbers between two ends, each of which may belong to them. An infinite end never
does. Intervals that meet are one interval, and those that do not meet stand side by side.
-/

namespace Clausal.Expression

/-- The numbers between two ends. An end that is open does not belong to them. -/
structure Span where
  low : Expression
  high : Expression
  lowOpen : Bool
  highOpen : Bool

namespace Span

def expression (s : Span) : Expression :=
  .compound (.known "Interval") [s.low, s.high, .truth s.lowOpen, .truth s.highOpen]

def ofExpression? : Expression → Option Span
  | .compound (.known "Interval") [low, high, .truth lowOpen, .truth highOpen] =>
      some ⟨low, high, lowOpen, highOpen⟩
  | _ => none

/-- One end stands before another one. -/
def isBelow (d e : Expression) : Bool :=
  match rank? d, rank? e with
  | some r, some s => decideRanks .lt r s
  | _, _ => false

/-- The set of a span: nothing if its ends stand in the wrong order, and one number if
they are the same. -/
def set (s : Span) : Expression :=
  let lowOpen := s.lowOpen || s.low = .constant .negativeInfinity
  let highOpen := s.highOpen || s.high = .constant .infinity
  let turned := isBelow s.high s.low
  if turned || s.low = .constant .infinity || s.high = .constant .negativeInfinity then emptySet
  else if s.low = s.high then if s.lowOpen || s.highOpen then emptySet else setOf [s.low]
  else Span.expression ⟨s.low, s.high, lowOpen, highOpen⟩

/-- One span begins before another one, or at the same place with the end. -/
def begins (s t : Span) : Bool :=
  isBelow s.low t.low || (s.low = t.low && (!s.lowOpen || t.lowOpen))

/-- Two spans, of which the first begins first, leave no gap. -/
def meets (s t : Span) : Bool :=
  isBelow t.low s.high || (t.low = s.high && !(t.lowOpen && s.highOpen))

/-- Two spans that leave no gap, as one. -/
def joined (s t : Span) : Span :=
  if isBelow s.high t.high then { s with high := t.high, highOpen := t.highOpen }
  else if s.high = t.high then { s with highOpen := s.highOpen && t.highOpen }
  else s

/-- Spans in order, of which none meet, with one that begins after them. -/
def withSpan (done : List Span) (t : Span) : List Span :=
  match done with
  | s :: rest => if s.meets t then s.joined t :: rest else t :: s :: rest
  | [] => [t]

/-- The part of a span that belongs to another one. -/
def common (s t : Span) : Span :=
  let (first, second) := if s.begins t then (t, s) else (s, t)
  let low := first
  let high :=
    if isBelow first.high second.high then first
    else if first.high = second.high then (if first.highOpen then first else second)
    else second
  ⟨low.low, high.high, low.lowOpen, high.highOpen⟩

def isKnown (s : Span) : Bool := (rank? s.low).isSome && (rank? s.high).isSome

end Span

/-- An interval between two ends. -/
def interval? : List Expression → Option Expression
  | [low, high] =>
      if low.isQuantity && high.isQuantity then some (Span.set ⟨low, high, false, false⟩) else none
  | [low, high, .truth lowOpen] => some (Span.set ⟨low, high, lowOpen, false⟩)
  | [low, high, .truth lowOpen, .truth highOpen] =>
      some (Span.set ⟨low, high, lowOpen, highOpen⟩)
  | _ => none

def unionOf? (sets : List Expression) : Option Expression := do
  let spans ← (sets.filter (· ≠ emptySet)).mapM Span.ofExpression?
  if !spans.all Span.isKnown then none
  else
    let sorted := spans.mergeSort Span.begins
    match (sorted.foldl Span.withSpan []).reverse with
    | [] => some emptySet
    | [s] => some s.expression
    | spans => some (.compound (.known "Union") (spans.map Span.expression))

/-- The common part of intervals with known ends. -/
def intersectionOf? (sets : List Expression) : Option Expression := do
  let spans ← sets.mapM Span.ofExpression?
  match spans with
  | [] => none
  | s :: rest => if (s :: rest).all Span.isKnown then some (rest.foldl Span.common s).set else none

end Clausal.Expression
