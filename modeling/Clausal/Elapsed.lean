import Clausal.Floating.Basic

/-!
# Elapsed times

A line of a log starts with the time elapsed since a reference time. Times are
counted in microseconds, a negative difference counts as zero, and the text of a
time loses its last three characters, so that a fraction is shown in
milliseconds. A time of too many days has no text.
-/

namespace Clausal.Elapsed

/-- A number with at least `width` digits. -/
def padded (width n : Nat) : String :=
  let digits := Nat.toDigits 10 n
  String.ofList (List.replicate (width - digits.length) '0' ++ digits)

/-- A number of days before a time of day; no days are not mentioned. -/
def dayText (days : Nat) : String :=
  if days = 0 then "" else if days = 1 then "1 day, " else Nat.repr days ++ " days, "

/-- A fraction of a second in microseconds; no fraction is not mentioned. -/
def fractionText (micros : Nat) : String :=
  if micros = 0 then "" else "." ++ padded 6 micros

/-- A time as days, hours, minutes, seconds and a fraction. -/
def fullText (micros : Nat) : String :=
  let seconds := micros / 1000000
  dayText (seconds / 86400) ++ Nat.repr (seconds / 3600 % 24) ++ ":" ++
    padded 2 (seconds / 60 % 60) ++ ":" ++ padded 2 (seconds % 60) ++
    fractionText (micros % 1000000)

def cutLength : Nat := 3

def text (micros : Nat) : String :=
  let full := (fullText micros).toList
  String.ofList (full.take (full.length - cutLength))

/-- Why a time has no text. -/
inductive OutOfRange where
  | days (count : Nat)
  | uncountable
  /-- The difference of the two times is too large for a number. -/
  | infinite
  deriving DecidableEq

/-- The message of a time without a text. -/
def OutOfRange.message : OutOfRange → String
  | .days count => "days=" ++ Nat.repr count ++ "; must have magnitude <= 999999999"
  | .uncountable => "Python int too large to convert to C int"
  | .infinite => "cannot convert float infinity to integer"

/-- The greatest number of days that a time may have. -/
def greatestDays : Nat := 999999999

/-- The least number of days that cannot be counted. -/
def uncountableDays : Nat := 2147483648

def dayLength : Nat := 86400000000

/-- A number of seconds in whole microseconds. The fraction of a second is
scaled first, to a floating-point number, and that is rounded to the nearest
number, a half to the even one. -/
def microseconds (seconds : Rat) : Nat :=
  let whole := seconds.floor
  let scaled := (seconds - whole) * 1000000
  let scaled := (Floating.ofRat? scaled).elim scaled Floating.toRat
  whole.toNat * 1000000 + Floating.nearestNat scaled

def checked (micros : Nat) : Except OutOfRange Nat :=
  let days := micros / dayLength
  if uncountableDays ≤ days then .error .uncountable
  else if greatestDays < days then .error (.days days)
  else .ok micros

/-- The microseconds from a reference time to another time. The difference is a
floating-point number again. -/
def since (reference created : Floating) : Except OutOfRange Nat :=
  let seconds := created.toRat - reference.toRat
  if seconds ≤ 0 then .ok 0
  else
    match Floating.ofRat? seconds with
    | some x => checked (microseconds x.toRat)
    | none => .error .infinite

/-- A message with the time it was created, and a new reference time if one is
set before it. -/
structure Entry where
  message : String
  created : Floating
  reference? : Option Floating

/-- The lines of a log. A reference time holds until another one is set. -/
def lines : (reference : Floating) → List Entry → Except OutOfRange (List String)
  | _, [] => .ok []
  | reference, entry :: entries => do
      let reference := entry.reference?.getD reference
      let micros ← since reference entry.created
      let rest ← lines reference entries
      .ok ((text micros ++ ": " ++ entry.message) :: rest)

end Clausal.Elapsed
