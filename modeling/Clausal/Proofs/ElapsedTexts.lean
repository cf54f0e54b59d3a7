import Mathlib.Algebra.Group.Nat.Defs
import Clausal.Elapsed
import Clausal.Proofs.Pieces

/-!
# What the text of an elapsed time tells

A text of the form `[D day[s], ]H:MM:SS.mmm` shows a time to the millisecond (`Shows`), and no text
shows two times (`Shows.unique`). The text of an elapsed time is such a text, and shows the time in
whole milliseconds, unless the time is a whole number of seconds. There the fraction is left out
before three characters are cut, and the seconds are cut instead: the text ends with the minutes
(`text_spec`). All this is said of the times that have a text (`checked`).
-/

namespace Clausal.Elapsed

/-- A time to the millisecond, as a clock shows it after a number of days. -/
structure Reading where
  days : Nat
  hours : Nat
  minutes : Nat
  seconds : Nat
  millis : Nat
  hours_lt : hours < 24
  minutes_lt : minutes < 60
  seconds_lt : seconds < 60
  millis_lt : millis < 1000

/-- A number of days, hours and minutes. -/
def minuteText (days hours minutes : Nat) : String :=
  dayText days ++ Nat.repr hours ++ ":" ++ padded 2 minutes

namespace Reading

/-- The whole time in milliseconds. -/
def total (r : Reading) : Nat :=
  (((r.days * 24 + r.hours) * 60 + r.minutes) * 60 + r.seconds) * 1000 + r.millis

def text (r : Reading) : String :=
  minuteText r.days r.hours r.minutes ++ ":" ++ padded 2 r.seconds ++ "." ++ padded 3 r.millis

/-- A number of microseconds, without those that are no whole millisecond. -/
def ofMicros (n : Nat) : Reading where
  days := n / 1000000 / 86400
  hours := n / 1000000 / 3600 % 24
  minutes := n / 1000000 / 60 % 60
  seconds := n / 1000000 % 60
  millis := n / 1000 % 1000
  hours_lt := Nat.mod_lt _ (by decide)
  minutes_lt := Nat.mod_lt _ (by decide)
  seconds_lt := Nat.mod_lt _ (by decide)
  millis_lt := Nat.mod_lt _ (by decide)

/-- What is read of a time is its number of whole milliseconds. -/
theorem total_ofMicros (n : Nat) : (ofMicros n).total = n / 1000 := by
  simp only [total, ofMicros]
  omega

end Reading

/-- The text is that of a time of so many milliseconds. -/
def Shows (text : String) (millis : Nat) : Prop :=
  ∃ r : Reading, r.text = text ∧ r.total = millis

variable {width m n : Nat}

theorem toDigits_injective (same : Nat.toDigits 10 m = Nat.toDigits 10 n) : m = n := by
  rw [← @Nat.ofDigitChars_ten_toDigits m, same, Nat.ofDigitChars_ten_toDigits]

/-- A number is written in digits only. -/
theorem isDigit_of_mem_toDigits {c : Char} (member : c ∈ Nat.toDigits 10 n) :
    c.isDigit = true :=
  Nat.isDigit_of_mem_toDigits (by decide) (by decide) member

/-- A padded number has zeros in front of its digits. -/
theorem toList_padded (width n : Nat) : (padded width n).toList =
    List.replicate (width - (Nat.toDigits 10 n).length) '0' ++ Nat.toDigits 10 n :=
  String.toList_ofList

/-- A padded number is written in digits only. -/
theorem isDigit_of_mem_padded {c : Char} (member : c ∈ (padded width n).toList) :
    c.isDigit = true := by
  rw [toList_padded] at member
  rcases List.mem_append.mp member with zero | digit
  · rw [List.eq_of_mem_replicate zero]
    rfl
  · exact isDigit_of_mem_toDigits digit

/-- Zeros in front of a number do not change it. -/
theorem padded_injective (same : padded width m = padded width n) : m = n := by
  have value (k : Nat) : Nat.ofDigitChars 10 (padded width k).toList 0 = k := by
    rw [toList_padded, Nat.ofDigitChars_append, Nat.ofDigitChars_replicate_zero, Nat.mul_zero,
      Nat.ofDigitChars_ten_toDigits]
  rw [← value m, same, value]

theorem length_padded (positive : 0 < width) (below : n < 10 ^ width) :
    (padded width n).toList.length = width := by
  have digits := (Nat.length_toDigits_le_iff (by decide) positive).mpr below
  rw [toList_padded, List.length_append, List.length_replicate]
  omega

/-- Numbers of one width are told from what stands before them. -/
theorem append_padded_injective {a b : String} (positive : 0 < width) (below : m < 10 ^ width)
    (below' : n < 10 ^ width) (same : a ++ padded width m = b ++ padded width n) :
    a = b ∧ m = n := by
  have lists := congrArg String.toList same
  rw [String.toList_append, String.toList_append] at lists
  have lengths := (length_padded positive below).trans (length_padded positive below').symm
  obtain ⟨front, number⟩ := List.append_inj' lists lengths
  exact ⟨String.toList_injective front, padded_injective (String.toList_injective number)⟩

/-- The last digit of a number stands behind those of its tenth. -/
theorem padded_succ (positive : 0 < width) (n : Nat) :
    padded (width + 1) n = padded width (n / 10) ++ String.singleton (n % 10).digitChar := by
  refine String.toList_injective ?_
  rw [String.toList_append, String.toList_singleton, toList_padded, toList_padded]
  by_cases small : n < 10
  · obtain ⟨width, rfl⟩ := Nat.exists_eq_add_one_of_ne_zero positive.ne'
    rw [Nat.toDigits_of_lt_base small, Nat.div_eq_of_lt small, Nat.mod_eq_of_lt small,
      Nat.toDigits_zero, List.length_singleton, List.length_singleton, Nat.add_sub_cancel,
      Nat.add_sub_cancel, List.replicate_succ']
  · rw [Nat.toDigits_of_base_le (by decide) (Nat.le_of_not_lt small), List.length_append,
      List.length_singleton, Nat.add_sub_add_right, List.append_assoc]

/-- To cut digits off is to divide. -/
theorem exists_padded_add (positive : 0 < width) (digits n : Nat) :
    ∃ cut : String, cut.length = digits ∧
      padded (width + digits) n = padded width (n / 10 ^ digits) ++ cut := by
  induction digits generalizing n with
  | zero => exact ⟨"", rfl, by rw [Nat.pow_zero, Nat.div_one, String.append_empty, Nat.add_zero]⟩
  | succ digits ih =>
      obtain ⟨cut, length, split⟩ := ih (n / 10)
      refine ⟨cut ++ String.singleton (n % 10).digitChar, ?_, ?_⟩
      · rw [String.length_append, length, String.length_singleton]
      · rw [← Nat.add_assoc, padded_succ (Nat.add_pos_left positive digits), split,
          Nat.div_div_eq_div_mul, Nat.pow_succ', String.append_assoc]

/-- The days are written as their number with a word behind it. -/
theorem toList_dayText {days : Nat} (some_ : days ≠ 0) :
    (dayText days).toList =
      Nat.toDigits 10 days ++ (if days = 1 then " day, " else " days, ").toList := by
  rw [dayText, if_neg some_]
  by_cases one : days = 1
  · subst one
    rfl
  · rw [if_neg one, if_neg one, String.toList_append, Nat.toList_repr]

/-- The digits at the start are the number of days, and without days there are none. -/
theorem value_takeWhile_dayText (days : Nat) :
    Nat.ofDigitChars 10 ((dayText days).toList.takeWhile Char.isDigit) 0 = days := by
  by_cases none_ : days = 0
  · subst none_
    rfl
  · have digits : (dayText days).toList.takeWhile Char.isDigit = Nat.toDigits 10 days := by
      rw [toList_dayText none_]
      refine takeWhile_append (fun c member => isDigit_of_mem_toDigits member) ?_
      split <;> (intro c first; obtain rfl := Option.some.inj first; rfl)
    rw [digits, Nat.ofDigitChars_ten_toDigits]

/-- The text of the days tells their number. -/
theorem dayText_injective {days days' : Nat} (same : dayText days = dayText days') :
    days = days' := by
  rw [← value_takeWhile_dayText days, same, value_takeWhile_dayText]

/-- A number of days does not end with a digit. -/
theorem isDigit_last_dayText (days : Nat) :
    ∀ c ∈ (dayText days).toList.reverse.head?, c.isDigit = false := by
  by_cases none_ : days = 0
  · subst none_
    exact fun c last => nomatch last
  · rw [toList_dayText none_, List.reverse_append]
    split <;> (intro c last; obtain rfl := Option.some.inj last; rfl)

/-- The hours are the digits at the end, so they are told from the days before them. -/
theorem dayText_append_injective {days days' hours hours' : Nat}
    (same : dayText days ++ Nat.repr hours = dayText days' ++ Nat.repr hours') :
    days = days' ∧ hours = hours' := by
  have last (d h : Nat) : (dayText d ++ Nat.repr h).toList.reverse.takeWhile Char.isDigit =
      (Nat.toDigits 10 h).reverse := by
    rw [String.toList_append, List.reverse_append, Nat.toList_repr]
    refine takeWhile_append (fun c member => ?_) (isDigit_last_dayText d)
    exact isDigit_of_mem_toDigits (List.mem_reverse.mp member)
  obtain rfl : hours = hours' := by
    refine toDigits_injective (List.reverse_inj.mp ?_)
    rw [← last days hours, same, last]
  exact ⟨dayText_injective ((String.append_left_inj _).mp same), rfl⟩

/-- A text up to the minutes tells the days, the hours and the minutes. -/
theorem minuteText_injective {days days' hours hours' minutes minutes' : Nat}
    (below : minutes < 60) (below' : minutes' < 60)
    (same : minuteText days hours minutes = minuteText days' hours' minutes') :
    days = days' ∧ hours = hours' ∧ minutes = minutes' := by
  obtain ⟨front, rfl⟩ := append_padded_injective (by decide) (by omega) (by omega) same
  obtain ⟨rfl, rfl⟩ := dayText_append_injective ((String.append_left_inj ":").mp front)
  exact ⟨rfl, rfl, rfl⟩

/-- There is no fraction where the text ends with the minutes. -/
theorem point_not_mem_minuteText (days hours minutes : Nat) :
    '.' ∉ (minuteText days hours minutes).toList := by
  have digits {cs : List Char} (all : ∀ c ∈ cs, c.isDigit = true) : '.' ∉ cs :=
    fun member => absurd (all '.' member) (by decide)
  have front : '.' ∉ (dayText days).toList := by
    by_cases none_ : days = 0
    · subst none_
      exact List.not_mem_nil
    · rw [toList_dayText none_]
      refine List.not_mem_append (digits fun c member => isDigit_of_mem_toDigits member) ?_
      split <;> decide
  have hoursDigits : '.' ∉ Nat.toDigits 10 hours :=
    digits fun c member => isDigit_of_mem_toDigits member
  have minutesDigits : '.' ∉ (padded 2 minutes).toList :=
    digits fun c member => isDigit_of_mem_padded member
  rw [minuteText, String.toList_append, String.toList_append, String.toList_append,
    Nat.toList_repr]
  refine List.not_mem_append (List.not_mem_append (List.not_mem_append front hoursDigits) ?_)
    minutesDigits
  decide

/-- Readings with the same text stand for the same number of milliseconds. -/
theorem Reading.total_eq_of_text {r s : Reading} (same : r.text = s.text) : r.total = s.total := by
  obtain ⟨front, millis⟩ := append_padded_injective (by decide) r.millis_lt s.millis_lt same
  obtain ⟨front, seconds⟩ := append_padded_injective (by decide)
    (by have := r.seconds_lt; omega) (by have := s.seconds_lt; omega)
    ((String.append_left_inj ".").mp front)
  obtain ⟨days, hours, minutes⟩ := minuteText_injective r.minutes_lt s.minutes_lt
    ((String.append_left_inj ":").mp front)
  rw [total, total, days, hours, minutes, seconds, millis]

/-- A text shows at most one time. -/
theorem Shows.unique {t : String} (first : Shows t m) (second : Shows t n) : m = n := by
  obtain ⟨r, rfl, rfl⟩ := first
  obtain ⟨s, same, rfl⟩ := second
  exact Reading.total_eq_of_text same.symm

/-- A text that ends with the minutes shows no number of milliseconds. -/
theorem not_shows_minuteText (days hours minutes : Nat) :
    ¬Shows (minuteText days hours minutes) n := by
  rintro ⟨r, same, _⟩
  apply point_not_mem_minuteText days hours minutes
  rw [← same, Reading.text, String.toList_append, String.toList_append]
  exact List.mem_append_left _ (List.mem_append_right _ (by decide))

/-- The end that is cut off is known by its length. -/
theorem text_of_fullText {front cut : String} (full : fullText n = front ++ cut)
    (length : cut.length = cutLength) : text n = front := by
  have taken : (fullText n).toList.length - cutLength = front.toList.length := by
    rw [full, String.toList_append, List.length_append, String.length_toList (s := cut), length,
      Nat.add_sub_cancel]
  rw [text, taken, full, String.toList_append, List.take_left, String.ofList_toList]

/-- Of a fraction three digits are left. -/
theorem text_of_fraction (fraction : n % 1000000 ≠ 0) : text n = (Reading.ofMicros n).text := by
  obtain ⟨cut, length, split⟩ := exists_padded_add (Nat.succ_pos 2) 3 (n % 1000000)
  have millis : n % 1000000 / 10 ^ 3 = n / 1000 % 1000 := by omega
  rw [millis] at split
  have full : fullText n = (Reading.ofMicros n).text ++ cut := by
    rw [fullText, fractionText, if_neg fraction, split, Reading.text, minuteText]
    simp only [Reading.ofMicros, String.append_assoc]
  exact text_of_fullText full length

/-- Without a fraction the seconds are cut off. -/
theorem text_of_whole (whole : n % 1000000 = 0) :
    text n =
      minuteText (n / 1000000 / 86400) (n / 1000000 / 3600 % 24) (n / 1000000 / 60 % 60) := by
  have full : fullText n = minuteText (n / 1000000 / 86400) (n / 1000000 / 3600 % 24)
      (n / 1000000 / 60 % 60) ++ (":" ++ padded 2 (n / 1000000 % 60)) := by
    rw [fullText, fractionText, if_pos whole, String.append_empty, minuteText]
    simp only [String.append_assoc]
  refine text_of_fullText full ?_
  rw [String.length_append, ← String.length_toList (s := padded _ _),
    length_padded (by decide) (by omega)]
  rfl

/-- A time with a fraction of a second is shown by its milliseconds. -/
theorem shows_of_fraction (fraction : n % 1000000 ≠ 0) : Shows (text n) (n / 1000) :=
  ⟨Reading.ofMicros n, (text_of_fraction fraction).symm, Reading.total_ofMicros n⟩

/-- A whole number of seconds is shown as no time at all. -/
theorem not_shows_of_whole (whole : n % 1000000 = 0) (millis : Nat) : ¬Shows (text n) millis := by
  rw [text_of_whole whole]
  exact not_shows_minuteText _ _ _

/-- Times with a fraction of a second have the same text in the same millisecond only. -/
theorem text_eq_iff_of_fraction (fraction : m % 1000000 ≠ 0) (fraction' : n % 1000000 ≠ 0) :
    text m = text n ↔ m / 1000 = n / 1000 := by
  constructor
  · intro same
    have shown := shows_of_fraction fraction
    rw [same] at shown
    exact shown.unique (shows_of_fraction fraction')
  · intro same
    have seconds : m / 1000000 = n / 1000000 := by omega
    rw [text_of_fraction fraction, text_of_fraction fraction', Reading.text, Reading.text]
    simp only [Reading.ofMicros, seconds, same]

/-- Whole seconds are told apart by their minutes only. -/
theorem text_eq_iff_of_whole (whole : m % 1000000 = 0) (whole' : n % 1000000 = 0) :
    text m = text n ↔ m / 60000000 = n / 60000000 := by
  rw [text_of_whole whole, text_of_whole whole']
  constructor
  · intro same
    obtain ⟨days, hours, minutes⟩ := minuteText_injective (Nat.mod_lt _ (by decide))
      (Nat.mod_lt _ (by decide)) same
    omega
  · intro same
    have days : m / 1000000 / 86400 = n / 1000000 / 86400 := by omega
    have hours : m / 1000000 / 3600 % 24 = n / 1000000 / 3600 % 24 := by omega
    have minutes : m / 1000000 / 60 % 60 = n / 1000000 / 60 % 60 := by omega
    rw [days, hours, minutes]

/-- A whole number of seconds has the text of no other time. -/
theorem text_ne_of_whole (whole : m % 1000000 = 0) (fraction : n % 1000000 ≠ 0) :
    text m ≠ text n := by
  intro same
  have shown := shows_of_fraction fraction
  rw [← same] at shown
  exact not_shows_of_whole whole _ shown

/-- A time has a text unless it has too many days. -/
theorem checked_eq_ok_iff {m : Nat} : checked n = .ok m ↔ m = n ∧ n / dayLength ≤ greatestDays := by
  have below : greatestDays < uncountableDays := by decide
  rw [checked]
  by_cases many : greatestDays < n / dayLength
  · rw [if_pos many]
    refine iff_of_false (fun found => ?_) fun ⟨_, few⟩ => absurd few (not_le.mpr many)
    split at found <;> exact nomatch found
  · rw [if_neg (not_le.mpr ((not_lt.mp many).trans_lt below)), if_neg many, Except.ok.injEq,
      and_iff_left (not_lt.mp many), eq_comm]

/-- A time has a text, the one that is made for it, if it has not too many days. -/
theorem map_checked_eq_ok_iff {t : String} :
    (checked n).map text = .ok t ↔ t = text n ∧ n / dayLength ≤ greatestDays := by
  cases counted : checked n with
  | error e =>
      refine iff_of_false (nomatch ·) fun ⟨_, few⟩ => ?_
      exact nomatch counted.symm.trans (checked_eq_ok_iff.mpr ⟨rfl, few⟩)
  | ok m =>
      obtain ⟨rfl, few⟩ := checked_eq_ok_iff.mp counted
      change Except.ok (text m) = .ok t ↔ _
      rw [and_iff_left few, Except.ok.injEq, eq_comm]

/-- Only times that have a text are counted between two points of time. -/
theorem checked_of_since {reference created : Floating}
    (counted : since reference created = .ok n) :
    checked n = .ok n := by
  rw [since] at counted
  split at counted
  · obtain rfl := Except.ok.inj counted
    decide
  · split at counted
    · obtain ⟨rfl, few⟩ := checked_eq_ok_iff.mp counted
      exact checked_eq_ok_iff.mpr ⟨rfl, few⟩
    · exact nomatch counted

/-- Two times have the same text if both have a fraction of a second and are in one millisecond, or
if both are whole seconds and in one minute. -/
theorem text_eq_iff : text m = text n ↔
    m % 1000000 ≠ 0 ∧ n % 1000000 ≠ 0 ∧ m / 1000 = n / 1000 ∨
      m % 1000000 = 0 ∧ n % 1000000 = 0 ∧ m / 60000000 = n / 60000000 := by
  by_cases whole : m % 1000000 = 0
  · by_cases whole' : n % 1000000 = 0
    · rw [text_eq_iff_of_whole whole whole']
      exact ⟨fun same => .inr ⟨whole, whole', same⟩,
        fun both => both.elim (fun ⟨fraction, _⟩ => absurd whole fraction) fun both => both.2.2⟩
    · exact iff_of_false (text_ne_of_whole whole whole') (by omega)
  · by_cases whole' : n % 1000000 = 0
    · exact iff_of_false (text_ne_of_whole whole' whole).symm (by omega)
    · rw [text_eq_iff_of_fraction whole whole']
      exact ⟨fun same => .inl ⟨whole, whole', same⟩,
        fun both => both.elim (fun both => both.2.2) fun ⟨none_, _⟩ => absurd none_ whole⟩

/-- A time of at most so many days has a text, and so has every time between two points of time that
can be counted. The text of a time that is no whole number of seconds shows its whole milliseconds.
That of a whole number of seconds shows no time: it gives days, hours and minutes only. So two times
have the same text if none of them is a whole number of seconds and they agree in their
milliseconds, or if both are and they agree in their minutes, and otherwise they have different
texts. -/
theorem text_spec (n : Nat) :
    ((∃ t, (checked n).map text = .ok t) ↔ n / dayLength ≤ greatestDays) ∧
      (∀ reference created, since reference created = .ok n →
        (checked n).map text = .ok (text n)) ∧
      ∀ t, (checked n).map text = .ok t →
        (n % 1000000 ≠ 0 → Shows t (n / 1000)) ∧
        (n % 1000000 = 0 →
          t = minuteText (n / 86400000000) (n / 3600000000 % 24) (n / 60000000 % 60) ∧
            ∀ millis, ¬Shows t millis) ∧
        ∀ m u, (checked m).map text = .ok u → (u = t ↔
          m % 1000000 ≠ 0 ∧ n % 1000000 ≠ 0 ∧ m / 1000 = n / 1000 ∨
            m % 1000000 = 0 ∧ n % 1000000 = 0 ∧ m / 60000000 = n / 60000000) := by
  refine ⟨⟨fun ⟨t, written⟩ => (map_checked_eq_ok_iff.mp written).2,
    fun few => ⟨_, map_checked_eq_ok_iff.mpr ⟨rfl, few⟩⟩⟩, fun reference created counted => ?_,
    fun t written => ?_⟩
  · rw [checked_of_since counted]
    rfl
  · obtain ⟨rfl, _⟩ := map_checked_eq_ok_iff.mp written
    refine ⟨shows_of_fraction, fun whole => ⟨?_, not_shows_of_whole whole⟩, fun m u other => ?_⟩
    · rw [text_of_whole whole, Nat.div_div_eq_div_mul, Nat.div_div_eq_div_mul,
        Nat.div_div_eq_div_mul]
    · obtain ⟨rfl, _⟩ := map_checked_eq_ok_iff.mp other
      exact text_eq_iff

/-- A time with a day is shown to the millisecond, and one second after it there are no seconds. -/
theorem text_spec_day :
    (checked 90061001999).map text = .ok "1 day, 1:01:01.001" ∧
      Shows "1 day, 1:01:01.001" 90061001 ∧
      (checked 90062000000).map text = .ok "1 day, 1:01" ∧ ¬Shows "1 day, 1:01" 90062000 := by
  have shown : (checked 90061001999).map text = .ok "1 day, 1:01:01.001" := by decide +kernel
  have cut : (checked 90062000000).map text = .ok "1 day, 1:01" := by decide +kernel
  have millis : 90061001999 / 1000 = 90061001 := rfl
  refine ⟨shown, ?_, cut, ?_⟩
  · rw [← millis]
    exact ((text_spec 90061001999).2.2 _ shown).1 (by decide)
  · exact (((text_spec 90062000000).2.2 _ cut).2.1 (by decide)).2 90062000

/-- The text of one second is the same as that of no time at all. -/
theorem not_shows_second :
    (checked 1000000).map text = .ok "0:00" ∧ ¬Shows "0:00" (1000000 / 1000) ∧
      (checked 0).map text = .ok "0:00" := by
  have cut : text 1000000 = "0:00" := by decide +kernel
  exact ⟨by decide +kernel, cut ▸ not_shows_of_whole rfl _, by decide +kernel⟩

end Clausal.Elapsed
