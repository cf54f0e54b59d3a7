import Clausal.Proofs.FreshName
import Clausal.Proofs.Pieces

/-!
# Sequences of fresh names

A search for a fresh name goes up from a number without a bound, and writes every name that it
tries (`Searches`). Only finitely many names are in use, so it ends: with the least number whose
name is free, or before that at a number that has too many digits to be written
(`searches_iff`). A name that is found is then the only further one in use. So whatever names are
asked for on one set of names in use, one after the other, no name is given twice and none was in
use at the start (`freshNames_spec`).
-/

namespace Clausal

/-- A number that can be written. -/
def Short (n : Int) : Prop := n.natAbs < Expression.longInteger

instance (n : Int) : Decidable (Short n) := inferInstanceAs (Decidable (_ < _))

/-- The numbers that can be written lie between two bounds. -/
theorem short_iff {n : Int} :
    Short n ↔ -(Expression.longInteger : Int) < n ∧ n < Expression.longInteger := by
  rw [Short]
  omega

theorem short_one : Short (0 + 1) := by
  have one_lt : 1 < Expression.longInteger := by
    have digits : Expression.digitLimit ≠ 0 := by decide
    unfold Expression.longInteger
    generalize Expression.digitLimit = limit at digits ⊢
    exact Nat.one_lt_pow digits (by decide)
  rw [short_iff]
  omega

section

variable {stem : String} {n : Int}

/-- A number that can be written makes a name. -/
theorem numbered?_of_short (short : Short n) : numbered? stem n = .ok (numbered stem n) := by
  have written : (Scalar.int n).isLong = false := decide_eq_false (not_le.mpr short)
  rw [numbered?, Scalar.text?, written]
  rfl

/-- A number that cannot be written is an error. -/
theorem numbered?_of_not_short (long : ¬Short n) : numbered? stem n = .error .longInteger := by
  have unwritten : (Scalar.int n).isLong = true := decide_eq_true (not_lt.mp long)
  rw [numbered?, Scalar.text?, unwritten]
  rfl

end

/-- A search that starts with a number, passes over numbers whose names are in use, and stops at
the first whose name is not, or at the first that cannot be written. -/
inductive Searches (stem : String) (used : List String) : (start : Int) → Except Failure Int → Prop
    where
  | free {n : Int} {name : String} (written : numbered? stem n = .ok name) (unused : name ∉ used) :
      Searches stem used n (.ok n)
  | taken {n : Int} {name : String} {outcome : Except Failure Int}
      (written : numbered? stem n = .ok name) (member : name ∈ used)
      (later : Searches stem used (n + 1) outcome) : Searches stem used n outcome
  | long {n : Int} {e : Failure} (unwritten : numbered? stem n = .error e) :
      Searches stem used n (.error e)

section

variable {stem : String} {used : List String}

/-- A search has one outcome only. -/
theorem Searches.unique {start : Int} {a b : Except Failure Int}
    (first : Searches stem used start a) (second : Searches stem used start b) : a = b := by
  induction first with
  | free written unused =>
      cases second with
      | free => rfl
      | taken again member =>
          exact absurd (Except.ok.inj (again.symm.trans written) ▸ member) unused
      | long unwritten => exact nomatch written.symm.trans unwritten
  | taken written member later ih =>
      cases second with
      | free again unused =>
          exact absurd (Except.ok.inj (written.symm.trans again) ▸ member) unused
      | taken _ _ later => exact ih later
      | long unwritten => exact nomatch written.symm.trans unwritten
  | long unwritten =>
      cases second with
      | free written => exact nomatch unwritten.symm.trans written
      | taken written => exact nomatch unwritten.symm.trans written
      | long again => exact congrArg _ (Except.error.inj (unwritten.symm.trans again))

/-- The search goes up over names in use to the number where it stops. -/
theorem Searches.of_passed {start stop : Int} {outcome : Except Failure Int}
    (last : Searches stem used stop outcome) (above : start ≤ stop)
    (passed : ∀ m, start ≤ m → m < stop → Short m ∧ numbered stem m ∈ used) :
    Searches stem used start outcome := by
  obtain ⟨steps, length⟩ := Int.le.dest above
  induction steps generalizing start with
  | zero =>
      obtain rfl : start = stop := (add_zero start).symm.trans length
      exact last
  | succ steps ih =>
      obtain ⟨short, member⟩ := passed start le_rfl (by omega)
      have later : Searches stem used (start + 1) outcome :=
        ih (by omega) (fun m from_ below => passed m (by omega) below) (by omega)
      exact .taken (numbered?_of_short short) member later

/-- The next number that is not in use is the least one behind the counter. -/
theorem isLeast_nextUnused (stem : String) (used : List String) (counter : Int) :
    IsLeast {n | counter < n ∧ numbered stem n ∉ used} (nextUnused stem used counter) := by
  obtain ⟨above, unused, passed⟩ := nextUnused_spec stem used counter
  refine ⟨⟨above, unused⟩, fun m candidate => ?_⟩
  by_contra below
  exact candidate.2 (passed m candidate.1 (not_le.mp below))

/-- What the search behind a counter comes to: all numbers up to the least free one have to be
written. -/
def stopBehind (stem : String) (used : List String) (counter : Int) : Except Failure Int :=
  if Short (counter + 1) ∧ Short (nextUnused stem used counter) then
    .ok (nextUnused stem used counter)
  else .error .longInteger

/-- The search ends at that number, or where a number cannot be written. -/
theorem searches_stopBehind (stem : String) (used : List String) (counter : Int) :
    Searches stem used (counter + 1) (stopBehind stem used counter) := by
  obtain ⟨above, unused, passed⟩ := nextUnused_spec stem used counter
  by_cases first : Short (counter + 1)
  · by_cases last : Short (nextUnused stem used counter)
    · rw [stopBehind, if_pos ⟨first, last⟩]
      refine .of_passed (.free (numbered?_of_short last) unused) (by omega) fun m from_ below => ?_
      refine ⟨?_, passed m (by omega) below⟩
      rw [short_iff] at first last ⊢
      omega
    · -- The search does not come to the free number, but stops at the first that is too long.
      rw [stopBehind, if_neg fun both => last both.2]
      have stop : ¬Short Expression.longInteger := fun short => lt_irrefl _ (short_iff.mp short).2
      rw [short_iff] at first last
      refine .of_passed (.long (numbered?_of_not_short stop)) (by omega) fun m from_ below => ?_
      exact ⟨short_iff.mpr (by omega), passed m (by omega) (by omega)⟩
  · rw [stopBehind, if_neg fun both => first both.1]
    exact .long (numbered?_of_not_short first)

/-- The search behind a counter ends, and in one way only. -/
theorem searches_iff (stem : String) (used : List String) (counter : Int)
    {outcome : Except Failure Int} :
    Searches stem used (counter + 1) outcome ↔ outcome = stopBehind stem used counter := by
  constructor
  · exact fun searches => searches.unique (searches_stopBehind stem used counter)
  · rintro rfl
    exact searches_stopBehind stem used counter

/-- The search that is made is such a search, as some name is free within its bound. -/
theorem searches_firstUnusedFrom? (bound : Nat) (n : Int)
    (free : ∃ k : Nat, k ≤ bound ∧ numbered stem (n + k) ∉ used) :
    Searches stem used n (firstUnusedFrom? stem used bound n) := by
  induction bound generalizing n with
  | zero =>
      obtain ⟨k, zero, unused⟩ := free
      obtain rfl : k = 0 := Nat.le_zero.mp zero
      rw [Nat.cast_zero, add_zero] at unused
      by_cases short : Short n
      · rw [firstUnusedFrom?, numbered?_of_short short]
        exact .free (numbered?_of_short short) unused
      · rw [firstUnusedFrom?, numbered?_of_not_short short]
        exact .long (numbered?_of_not_short short)
  | succ bound ih =>
      by_cases short : Short n
      · rw [firstUnusedFrom?, numbered?_of_short short]
        change Searches stem used n (if used.contains (numbered stem n) then _ else _)
        by_cases member : numbered stem n ∈ used
        · rw [if_pos (List.contains_iff_mem.mpr member)]
          refine .taken (numbered?_of_short short) member (ih (n + 1) ?_)
          obtain ⟨k, within, unused⟩ := free
          cases k with
          | zero => exact absurd member (by simpa only [Nat.cast_zero, add_zero] using unused)
          | succ k =>
              refine ⟨k, Nat.succ_le_succ_iff.mp within, ?_⟩
              rwa [add_assoc, add_comm 1 (k : Int), ← Nat.cast_succ]
        · rw [if_neg (mt List.contains_iff_mem.mp member)]
          exact .free (numbered?_of_short short) member
      · rw [firstUnusedFrom?, numbered?_of_not_short short]
        exact .long (numbered?_of_not_short short)

/-- A name is found if all numbers that are tried can be written, and it is the one that there is;
otherwise none is. -/
theorem mint?_eq (stem : String) (counter : Int) (used : List String) :
    mint? stem counter used =
      if Short (counter + 1) ∧ Short (nextUnused stem used counter) then
        .ok (mint stem counter used)
      else .error .longInteger := by
  have found := (searches_iff stem used counter).mp
    (searches_firstUnusedFrom? used.length (counter + 1) (exists_unused stem used _))
  rw [mint?, found, stopBehind]
  split
  case isTrue short =>
    change (numbered? stem _ >>= _) = _
    rw [numbered?_of_short short.2]
    rfl
  case isFalse => rfl

end

/-- The letters of a name that have no accent. -/
def plainLetters (name : String) : List Char :=
  name.toList.filter fun c => ('A' ≤ c ∧ c ≤ 'Z') ∨ ('a' ≤ c ∧ c ≤ 'z')

/-- What is left of the name of a variable are its letters without accents, or the letter x. -/
theorem toList_variableStem (name : String) :
    (variableStem name).toList =
      if plainLetters name = [] then ['x'] else plainLetters name := by
  have letters : name.toList.filter Char.isAlpha = plainLetters name := by
    refine List.filter_congr fun c _ => ?_
    rw [Bool.eq_iff_iff, isAlpha_iff, decide_eq_true_iff]
  rw [variableStem, letters]
  by_cases none_ : plainLetters name = []
  · rw [none_]
    rfl
  · rw [if_neg none_, if_neg (mt List.isEmpty_iff.mp none_), String.toList_ofList]

/-- What asks for a fresh name: a bound variable with its old name, or a witness with its stem and
the last number that was tried. -/
inductive FreshCall where
  | binder (name : String)
  | witness (stem : String) (counter : Int)

namespace FreshCall

def answer? : FreshCall → (used : List String) → Except Failure Minted
  | .binder name, used => mintVariable? name used
  | .witness stem counter, used => mint? stem counter used

/-- What calls come to, one after the other, with the names in use afterwards. A call that fails
changes nothing. -/
def answers : List FreshCall → (used : List String) → List (Except Failure String) × List String
  | [], used => ([], used)
  | call :: calls, used =>
      match call.answer? used with
      | .ok minted =>
          let (rest, used) := answers calls minted.used
          (.ok minted.name :: rest, used)
      | .error e =>
          let (rest, used) := answers calls used
          (.error e :: rest, used)

/-- The names that calls are given. -/
def given (calls : List FreshCall) (used : List String) : List String :=
  (answers calls used).1.filterMap Except.toOption

variable {call : FreshCall} {used : List String}

/-- A call that is given a name is given one that was not in use, and only that name is in use
after it as well. -/
theorem fresh_of_answer? {minted : Minted} (answered : call.answer? used = .ok minted) :
    minted.name ∉ used ∧ minted.used = minted.name :: used := by
  have fresh {stem : String} {counter : Int} (found : mint? stem counter used = .ok minted) :
      minted.name ∉ used ∧ minted.used = minted.name :: used := by
    rw [mint?_eq] at found
    split at found
    · obtain rfl := Except.ok.inj found
      exact ⟨mint_name_not_mem stem used counter, rfl⟩
    · exact nomatch found
  cases call with
  | binder name => exact fresh answered
  | witness stem counter => exact fresh answered

/-- After a call that is given a name, the later calls find it in use. -/
theorem answers_of_ok {minted : Minted} (answered : call.answer? used = .ok minted)
    (calls : List FreshCall) :
    answers (call :: calls) used =
      (.ok minted.name :: (answers calls (minted.name :: used)).1,
        (answers calls (minted.name :: used)).2) := by
  rw [answers, answered]
  dsimp only
  rw [(fresh_of_answer? answered).2]

/-- A call that fails does not matter for the later ones. -/
theorem answers_of_error {e : Failure} (answered : call.answer? used = .error e)
    (calls : List FreshCall) :
    answers (call :: calls) used =
      (.error e :: (answers calls used).1, (answers calls used).2) := by
  rw [answers, answered]

/-- A name that was given is in use for all later calls, so it is given once. -/
theorem given_spec (calls : List FreshCall) (used : List String) :
    (given calls used).Nodup ∧ (given calls used).Disjoint used ∧
      (answers calls used).2 = (given calls used).reverse ++ used := by
  induction calls generalizing used with
  | nil => exact ⟨.nil, List.disjoint_nil_left used, rfl⟩
  | cons call calls ih =>
      cases answered : call.answer? used with
      | error e =>
          rw [given, answers_of_error answered]
          exact ih used
      | ok minted =>
          obtain ⟨distinct, apart, after⟩ := ih (minted.name :: used)
          obtain ⟨once, outside⟩ := List.disjoint_cons_right.mp apart
          have first : given (call :: calls) used =
              minted.name :: given calls (minted.name :: used) := by
            rw [given, answers_of_ok answered]
            rfl
          rw [first, answers_of_ok answered]
          refine ⟨distinct.cons once, ?_, ?_⟩
          · exact List.disjoint_cons_left.mpr ⟨(fresh_of_answer? answered).1, outside⟩
          · dsimp only
            rw [after, List.reverse_cons, List.append_assoc, List.singleton_append]

end FreshCall

/-- Two steps that come to a result both do. -/
theorem exists_of_bind_eq_ok {α β : Type} {x : Except Failure α} {next : α → Except Failure β}
    {b : β} (done : (x >>= next) = .ok b) : ∃ a, x = .ok a ∧ next a = .ok b := by
  cases x with
  | error e => exact nomatch done
  | ok a => exact ⟨a, rfl, done⟩

/-- Bound variables call with their old names. -/
theorem answers_of_mintVariables? {names used given after : List String}
    (minted : mintVariables? names used = .ok (given, after)) :
    FreshCall.answers (names.map .binder) used = (given.map .ok, after) := by
  induction names generalizing used given after with
  | nil =>
      obtain ⟨rfl, rfl⟩ := Prod.mk.inj (Except.ok.inj minted)
      rfl
  | cons name names ih =>
      obtain ⟨m, first, minted⟩ := exists_of_bind_eq_ok minted
      obtain ⟨later, rest, minted⟩ := exists_of_bind_eq_ok minted
      obtain ⟨rfl, rfl⟩ := Prod.mk.inj (Except.ok.inj minted)
      have answered : (FreshCall.binder name).answer? used = .ok m := first
      rw [List.map_cons, FreshCall.answers_of_ok answered,
        ← (FreshCall.fresh_of_answer? answered).2, ih rest]
      rfl

/-- Witnesses call with their stems, each with the number that the one before it was given. -/
theorem exists_counters {stems used after : List String} {counter : Int}
    {given : List (Int × String)}
    (minted : mintWitnesses? stems counter used = .ok (given, after)) :
    ∃ counters : List Int, counters.length = stems.length ∧
      FreshCall.answers (List.zipWith .witness stems counters) used =
        (given.map fun entry => .ok entry.2, after) := by
  induction stems generalizing counter used given after with
  | nil =>
      obtain ⟨rfl, rfl⟩ := Prod.mk.inj (Except.ok.inj minted)
      exact ⟨[], rfl, rfl⟩
  | cons stem stems ih =>
      obtain ⟨m, first, minted⟩ := exists_of_bind_eq_ok minted
      obtain ⟨later, rest, minted⟩ := exists_of_bind_eq_ok minted
      obtain ⟨rfl, rfl⟩ := Prod.mk.inj (Except.ok.inj minted)
      have answered : (FreshCall.witness stem counter).answer? used = .ok m := first
      obtain ⟨counters, length, same⟩ := ih rest
      refine ⟨counter :: counters, congrArg (· + 1) length, ?_⟩
      rw [List.zipWith_cons_cons, FreshCall.answers_of_ok answered,
        ← (FreshCall.fresh_of_answer? answered).2, same]
      rfl

/-- From a small counter on and among few names in use, all numbers that are tried can be
written. -/
theorem mint?_of_add_lt {stem : String} {counter : Int} {used : List String}
    (nonneg : 0 ≤ counter) (few : counter + used.length + 1 < Expression.longInteger) :
    mint? stem counter used = .ok (mint stem counter used) := by
  obtain ⟨⟨above, _⟩, least⟩ := isLeast_nextUnused stem used counter
  obtain ⟨k, within, unused⟩ := exists_unused stem used (counter + 1)
  have reached : nextUnused stem used counter ≤ counter + 1 + k := least ⟨by omega, unused⟩
  have first : Short (counter + 1) := by
    rw [short_iff]
    omega
  have short : Short (nextUnused stem used counter) := by
    rw [short_iff]
    omega
  rw [mint?_eq, if_pos ⟨first, short⟩]

/-- The search for the name of a bound variable ends with the least positive number that is free
behind the letters of the old name, and the one for a witness with the least free number above the
counter, if all numbers that are tried on the way can be written; otherwise the call fails and
changes nothing. Exactly the name with that number joins the names in use. So all the names that any
sequence of calls is given are different, and none of them was in use before. The names of several
variables and those of several witnesses are given to such sequences. From a small counter on and
among few names, every search comes to a name. -/
theorem freshNames_spec (used : List String) :
    (∀ name, ∃ (base : String) (i : Nat),
      base.toList = (if plainLetters name = [] then ['x'] else plainLetters name) ∧
        IsLeast {j : Nat | 0 < j ∧ base ++ j.repr ∉ used} i ∧
        (∀ outcome, Searches base used 1 outcome ↔
          outcome = if Short i then .ok (i : Int) else .error .longInteger) ∧
        mintVariable? name used =
          if Short i then .ok ⟨i, base ++ i.repr, (base ++ i.repr) :: used⟩
          else .error .longInteger) ∧
      (∀ stem counter, ∃ n : Int,
        IsLeast {m : Int | counter < m ∧ stem ++ m.repr ∉ used} n ∧
          (∀ outcome, Searches stem used (counter + 1) outcome ↔
            outcome = if Short (counter + 1) ∧ Short n then .ok n else .error .longInteger) ∧
          mint? stem counter used =
            if Short (counter + 1) ∧ Short n then
              .ok ⟨n, stem ++ n.repr, (stem ++ n.repr) :: used⟩
            else .error .longInteger) ∧
      (∀ calls, (FreshCall.given calls used).Nodup ∧ (FreshCall.given calls used).Disjoint used ∧
        (FreshCall.answers calls used).2 = (FreshCall.given calls used).reverse ++ used) ∧
      (∀ names given after, mintVariables? names used = .ok (given, after) →
        FreshCall.answers (names.map .binder) used = (given.map .ok, after)) ∧
      (∀ stems counter given after, mintWitnesses? stems counter used = .ok (given, after) →
        ∃ counters : List Int, counters.length = stems.length ∧
          FreshCall.answers (List.zipWith .witness stems counters) used =
            (given.map fun entry => .ok entry.2, after)) ∧
      (∀ stem (counter : Int), 0 ≤ counter → counter + used.length + 1 < Expression.longInteger →
        mint? stem counter used = .ok (mint stem counter used)) := by
  refine ⟨fun name => ?_, fun stem counter => ?_, fun calls => FreshCall.given_spec calls used,
    fun _ _ _ => answers_of_mintVariables?, fun _ _ _ _ => exists_counters,
    fun _ _ => mint?_of_add_lt⟩
  · have least := isLeast_nextUnused (variableStem name) used 0
    obtain ⟨i, found⟩ := Int.eq_ofNat_of_zero_le least.1.1.le
    refine ⟨variableStem name, i, toList_variableStem name, ?_, fun outcome => ?_, ?_⟩
    · rw [found] at least
      refine ⟨⟨Int.natCast_pos.mp least.1.1, least.1.2⟩, fun j candidate => ?_⟩
      exact Int.ofNat_le.mp (least.2 ⟨Int.natCast_pos.mpr candidate.1, candidate.2⟩)
    · have stops : stopBehind (variableStem name) used 0 =
          if Short i then .ok (i : Int) else .error .longInteger := by
        rw [stopBehind, found]
        exact if_congr (and_iff_right short_one) rfl rfl
      rw [← stops]
      exact searches_iff (variableStem name) used 0
    · rw [mintVariable?, mint?_eq, mint, found]
      exact if_congr (and_iff_right short_one) rfl rfl
  · exact ⟨nextUnused stem used counter, isLeast_nextUnused stem used counter,
      fun _ => searches_iff stem used counter, mint?_eq stem counter used⟩

/-- Behind the greatest number that can be written there is none, although no name is in use. -/
theorem mint?_long :
    mint? "sk_c" (Expression.longInteger - 1) [] = .error .longInteger := by
  have long : ¬Short ((Expression.longInteger : Int) - 1 + 1) := by
    rw [sub_add_cancel]
    exact fun short => lt_irrefl _ (short_iff.mp short).2
  rw [mint?_eq, if_neg fun both => long both.1]

/-- The name of a witness is in the way of a variable, and the other way round. -/
example : FreshCall.answers
    [.binder "x_0", .witness "x" 0, .binder "_7", .witness "x" (-2), .witness "x" 7]
      ["x", "x1", "x3"] =
    ([.ok "x2", .ok "x4", .ok "x5", .ok "x-1", .ok "x8"],
      ["x8", "x-1", "x5", "x4", "x2", "x", "x1", "x3"]) := by
  decide +kernel

end Clausal
