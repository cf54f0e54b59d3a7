import Mathlib.Data.Nat.Find
import Mathlib.Order.Bounds.Basic
import Clausal.Proofs.Segmentation

/-!
# Braced groups

A formatting command takes the group behind it along. In terms of positions, the group ends with
the first closing brace up to which as many braces are closed as were opened (`ClosesGroup`). There
is no other way for the closing braces to catch up with the opening ones: a group without such an
end has more braces open than closed wherever the text is cut off
(`occurrences_lt_of_not_closesGroup`).
-/

namespace Clausal

/-- How often a character stands in a text from one position on and before another. -/
def occurrences (text : String) (c : Char) (start stop : Nat) : Nat :=
  (text.toList.extract start stop).count c

/-- A closing brace behind the start with which as many braces are closed as were opened. -/
structure ClosesGroup (text : String) (start last : Nat) : Prop where
  later : start < last
  closing : text.toList[last]? = some '\x7d'
  even : occurrences text '\x7b' start (last + 1) = occurrences text '\x7d' start (last + 1)

instance (text : String) (start last : Nat) : Decidable (ClosesGroup text start last) :=
  decidable_of_iff
    (start < last ∧ text.toList[last]? = some '\x7d' ∧
      occurrences text '\x7b' start (last + 1) = occurrences text '\x7d' start (last + 1))
    ⟨fun ⟨later, closing, even⟩ => ⟨later, closing, even⟩,
      fun ⟨later, closing, even⟩ => ⟨later, closing, even⟩⟩

variable {text : String} {start stop : Nat}

/-- The front of a stretch is a stretch. -/
theorem take_extract {α : Type} {cs : List α} {n : Nat} (within : start + n ≤ stop) :
    (cs.extract start stop).take n = cs.extract start (start + n) := by
  rw [List.extract_eq_take_drop, List.extract_eq_take_drop, List.take_take, Nat.add_sub_cancel_left,
    Nat.min_eq_left (by omega)]

/-- A stretch inside a text is as long as its places are apart. -/
theorem length_extract (within : stop ≤ text.length) :
    (text.toList.extract start stop).length = stop - start := by
  rw [List.extract_eq_take_drop, List.length_take, List.length_drop, String.length_toList]
  omega

theorem occurrences_self (text : String) (c : Char) (start : Nat) :
    occurrences text c start start = 0 := by
  rw [occurrences, List.extract_eq_take_drop, Nat.sub_self, List.take_zero, List.count_nil]

/-- One more place is one more occurrence if the character stands there. -/
theorem occurrences_succ (text : String) (c : Char) (before : start ≤ stop) :
    occurrences text c start (stop + 1) =
      occurrences text c start stop + (if text.toList[stop]? = some c then 1 else 0) := by
  have next : text.toList.extract start (stop + 1) =
      text.toList.extract start stop ++ text.toList[stop]?.toList := by
    rw [List.extract_eq_take_drop, List.extract_eq_take_drop, Nat.succ_sub before,
      List.take_add_one, List.getElem?_drop, Nat.add_sub_cancel' before]
  rw [occurrences, occurrences, next, List.count_append]
  cases text.toList[stop]? with
  | none => rfl
  | some d => simp only [Option.toList_some, List.count_singleton, beq_iff_eq, Option.some.injEq]

/-- While no group is closed, more braces are opened than closed. -/
theorem occurrences_lt_of_not_closesGroup (opens : text.toList[start]? = some '\x7b')
    (after : start < stop) (unclosed : ∀ last < stop, ¬ClosesGroup text start last) :
    occurrences text '\x7d' start stop < occurrences text '\x7b' start stop := by
  induction stop, after using Nat.le_induction with
  | base =>
      rw [occurrences_succ text _ le_rfl, occurrences_succ text _ le_rfl, opens,
        occurrences_self, occurrences_self]
      decide
  | succ stop after ih =>
      have fewer := ih fun last below => unclosed last (Nat.lt_succ_of_lt below)
      have closed := occurrences_succ text '\x7d' (Nat.le_of_succ_le after)
      have opened := occurrences_succ text '\x7b' (Nat.le_of_succ_le after)
      by_cases closing : text.toList[stop]? = some '\x7d'
      · -- The closing brace makes up for one opening brace, and it would end the group at once.
        have uneven : occurrences text '\x7b' start (stop + 1) ≠
            occurrences text '\x7d' start (stop + 1) :=
          fun even => unclosed stop (Nat.lt_succ_self stop) ⟨after, closing, even⟩
        rw [closing, if_pos rfl] at closed
        rw [closing, if_neg (by decide)] at opened
        omega
      · rw [if_neg closing] at closed
        omega

/-- A closing brace stands inside the text. -/
theorem ClosesGroup.lt_length {last : Nat} (closes : ClosesGroup text start last) :
    last < text.length := by
  obtain ⟨inside, _⟩ := List.getElem?_eq_some_iff.mp closes.closing
  rwa [String.length_toList] at inside

/-- A group is not empty. -/
theorem IsGroup.lt_of_extract (group : IsGroup (text.toList.extract start stop)) :
    start < stop := by
  by_contra early
  have first := group.opens
  rw [List.extract_eq_take_drop, Nat.sub_eq_zero_of_le (not_lt.mp early)] at first
  exact nomatch first

/-- Inside a group more braces are open than closed. -/
theorem IsGroup.occurrences_lt (group : IsGroup (text.toList.extract start stop))
    (within : stop ≤ text.length) {m : Nat} (after : start < m) (before : m < stop) :
    occurrences text '\x7d' start m < occurrences text '\x7b' start m := by
  have fewer := group.unclosed (m - start) (by omega) (by rw [length_extract within]; omega)
  rwa [take_extract (by omega), Nat.add_sub_cancel' after.le] at fewer

/-- A group ends with a closing brace, which makes the numbers of braces equal for the first
time. -/
theorem IsGroup.isLeast {last : Nat} (group : IsGroup (text.toList.extract start (last + 1)))
    (opens : text.toList[start]? = some '\x7b') (within : last < text.length) :
    IsLeast {i | ClosesGroup text start i} last := by
  have after : start ≤ last := Nat.le_of_lt_succ group.lt_of_extract
  have even : occurrences text '\x7b' start (last + 1) =
      occurrences text '\x7d' start (last + 1) := group.closed.symm
  have closed := occurrences_succ text '\x7d' after
  have opened := occurrences_succ text '\x7b' after
  have later : start < last := by
    refine lt_of_le_of_ne after ?_
    rintro rfl
    rw [opens, if_neg (by decide), occurrences_self] at closed
    rw [opens, if_pos rfl] at opened
    omega
  have fewer := group.occurrences_lt within later (Nat.lt_succ_self last)
  refine ⟨⟨later, ?_, even⟩, fun i closes => ?_⟩
  · by_contra other
    rw [if_neg other] at closed
    omega
  · by_contra below
    have uneven := group.occurrences_lt within (Nat.lt_succ_of_lt closes.later)
      (Nat.succ_lt_succ (not_le.mp below))
    exact uneven.ne closes.even.symm

/-- The first brace that closes a group makes it complete. -/
theorem isGroup_of_isLeast (opens : text.toList[start]? = some '\x7b') {last : Nat}
    (least : IsLeast {i | ClosesGroup text start i} last) :
    IsGroup (text.toList.extract start (last + 1)) := by
  obtain ⟨closes, first⟩ := least
  have after := closes.later
  refine ⟨?_, closes.even.symm, fun n positive below => ?_⟩
  · rw [List.extract_eq_take_drop, List.head?_take, if_neg (by omega), List.head?_drop, opens]
  · rw [length_extract closes.lt_length] at below
    rw [take_extract (by omega)]
    refine occurrences_lt_of_not_closesGroup opens (Nat.lt_add_of_pos_right positive) ?_
    intro i before closes_
    have reached : last ≤ i := first closes_
    omega

/-- The search finds the first place where the group is closed. -/
theorem groupLength?_drop_eq_some_iff (opens : text.toList[start]? = some '\x7b') {length : Nat} :
    Piece.groupLength? 0 (text.toList.drop start) = some length ↔
      ∃ last, start + length = last + 1 ∧ IsLeast {i | ClosesGroup text start i} last := by
  have first : (text.toList.drop start).head? = some '\x7b' := by rw [List.head?_drop, opens]
  have whole : text.toList.extract start (start + length) =
      (text.toList.drop start).take length := by
    rw [List.extract_eq_take_drop, Nat.add_sub_cancel_left]
  rw [groupLength?_eq_some_iff first]
  constructor
  · rintro ⟨cs, after, split, rfl, group⟩
    have long := congrArg List.length split
    have inside := (List.getElem?_eq_some_iff.mp opens).1
    rw [List.length_drop, List.length_append, String.length_toList] at long
    rw [String.length_toList] at inside
    rw [split, List.take_left] at whole
    rw [← whole] at group
    have nonempty := group.lt_of_extract
    obtain ⟨last, finish⟩ := Nat.exists_eq_add_one_of_ne_zero (Nat.ne_zero_of_lt nonempty)
    rw [finish] at group
    exact ⟨last, finish, group.isLeast opens (by omega)⟩
  · rintro ⟨last, finish, least⟩
    have group := isGroup_of_isLeast opens least
    have inside := least.1.lt_length
    rw [← finish, whole] at group
    refine ⟨_, _, (List.take_append_drop length _).symm, ?_, group⟩
    rw [List.length_take, List.length_drop, String.length_toList]
    omega

/-- A group that is closed is skipped up to the first place where it is. -/
theorem skipGroup_of_isLeast (opens : text.toList[start]? = some '\x7b') {last : Nat}
    (least : IsLeast {i | ClosesGroup text start i} last) :
    skipGroup text start = .ok (last + 1) := by
  have finish : start + (last + 1 - start) = last + 1 :=
    Nat.add_sub_cancel' (Nat.le_succ_of_le least.1.later.le)
  have found := (groupLength?_drop_eq_some_iff opens).mpr ⟨last, finish, least⟩
  rw [skipGroup, found]
  exact congrArg Except.ok finish

/-- If a group is closed somewhere, there is a first such place. -/
theorem ClosesGroup.exists_isLeast {i : Nat} (closes : ClosesGroup text start i) :
    ∃ last, IsLeast {i | ClosesGroup text start i} last :=
  have some_ : ∃ i, ClosesGroup text start i := ⟨i, closes⟩
  ⟨Nat.find some_, Nat.find_spec some_, fun _ other => Nat.find_min' some_ other⟩

/-- A group that is never closed is an error at its opening brace, with what stands there. -/
theorem skipGroup_of_not_closesGroup (opens : text.toList[start]? = some '\x7b')
    (unclosed : ¬∃ last, ClosesGroup text start last) :
    skipGroup text start =
      .error ⟨.unterminatedGroup, String.ofList ((text.toList.drop start).take 12), start⟩ := by
  rw [skipGroup]
  cases found : Piece.groupLength? 0 (text.toList.drop start) with
  | some length =>
      obtain ⟨last, _, least⟩ := (groupLength?_drop_eq_some_iff opens).mp found
      exact absurd ⟨last, least.1⟩ unclosed
  | none => rfl

/-- Only groups that are never closed are errors. -/
theorem exists_skipGroup_error_iff (opens : text.toList[start]? = some '\x7b') :
    (∃ e, skipGroup text start = .error e) ↔ ¬∃ last, ClosesGroup text start last := by
  constructor
  · rintro ⟨e, failed⟩ ⟨i, closes⟩
    obtain ⟨last, least⟩ := closes.exists_isLeast
    rw [skipGroup_of_isLeast opens least] at failed
    exact nomatch failed
  · exact fun unclosed => ⟨_, skipGroup_of_not_closesGroup opens unclosed⟩

/-- There is no end of the group exactly if more braces are open than closed all along. -/
theorem not_exists_closesGroup_iff (opens : text.toList[start]? = some '\x7b') :
    (¬∃ last, ClosesGroup text start last) ↔ ∀ stop, start < stop → stop ≤ text.length →
      occurrences text '\x7d' start stop < occurrences text '\x7b' start stop := by
  constructor
  · exact fun unclosed stop after _ =>
      occurrences_lt_of_not_closesGroup opens after fun last _ closes => unclosed ⟨last, closes⟩
  · rintro more ⟨last, closes⟩
    have uneven := more (last + 1) (Nat.lt_succ_of_lt closes.later) closes.lt_length
    exact uneven.ne closes.even.symm

/-- A scan that comes to a formatting command goes on behind the group, or ends with the
complaint. -/
theorem scanFrom_formatting {name : String} {pos : Nat} (known : name ∈ formattingCommands)
    (opens : text.toList[pos + 1 + name.length]? = some '\x7b')
    (command : '\\' :: name.toList <+: text.toList.drop pos) :
    scanFrom pos (text.toList.drop pos) =
      match skipGroup text (pos + 1 + name.length) with
      | .ok stop => scanFrom stop (text.toList.drop stop)
      | .error e => .error e := by
  obtain ⟨rest, split⟩ := command
  have behind : text.toList.drop (pos + 1 + name.length) = rest := by
    have dropped := congrArg (List.drop ('\\' :: name.toList).length) split
    rwa [List.drop_left, List.drop_drop, List.length_cons, String.length_toList,
      Nat.add_comm name.length 1, ← Nat.add_assoc, eq_comm] at dropped
  have first : rest.head? = some '\x7b' := by rw [← behind, List.head?_drop, opens]
  have ends : EndsCommand rest := by
    intro c starts
    obtain rfl := Option.some.inj (first.symm.trans starts)
    decide
  rw [← split, List.cons_append, scanFrom, Piece.read_format known ends, Piece.formatting,
    if_pos first, skipGroup, behind]
  cases found : Piece.groupLength? 0 rest with
  | some length =>
      dsimp only
      rw [List.drop_length_add_append, ← List.drop_drop, behind, String.length_toList,
        ← Nat.add_assoc]
      cases scanFrom (pos + 1 + name.length + length) (rest.drop length) with
      | ok tokens => rfl
      | error e => rfl
  | none =>
      rw [String.length_toList, Nat.add_assoc, Nat.add_comm 1]
      rfl

/-- The group that opens at a position ends just behind the first later brace with which as many
braces are closed as were opened. If there is none, the complaint points to the position, with
twelve characters at most, and that is so exactly if every stretch of the text from there on opens
more braces than it closes. A scan does this behind a formatting command. -/
theorem skipGroup_spec (text : String) (start : Nat) (opens : text.toList[start]? = some '\x7b') :
    ((∃ last, ClosesGroup text start last) →
        ∃ last, IsLeast {i | ClosesGroup text start i} last ∧
          skipGroup text start = .ok (last + 1)) ∧
      ((¬∃ last, ClosesGroup text start last) → skipGroup text start =
        .error ⟨.unterminatedGroup, String.ofList ((text.toList.drop start).take 12), start⟩) ∧
      ((∃ e, skipGroup text start = .error e) ↔ ∀ stop, start < stop → stop ≤ text.length →
        occurrences text '\x7d' start stop < occurrences text '\x7b' start stop) ∧
      ∀ name ∈ formattingCommands, ∀ pos, start = pos + 1 + name.length →
        '\\' :: name.toList <+: text.toList.drop pos →
          scanFrom pos (text.toList.drop pos) =
            match skipGroup text start with
            | .ok stop => scanFrom stop (text.toList.drop stop)
            | .error e => .error e := by
  refine ⟨?_, skipGroup_of_not_closesGroup opens, ?_, ?_⟩
  · rintro ⟨i, closes⟩
    obtain ⟨last, least⟩ := closes.exists_isLeast
    exact ⟨last, least, skipGroup_of_isLeast opens least⟩
  · exact (exists_skipGroup_error_iff opens).trans (not_exists_closesGroup_iff opens)
  · rintro name known pos rfl command
    exact scanFrom_formatting known opens command

/-- A brace after a backslash counts and so does one after a comment sign. The group may end with
the text, and without its last brace it does not end. -/
theorem skipGroup_spec_nested :
    "\\text\x7b \x7b\\\x7d%\x7d".toList[5]? = some '\x7b' ∧
      skipGroup "\\text\x7b \x7b\\\x7d%\x7d" 5 = .ok 12 ∧
      scanFrom 0 "\\text\x7b \x7b\\\x7d%\x7d".toList = .ok [] ∧
      "\\text\x7b \x7b\\\x7d%".toList[5]? = some '\x7b' ∧
      skipGroup "\\text\x7b \x7b\\\x7d%" 5 =
        .error ⟨.unterminatedGroup, "\x7b \x7b\\\x7d%", 5⟩ := by
  have opens : "\\text\x7b \x7b\\\x7d%\x7d".toList[5]? = some '\x7b' := by decide +kernel
  have cut : "\\text\x7b \x7b\\\x7d%".toList[5]? = some '\x7b' := by decide +kernel
  have closes : ClosesGroup "\\text\x7b \x7b\\\x7d%\x7d" 5 11 := by decide +kernel
  have earlier : ∀ i < 11, ¬ClosesGroup "\\text\x7b \x7b\\\x7d%\x7d" 5 i := by decide +kernel
  obtain ⟨closed, _, _, scanned⟩ := skipGroup_spec _ 5 opens
  obtain ⟨last, least, found⟩ := closed ⟨11, closes⟩
  obtain rfl : last = 11 := least.unique ⟨closes, fun i other => not_lt.mp fun below =>
    earlier i below other⟩
  have finish : "\\text\x7b \x7b\\\x7d%\x7d".toList.drop 12 = [] := by decide +kernel
  have passed := scanned "text" (by decide) 0 (by decide +kernel) (by decide +kernel)
  rw [found] at passed
  dsimp only at passed
  rw [finish, scanFrom, List.drop_zero] at passed
  have unclosed : ¬∃ last, ClosesGroup "\\text\x7b \x7b\\\x7d%" 5 last := by
    rintro ⟨last, closes_⟩
    have none_ : ∀ i < "\\text\x7b \x7b\\\x7d%".length,
        ¬ClosesGroup "\\text\x7b \x7b\\\x7d%" 5 i := by decide +kernel
    exact none_ last closes_.lt_length closes_
  exact ⟨opens, found, passed, cut, (skipGroup_spec _ 5 cut).2.1 unclosed⟩

end Clausal
