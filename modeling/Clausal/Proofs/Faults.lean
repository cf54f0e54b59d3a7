import Clausal.Proofs.Segmentation

/-!
# Where a scan fails

A scan collects tokens until it comes to the end or to something that is no piece
(`collectFrom`). The error then shows characters that stand at its position, at least one. It
points behind a formatting command whose group is not closed, and otherwise to where no piece
starts (`Piece.points_of_read`). What stands before that is a text of its own: no piece of it needs
what is cut off, so it is scanned, as the tokens that were collected (`scan_before_error`).
-/

namespace Clausal

/-- The tokens that a scan collects, and the error that stops it before the end. -/
def collectFrom (pos : Nat) : List Char → List Token × Option ScanError
  | [] => ([], none)
  | c :: rest =>
      match Piece.read c rest with
      | .error fault => ([], some (fault.at pos))
      | .ok piece =>
          let (tokens, error?) := collectFrom (pos + 1 + piece.extra) (rest.drop piece.extra)
          (piece.tokens pos ++ tokens, error?)
termination_by cs => cs.length

/-- What a fault says about the characters in which it is found: they start with something that
means nothing, if with anything, and then the fragment stands there. -/
structure PieceFault.Points (fault : PieceFault) (before after : List Char) : Prop where
  offset : before.length = fault.offset
  ignorable : before ≠ [] → Ignorable before []
  nonempty : fault.fragment ≠ []
  stands : fault.fragment <+: after

variable {c : Char} {cs rest : List Char} {pos : Nat} {fault : PieceFault}

/-- The tokens are those of the text if no error stops the scan. -/
theorem scanFrom_eq_collectFrom (pos : Nat) (cs : List Char) :
    scanFrom pos cs =
      match collectFrom pos cs with
      | (tokens, none) => .ok tokens
      | (_, some e) => .error e := by
  fun_induction collectFrom pos cs with
  | case1 pos => rw [scanFrom]
  | case2 pos c rest fault read => rw [scanFrom, read]
  | case3 pos c rest piece read tokens error? others ih =>
      rw [others] at ih
      rw [scanFrom, read]
      dsimp only
      rw [ih]
      cases error? with
      | none => rfl
      | some e => rfl

namespace Piece

/-- A fault may point to where the piece would have started. -/
theorem points_at_start (offset : fault.offset = 0) (nonempty : fault.fragment ≠ [])
    (stands : fault.fragment <+: cs) :
    ∃ before after, cs = before ++ after ∧ fault.Points before after :=
  ⟨[], cs, rfl, offset.symm, fun some_ => absurd rfl some_, nonempty, stands⟩

/-- What is no piece is complained of where it stands. -/
theorem points_of_read (failed : read c rest = .error fault) :
    ∃ before after, c :: rest = before ++ after ∧ fault.Points before after := by
  cases reads c rest with
  | piece lexeme? cs split fits =>
      rw [split, read_of_isPiece fits] at failed
      exact nomatch failed
  | refused complaint fragment nonempty stands found =>
      obtain rfl := Except.error.inj (found.symm.trans failed)
      exact points_at_start rfl nonempty stands
  | @unclosed name after known split opens found =>
      obtain rfl := Except.error.inj (found.symm.trans failed)
      obtain ⟨body, rfl⟩ := List.head?_eq_some_iff.mp opens
      have command : Ignorable ('\\' :: name.toList) [] :=
        .formatting known (endsCommand_of_ends ends_nil) (by decide)
      exact ⟨_, _, split, List.length_cons, fun _ => command, List.cons_ne_nil _ _,
        List.take_prefix _ _⟩

end Piece

/-- A piece of a text remains a piece when the text is cut off behind it. -/
theorem IsPiece.of_append {lexeme? : Option Lexeme} {more : List Char}
    (fits : IsPiece lexeme? cs (rest ++ more)) : IsPiece lexeme? cs rest := by
  refine fits.before fun c first => .inr ?_
  cases rest with
  | nil => exact nomatch first
  | cons d rest => exact first

/-- What stands before the fragment has no tokens. -/
theorem PieceFault.Points.scanFrom {before after : List Char} (points : fault.Points before after)
    (pos : Nat) : scanFrom pos before = .ok [] := by
  cases before with
  | nil => rw [Clausal.scanFrom]
  | cons c before =>
      have passed := scanFrom_of_ignorable pos (points.ignorable (List.cons_ne_nil c before))
      rw [List.append_nil] at passed
      rw [passed, Clausal.scanFrom]

/-- Up to the position of the error a text is scanned as the tokens that were collected. -/
theorem exists_split_of_collectFrom {ts : List Token} {e : ScanError}
    (stopped : collectFrom pos cs = (ts, some e)) :
    ∃ before after, cs = before ++ after ∧ e.pos = pos + before.length ∧
      e.fragment.toList ≠ [] ∧ e.fragment.toList <+: after ∧ scanFrom pos before = .ok ts := by
  fun_induction collectFrom pos cs generalizing ts with
  | case1 pos => exact nomatch stopped
  | case2 pos c rest fault read =>
      obtain ⟨rfl, same⟩ := Prod.mk.inj stopped
      obtain rfl := Option.some.inj same
      obtain ⟨before, after, split, points⟩ := Piece.points_of_read read
      have fragment : (fault.at pos).fragment.toList = fault.fragment := String.toList_ofList
      refine ⟨before, after, split, ?_, ?_, ?_, points.scanFrom pos⟩
      · rw [points.offset]
        rfl
      · rw [fragment]
        exact points.nonempty
      · rw [fragment]
        exact points.stands
  | case3 pos c rest piece read tokens error? others ih =>
      obtain ⟨rfl, rfl⟩ := Prod.mk.inj stopped
      obtain ⟨spelled, after, rfl, length, fits⟩ := Piece.read_eq_ok_iff.mp read
      rw [← length, List.drop_left] at ih others
      obtain ⟨before, after, rfl, place, nonempty, stands, scanned⟩ := ih others
      have whole := scanFrom_piece fits.of_append scanned
      rw [length] at whole
      refine ⟨c :: (spelled ++ before), after, ?_, ?_, nonempty, stands, whole⟩
      · rw [List.cons_append, List.append_assoc]
      · rw [place, List.length_cons, List.length_append]
        omega

/-- An error shows at least one character, and these are the characters at its position, which is
therefore in the text. The text before the position can be scanned, and has the tokens that were
collected before the error. -/
theorem scan_before_error {text : String} {e : ScanError} (failed : scan text = .error e) :
    e.pos < text.length ∧ e.fragment ≠ "" ∧ e.fragment.toList <+: text.toList.drop e.pos ∧
      ∃ ts, collectFrom 0 text.toList = (ts, some e) ∧
        scan (String.ofList (text.toList.take e.pos)) = .ok ⟨ts, e.pos⟩ := by
  rw [scan_eq_error_iff, scanFrom_eq_collectFrom] at failed
  rcases found : collectFrom 0 text.toList with ⟨ts, _ | e'⟩
  · rw [found] at failed
    exact nomatch failed
  · rw [found] at failed
    obtain rfl := Except.error.inj failed
    obtain ⟨before, after, split, place, nonempty, stands, scanned⟩ :=
      exists_split_of_collectFrom found
    rw [Nat.zero_add] at place
    have long := stands.length_le
    have some_ := List.length_pos_iff.mpr nonempty
    have length : text.length = before.length + after.length := by
      rw [← String.length_toList, split, List.length_append]
    rw [split, place, List.take_left, List.drop_left]
    refine ⟨by omega, ?_, stands, ts, rfl, scan_eq_ok_iff.mpr ⟨ts, ?_, ?_⟩⟩
    · intro empty
      rw [empty] at nonempty
      exact nonempty rfl
    · rwa [String.toList_ofList]
    · rw [String.length_ofList]

/-- A group that is not closed, since a brace after a backslash opens one more. The brace in the
comment does not count, and the formatting command before the group is complete without it. -/
theorem scan_before_error_group :
    scan "P \\to% \x7b\n\\text\x7b\\\x7b Q\x7d" =
        .error ⟨.unterminatedGroup, "\x7b\\\x7b Q\x7d", 14⟩ ∧
      scan "P \\to% \x7b\n\\text" = .ok ⟨[⟨.ident "P", 0⟩, ⟨.connective .implies, 2⟩], 14⟩ := by
  have failed : scan "P \\to% \x7b\n\\text\x7b\\\x7b Q\x7d" =
      .error ⟨.unterminatedGroup, "\x7b\\\x7b Q\x7d", 14⟩ := by
    decide +kernel
  have collected : collectFrom 0 "P \\to% \x7b\n\\text\x7b\\\x7b Q\x7d".toList =
      ([⟨.ident "P", 0⟩, ⟨.connective .implies, 2⟩],
        some ⟨.unterminatedGroup, "\x7b\\\x7b Q\x7d", 14⟩) := by
    decide +kernel
  obtain ⟨_, _, _, ts, found, scanned⟩ := scan_before_error failed
  obtain rfl := (Prod.mk.inj (collected.symm.trans found)).1
  exact ⟨failed, scanned⟩

end Clausal
