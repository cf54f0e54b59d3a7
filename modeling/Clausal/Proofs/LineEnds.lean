import Clausal.Proofs.Segmentation

/-!
# Texts joined at a line end

No piece of a text reaches over the end of a line that follows the text, and none has to look
beyond it (`IsPiece.before_newline`). A scan that starts somewhere else finds the same, only at
shifted positions (`scanFrom_shift`). So a text that is scanned can be followed by another one on
a new line: the second is scanned as it is alone, and fails as it does alone
(`scan_append_newline`).
-/

namespace Clausal

/-- The token behind a number of further characters. -/
def Token.shift (n : Nat) (t : Token) : Token := ⟨t.lexeme, t.pos + n⟩

/-- The error behind a number of further characters. -/
def ScanError.shift (n : Nat) (e : ScanError) : ScanError := { e with pos := e.pos + n }

variable {cs rest after : List Char} {segments : List Segment}

/-- A fault that is met later has a later place. -/
theorem PieceFault.at_add (fault : PieceFault) (pos n : Nat) :
    fault.at (pos + n) = (fault.at pos).shift n := by
  rw [PieceFault.at, PieceFault.at, ScanError.shift, Nat.add_right_comm]

/-- The token of a piece that is read later has a later place. -/
theorem Piece.tokens_add (piece : Piece) (pos n : Nat) :
    piece.tokens (pos + n) = (piece.tokens pos).map (Token.shift n) := by
  rw [tokens, tokens]
  cases piece.lexeme? with
  | none => rfl
  | some l => rfl

/-- What is scanned does not depend on the place where the scan starts, apart from the
positions. -/
theorem scanFrom_shift (pos n : Nat) (cs : List Char) :
    scanFrom (pos + n) cs =
      ((scanFrom pos cs).map (List.map (Token.shift n))).mapError (ScanError.shift n) := by
  fun_induction scanFrom pos cs with
  | case1 pos => rw [scanFrom]; rfl
  | case2 pos c rest fault read =>
      rw [scanFrom, read]
      dsimp only
      rw [PieceFault.at_add]
      rfl
  | case3 pos c rest piece read e others ih =>
      have next : pos + n + 1 + piece.extra = pos + 1 + piece.extra + n := by omega
      rw [scanFrom, read]
      dsimp only
      rw [next, ih, others]
      rfl
  | case4 pos c rest piece read tokens others ih =>
      have next : pos + n + 1 + piece.extra = pos + 1 + piece.extra + n := by omega
      rw [scanFrom, read]
      dsimp only
      rw [next, ih, others, Piece.tokens_add]
      exact congrArg Except.ok List.map_append.symm

/-- A piece of a text remains a piece when the text is continued on a new line. -/
theorem IsPiece.before_newline {lexeme? : Option Lexeme} (fits : IsPiece lexeme? cs after) :
    IsPiece lexeme? cs (after ++ '\n' :: rest) := by
  refine fits.before fun c first => ?_
  cases after with
  | nil => exact .inl (Option.some.inj first).symm
  | cons d after => exact .inr first

/-- The segments of a text are scanned first when it is continued on a new line. -/
theorem Segmented.scanFrom_newline (segmented : Segmented cs segments) (pos : Nat)
    (rest : List Char) :
    scanFrom pos (cs ++ '\n' :: rest) =
      (scanFrom (pos + (cs.length + 1)) rest).map (Segment.tokensFrom pos segments ++ ·) := by
  induction segmented generalizing pos with
  | nil =>
      have blank : IsPiece none ['\n'] rest := Ignorable.blank (by decide)
      exact scanFrom_of_isPiece pos blank
  | @cons lexeme? chars after segments first others ih =>
      obtain ⟨c, spelled, rfl⟩ := exists_cons_of_isPiece first
      have next : pos + 1 + spelled.length + (after.length + 1) =
          pos + ((c :: spelled ++ after).length + 1) := by
        rw [List.length_append, List.length_cons]
        omega
      rw [List.append_assoc, List.cons_append, scanFrom_of_isPiece pos first.before_newline, ih,
        next, Segment.tokensFrom_cons]
      cases scanFrom (pos + ((c :: spelled ++ after).length + 1)) rest with
      | error e => rfl
      | ok ts => exact congrArg Except.ok (List.append_assoc _ _ _).symm

/-- A text that can be scanned may be followed by any other text on a new line. The tokens of the
second text come after those of the first, which loses its end; or the second text has the error
that it has alone. Positions in the second text count the characters of the first one. -/
theorem scan_append_newline {a : String} {s : Scanned} (scanned : scan a = .ok s) (b : String) :
    (∀ t, scan b = .ok t → ∃ r, scan (a ++ "\n" ++ b) = .ok r ∧
      r.ended = s.ended.dropLast ++ t.ended.map fun (l, pos) => (l, pos + (a.length + 1))) ∧
    ∀ e, scan b = .error e →
      scan (a ++ "\n" ++ b) = .error ⟨e.complaint, e.fragment, e.pos + (a.length + 1)⟩ := by
  obtain ⟨segments, segmented, rfl⟩ := scan_eq_ok_iff_segmented.mp scanned
  have letters : (a ++ "\n" ++ b).toList = a.toList ++ '\n' :: b.toList := by
    rw [String.toList_append, String.toList_append, List.append_assoc]
    rfl
  have joined : scanFrom 0 (a ++ "\n" ++ b).toList =
      (((scanFrom 0 b.toList).map (List.map (Token.shift (a.length + 1)))).mapError
        (ScanError.shift (a.length + 1))).map (Segment.tokensFrom 0 segments ++ ·) := by
    rw [letters, segmented.scanFrom_newline, scanFrom_shift, String.length_toList]
  constructor
  · intro t second
    obtain ⟨ts, found, rfl⟩ := scan_eq_ok_iff.mp second
    rw [found] at joined
    refine ⟨_, scan_eq_ok_iff.mpr ⟨_, joined, rfl⟩, ?_⟩
    have finish : (a ++ "\n" ++ b).length = b.length + (a.length + 1) := by
      rw [← String.length_toList, letters, List.length_append, List.length_cons,
        String.length_toList, String.length_toList]
      omega
    rw [finish, Scanned.ended, Scanned.ended, Scanned.ended, List.dropLast_concat, List.map_append,
      List.map_append, List.map_map, List.map_map, List.append_assoc]
    rfl
  · intro e second
    rw [scan_eq_error_iff] at second ⊢
    rw [second] at joined
    exact joined

/-- A formatting command at the end of a line has no group, even if the next line starts with a
brace; and a comment there hides nothing of the next line, where a group may be left open. -/
theorem scan_append_newline_brace :
    (∃ s t r, scan "P\\left" = .ok s ∧ scan "\x7bQ\x7d" = .ok t ∧
      scan ("P\\left" ++ "\n" ++ "\x7bQ\x7d") = .ok r ∧
      r.ended = s.ended.dropLast ++ t.ended.map fun (l, pos) => (l, pos + 7)) ∧
    scan ("P % Q" ++ "\n" ++ "R \\text\x7bor") =
      .error ⟨.unterminatedGroup, "\x7bor", 13⟩ := by
  have first : scan "P\\left" = .ok ⟨[⟨.ident "P", 0⟩], 6⟩ := by decide +kernel
  have second : scan "\x7bQ\x7d" = .ok ⟨[⟨.opening, 0⟩, ⟨.ident "Q", 1⟩, ⟨.closing, 2⟩], 3⟩ := by
    decide +kernel
  have hidden : scan "P % Q" = .ok ⟨[⟨.ident "P", 0⟩], 5⟩ := by decide +kernel
  have open_ : scan "R \\text\x7bor" = .error ⟨.unterminatedGroup, "\x7bor", 7⟩ := by
    decide +kernel
  obtain ⟨r, joined, ended⟩ := (scan_append_newline first "\x7bQ\x7d").1 _ second
  exact ⟨⟨_, _, r, first, second, joined, ended⟩,
    (scan_append_newline hidden "R \\text\x7bor").2 _ open_⟩

end Clausal
