import Clausal.Proofs.Pieces

/-!
# Scanning piece by piece

How a text is scanned that starts with a known piece (`Lexed`). An identifier has to be
followed by something that does not continue it, and a command by something that is no letter.
Every other piece ends by itself.

All identifiers among the lexemes of a text are names that can be written
(`isIdentifier_of_scan`), and its tokens stand one after the other (`pairwise_pos_of_scan`).
-/

namespace Clausal

variable {c : Char} {rest : List Char} {l : Lexeme} {ls : List Lexeme}

/-- The characters are scanned as the lexemes, at any position. -/
def Lexed (cs : List Char) (ls : List Lexeme) : Prop :=
  ∀ pos, ∃ ts, scanFrom pos cs = .ok ts ∧ ts.map Token.lexeme = ls

theorem ends_nil : Ends [] := fun _ member => nomatch member

theorem ends_cons : Ends (c :: rest) ↔ isIdentifierPart c = false := by
  simp only [Ends, List.head?_cons, Option.mem_some_iff, forall_eq']

theorem endsCommand_cons : EndsCommand (c :: rest) ↔ isCommandLetter c = false := by
  simp only [EndsCommand, List.head?_cons, Option.mem_some_iff, forall_eq']

/-- Behind the piece at the start of a text the rest is scanned, and may fail. -/
theorem scanFrom_of_isPiece {cs : List Char} {lexeme? : Option Lexeme} (pos : Nat)
    (first : IsPiece lexeme? (c :: cs) rest) :
    scanFrom pos (c :: (cs ++ rest)) =
      (scanFrom (pos + 1 + cs.length) rest).map (Piece.tokens ⟨lexeme?, cs.length⟩ pos ++ ·) := by
  rw [scanFrom, Piece.read_of_isPiece first]
  dsimp only
  rw [List.drop_left]
  cases scanFrom (pos + 1 + cs.length) rest with
  | error e => rfl
  | ok ts => rfl

/-- The piece at the start of a text, and then the tokens of the rest. -/
theorem scanFrom_piece {cs : List Char} {lexeme? : Option Lexeme} {pos : Nat} {ts : List Token}
    (first : IsPiece lexeme? (c :: cs) rest)
    (others : scanFrom (pos + 1 + cs.length) rest = .ok ts) :
    scanFrom pos (c :: (cs ++ rest)) = .ok (Piece.tokens ⟨lexeme?, cs.length⟩ pos ++ ts) := by
  rw [scanFrom_of_isPiece pos first, others]
  rfl

namespace Lexed

theorem nil : Lexed [] [] := fun pos => ⟨[], by rw [scanFrom], rfl⟩

/-- The first piece of a text, and then the rest. -/
theorem piece {cs : List Char} {lexeme? : Option Lexeme}
    (first : IsPiece lexeme? (c :: cs) rest) (lexed : Lexed rest ls) :
    Lexed (c :: (cs ++ rest)) (lexeme?.toList ++ ls) := by
  intro pos
  obtain ⟨ts, scanned, carried⟩ := lexed (pos + 1 + cs.length)
  refine ⟨_, scanFrom_piece first scanned, ?_⟩
  rw [List.map_append, carried, Piece.tokens]
  cases lexeme? with
  | none => rfl
  | some l => rfl

/-- What is ignored adds no token. -/
theorem ignorable {cs : List Char} (first : Ignorable (c :: cs) rest) (lexed : Lexed rest ls) :
    Lexed (c :: (cs ++ rest)) ls := by
  have fits : IsPiece none (c :: cs) rest := first
  exact .piece fits lexed

/-- What spells a token adds that token. -/
theorem spelled {cs : List Char} (first : Spells l (c :: cs) rest) (lexed : Lexed rest ls) :
    Lexed (c :: (cs ++ rest)) (l :: ls) := by
  have fits : IsPiece (some l) (c :: cs) rest := first
  exact .piece fits lexed

/-- A sign of one character adds its token. -/
theorem sign (known : signs.lookup c = some l) (lexed : Lexed rest ls) :
    Lexed (c :: rest) (l :: ls) :=
  .spelled (.sign known) lexed

/-- White space adds no token. -/
theorem blank (white : Text.isBlank c = true) (lexed : Lexed rest ls) : Lexed (c :: rest) ls :=
  .ignorable (.blank white) lexed

/-- A command for space adds no token. -/
theorem spacing (mark : c ∈ spacingMarks) (lexed : Lexed rest ls) :
    Lexed ('\\' :: c :: rest) ls :=
  .ignorable (.spacing mark) lexed

/-- An escaped brace adds a bracket. -/
theorem brace (known : escapedBraces.lookup c = some l) (lexed : Lexed rest ls) :
    Lexed ('\\' :: c :: rest) (l :: ls) :=
  .spelled (.brace known) lexed

/-- A known command adds its token, if its name ends there. -/
theorem command (name : String) (known : commands.lookup name = some l)
    (ends : EndsCommand rest) (lexed : Lexed rest ls) :
    Lexed ('\\' :: (name.toList ++ rest)) (l :: ls) :=
  .spelled (.command known ends) lexed

/-- A command that only formats has no meaning. It must not be followed by a group. -/
theorem formatting (name : String) (known : name ∈ formattingCommands) (ends : EndsCommand rest)
    (bare : rest.head? ≠ some '\x7b') (lexed : Lexed rest ls) :
    Lexed ('\\' :: (name.toList ++ rest)) ls :=
  .ignorable (.formatting known ends bare) lexed

/-- An identifier adds its token, if it ends there. -/
theorem identifier {name : String} (named : isIdentifier name = true) (ends : Ends rest)
    (lexed : Lexed rest ls) : Lexed (name.toList ++ rest) (.ident name :: ls) := by
  obtain ⟨c, cs, letters, _⟩ := isIdentifier_iff.mp named
  have first : Spells (.ident name) (c :: cs) rest := letters ▸ .identifier named ends
  rw [letters]
  exact .spelled first lexed

end Lexed

/-- The token of a piece stands where the piece starts. -/
theorem Piece.mem_tokens {piece : Piece} {pos : Nat} {t : Token} :
    t ∈ piece.tokens pos ↔ piece.lexeme? = some t.lexeme ∧ t.pos = pos := by
  obtain ⟨lexeme, at_⟩ := t
  rw [tokens]
  cases piece.lexeme? with
  | none => exact ⟨(nomatch ·), fun ⟨found, _⟩ => nomatch found⟩
  | some l =>
      rw [List.mem_singleton, Token.mk.injEq, Option.some.injEq, @eq_comm _ lexeme]

/-- Only identifiers are scanned as names. -/
theorem isIdentifier_of_scanFrom {cs : List Char} {pos : Nat} {ts : List Token}
    (scanned : scanFrom pos cs = .ok ts) {name : String}
    (member : .ident name ∈ ts.map Token.lexeme) : isIdentifier name = true := by
  fun_induction scanFrom pos cs generalizing ts with
  | case1 pos =>
      obtain rfl := Except.ok.inj scanned
      exact nomatch member
  | case2 => exact nomatch scanned
  | case3 => exact nomatch scanned
  | case4 pos c rest piece read tokens others ih =>
      obtain rfl := Except.ok.inj scanned
      rw [List.map_append, List.mem_append] at member
      rcases member with first | later
      · obtain ⟨t, here, carried⟩ := List.mem_map.mp first
        obtain ⟨cs, after, rfl, _, fits⟩ := Piece.isPiece_of_read read
        rw [(Piece.mem_tokens.mp here).1, carried] at fits
        exact (spells_ident_iff.mp fits).2.1
      · exact ih others later

/-- A token stands where characters are. -/
theorem pos_of_scanFrom {cs : List Char} {pos : Nat} {ts : List Token}
    (scanned : scanFrom pos cs = .ok ts) : ∀ t ∈ ts, pos ≤ t.pos ∧ t.pos < pos + cs.length := by
  fun_induction scanFrom pos cs generalizing ts with
  | case1 pos =>
      obtain rfl := Except.ok.inj scanned
      exact List.forall_mem_nil _
  | case2 => exact nomatch scanned
  | case3 => exact nomatch scanned
  | case4 pos c rest piece read tokens others ih =>
      obtain rfl := Except.ok.inj scanned
      refine List.forall_mem_append.mpr ⟨fun t first => ?_, fun t later => ?_⟩
      · rw [(Piece.mem_tokens.mp first).2, List.length_cons]
        omega
      · -- The piece may not reach beyond the text, since tokens are left behind it.
        have bounds := ih others t later
        rw [List.length_drop] at bounds
        rw [List.length_cons]
        omega

/-- Tokens are listed in the order in which they stand. -/
theorem pairwise_pos_of_scanFrom {cs : List Char} {pos : Nat} {ts : List Token}
    (scanned : scanFrom pos cs = .ok ts) : ts.Pairwise (·.pos < ·.pos) := by
  fun_induction scanFrom pos cs generalizing ts with
  | case1 pos =>
      obtain rfl := Except.ok.inj scanned
      exact .nil
  | case2 => exact nomatch scanned
  | case3 => exact nomatch scanned
  | case4 pos c rest piece read tokens others ih =>
      obtain rfl := Except.ok.inj scanned
      refine List.pairwise_append.mpr ⟨?_, ih others, fun t first u later => ?_⟩
      · rw [Piece.tokens]
        cases piece.lexeme? with
        | none => exact .nil
        | some l => exact List.pairwise_singleton _ _
      · have bounds := pos_of_scanFrom others u later
        rw [(Piece.mem_tokens.mp first).2]
        omega

/-- The lexemes of a text with their positions, and last its end, which is no lexeme. -/
def Scanned.ended (s : Scanned) : List (Option Lexeme × Nat) :=
  s.tokens.map (fun t => (some t.lexeme, t.pos)) ++ [(none, s.finish)]

/-- With its end a scanned text has one mark more than it has tokens. -/
theorem Scanned.map_fst_ended (s : Scanned) :
    s.ended.map Prod.fst = (s.tokens.map Token.lexeme).map some ++ [none] := by
  rw [ended, List.map_append, List.map_map, List.map_map]
  rfl

/-- The last place of a scanned text is its end. -/
theorem Scanned.map_snd_ended (s : Scanned) :
    s.ended.map Prod.snd = s.tokens.map Token.pos ++ [s.finish] := by
  rw [ended, List.map_append, List.map_map]
  rfl

theorem scan_eq_ok_iff {text : String} {s : Scanned} :
    scan text = .ok s ↔ ∃ ts, scanFrom 0 text.toList = .ok ts ∧ s = ⟨ts, text.length⟩ := by
  unfold scan
  cases scanFrom 0 text.toList with
  | error e => exact ⟨(nomatch ·), fun ⟨_, found, _⟩ => nomatch found⟩
  | ok ts =>
      constructor
      · intro found
        exact ⟨ts, rfl, (Except.ok.inj found).symm⟩
      · rintro ⟨_, found, rfl⟩
        rw [← Except.ok.inj found]
        rfl

theorem scan_eq_error_iff {text : String} {e : ScanError} :
    scan text = .error e ↔ scanFrom 0 text.toList = .error e := by
  unfold scan
  cases scanFrom 0 text.toList with
  | error e' =>
      rw [Except.map, Except.error.injEq, Except.error.injEq]
  | ok ts => exact ⟨(nomatch ·), (nomatch ·)⟩

/-- A text whose characters are scanned as lexemes has tokens that carry them. -/
theorem Lexed.exists_scan {text : String} (lexed : Lexed text.toList ls) :
    ∃ s, scan text = .ok s ∧ s.tokens.map Token.lexeme = ls := by
  obtain ⟨ts, scanned, carried⟩ := lexed 0
  exact ⟨⟨ts, text.length⟩, scan_eq_ok_iff.mpr ⟨ts, scanned, rfl⟩, carried⟩

/-- Every token of a text stands before the next one, and the last one before the end. -/
theorem pairwise_pos_of_scan {text : String} {s : Scanned} (scanned : scan text = .ok s) :
    (s.tokens.map Token.pos ++ [s.finish]).Pairwise (· < ·) := by
  obtain ⟨ts, found, rfl⟩ := scan_eq_ok_iff.mp scanned
  refine List.pairwise_append.mpr ⟨?_, List.pairwise_singleton _ _, fun p inside q last => ?_⟩
  · exact List.pairwise_map.mpr (pairwise_pos_of_scanFrom found)
  · obtain ⟨t, member, rfl⟩ := List.mem_map.mp inside
    have below := (pos_of_scanFrom found t member).2
    obtain rfl := List.mem_singleton.mp last
    rwa [Nat.zero_add, String.length_toList] at below

/-- An identifier may be the name of a function. -/
theorem null_not_mem_of_isIdentifier {name : String} (identifier : isIdentifier name = true) :
    '\x00' ∉ name.toList := by
  obtain ⟨c, cs, spelled, start, parts⟩ := isIdentifier_iff.mp identifier
  rw [spelled, List.mem_cons, not_or]
  refine ⟨fun same => ?_, fun member => ?_⟩
  · rw [← same] at start
    exact absurd start (by decide)
  · exact absurd (parts _ member) (by decide)

/-- The identifiers of a text are names that can be written. -/
theorem isIdentifier_of_scan {text : String} {s : Scanned} (scanned : scan text = .ok s)
    {name : String} (member : .ident name ∈ s.tokens.map Token.lexeme) :
    isIdentifier name = true := by
  obtain ⟨ts, found, rfl⟩ := scan_eq_ok_iff.mp scanned
  exact isIdentifier_of_scanFrom found member

/-- No scanned name contains the null character. -/
theorem null_not_mem_of_scan {text : String} {s : Scanned} (scanned : scan text = .ok s) :
    ∀ name, .ident name ∈ s.tokens.map Token.lexeme → '\x00' ∉ name.toList :=
  fun _ member => null_not_mem_of_isIdentifier (isIdentifier_of_scan scanned member)

end Clausal
