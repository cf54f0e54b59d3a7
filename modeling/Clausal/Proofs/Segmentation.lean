import Clausal.Proofs.Scanner

/-!
# Texts as lists of pieces

A text that is scanned is the concatenation of its pieces, from left to right and without a
gap (`Segmented`), and the tokens are the pieces that spell a lexeme, each at the place where
its piece starts (`scan_eq_ok_iff_segmented`). So nothing of a text is lost or read twice, and
every token can be found again in the text (`segmented_of_scan`).
-/

namespace Clausal

/-- The characters of a piece with their meaning, if they have one. -/
structure Segment where
  lexeme? : Option Lexeme
  chars : List Char

/-- The characters are those of the segments, and each of these is a piece in front of the
characters after it. -/
inductive Segmented : List Char → List Segment → Prop where
  | nil : Segmented [] []
  | cons {lexeme? : Option Lexeme} {chars after : List Char} {segments : List Segment}
      (first : IsPiece lexeme? chars after) (others : Segmented after segments) :
      Segmented (chars ++ after) (⟨lexeme?, chars⟩ :: segments)

/-- The meanings of segments, each with the position at which its segment starts. -/
def Segment.tokensFrom (pos : Nat) : List Segment → List Token
  | [] => []
  | segment :: segments =>
      segment.lexeme?.toList.map (Token.mk · pos) ++
        tokensFrom (pos + segment.chars.length) segments

/-- What is known of a token at its place in a text. -/
structure Token.Stands (t : Token) (before spelled after : List Char) : Prop where
  pos : t.pos = before.length
  spells : Spells t.lexeme spelled after
  /-- The name of a command takes as many letters as there are. -/
  command : ∀ c ∈ spelled.tail.head?, spelled.head? = some '\\' → isCommandLetter c = true →
    EndsCommand after
  /-- Only identifiers have a name. -/
  named : t.lexeme.name?.isSome ↔ t.lexeme.label = "ID"
  identifier : ∀ name, t.lexeme.name? = some name →
    spelled = name.toList ∧ isIdentifier name = true ∧ Ends after

variable {l : Lexeme} {cs after : List Char} {segments : List Segment} {pos : Nat} {t : Token}

/-- What spells a token is not empty. -/
theorem ne_nil_of_spells (spells : Spells l cs after) : cs ≠ [] := by
  cases spells with
  | sign known => exact List.cons_ne_nil _ _
  | arrow known =>
      have nonempty : ∀ arrow ∈ arrows, arrow.1 ≠ [] := by decide
      exact nonempty _ known
  | brace known => exact List.cons_ne_nil _ _
  | command known ends => exact List.cons_ne_nil _ _
  | identifier named ends =>
      obtain ⟨c, cs, letters, _⟩ := isIdentifier_iff.mp named
      rw [letters]
      exact List.cons_ne_nil _ _

/-- A piece has a first character. -/
theorem exists_cons_of_isPiece {lexeme? : Option Lexeme} (fits : IsPiece lexeme? cs after) :
    ∃ c rest, cs = c :: rest := by
  refine List.exists_cons_of_ne_nil ?_
  cases lexeme? with
  | some l => exact ne_nil_of_spells fits
  | none =>
      rintro rfl
      exact nomatch fits

/-- Of the spellings that start with a backslash and a letter, all are commands. -/
theorem endsCommand_of_spells (spells : Spells l cs after) (backslash : cs.head? = some '\\')
    {c : Char} (second : c ∈ cs.tail.head?) (letter : isCommandLetter c = true) :
    EndsCommand after := by
  cases spells with
  | sign known => exact nomatch second
  | arrow known =>
      have otherwise : ∀ arrow ∈ arrows, arrow.1.head? ≠ some '\\' := by decide
      exact absurd backslash (otherwise _ known)
  | brace known =>
      have letterless : ∀ entry ∈ escapedBraces, isCommandLetter entry.1 = false := by decide
      obtain ⟨_, _, split, _⟩ := List.lookup_eq_some_iff.mp known
      obtain rfl := Option.some.inj second
      have none_ := letterless _ (split ▸ List.mem_append_right _ List.mem_cons_self)
      exact nomatch letter.symm.trans none_
  | command known ends => exact ends
  | identifier named ends =>
      obtain ⟨d, ds, letters, start, _⟩ := isIdentifier_iff.mp named
      rw [letters, List.head?_cons] at backslash
      obtain rfl := Option.some.inj backslash
      exact absurd start (by decide)

/-- Only identifiers have a name as their value. -/
theorem isSome_name?_iff : l.name?.isSome ↔ l.label = "ID" := by
  cases l with
  | ident name => exact ⟨fun _ => rfl, fun _ => rfl⟩
  | quantifier q => cases q <;> decide
  | connective c => rcases c with (_ | _) | _ | _ <;> decide
  | relation r => cases r <;> decide
  | neg => decide
  | opening => decide
  | closing => decide
  | comma => decide
  | dot => decide

/-- A token with a name is an identifier. -/
theorem eq_ident_of_name? {name : String} (found : l.name? = some name) : l = .ident name := by
  cases l with
  | ident other => exact congrArg Lexeme.ident (Option.some.inj found)
  | _ => exact nomatch found

/-- A token stands where the piece that spells it starts. -/
theorem Token.stands {before : List Char} (place : t.pos = before.length)
    (spells : Spells t.lexeme cs after) : t.Stands before cs after where
  pos := place
  spells := spells
  command := fun _ second backslash => endsCommand_of_spells spells backslash second
  named := isSome_name?_iff
  identifier := fun name found => by
    rw [eq_ident_of_name? found] at spells
    exact spells_ident_iff.mp spells

namespace Segmented

/-- Nothing is left out and nothing is read twice. -/
theorem flatMap_chars (segmented : Segmented cs segments) :
    segments.flatMap Segment.chars = cs := by
  induction segmented with
  | nil => rfl
  | cons first others ih => rw [List.flatMap_cons, ih]

/-- A token is found where the segment starts that spells it. -/
theorem exists_spells (segmented : Segmented cs segments)
    (member : t ∈ Segment.tokensFrom pos segments) :
    ∃ before spelled after, cs = before ++ (spelled ++ after) ∧ t.pos = pos + before.length ∧
      Spells t.lexeme spelled after := by
  induction segmented generalizing pos with
  | nil => exact nomatch member
  | @cons lexeme? chars after segments first others ih =>
      rcases List.mem_append.mp member with here | later
      · obtain ⟨l, carried, rfl⟩ := List.mem_map.mp here
        obtain rfl := Option.mem_toList.mp carried
        exact ⟨[], chars, after, rfl, rfl, first⟩
      · obtain ⟨before, spelled, rest, rfl, place, spells⟩ := ih later
        refine ⟨chars ++ before, spelled, rest, (List.append_assoc _ _ _).symm, ?_, spells⟩
        rw [place, List.length_append, Nat.add_assoc]

end Segmented

/-- The first of the segments has the token of its piece. -/
theorem Segment.tokensFrom_cons (pos : Nat) (lexeme? : Option Lexeme) (c : Char)
    (spelled : List Char) (segments : List Segment) :
    tokensFrom pos (⟨lexeme?, c :: spelled⟩ :: segments) =
      Piece.tokens ⟨lexeme?, spelled.length⟩ pos ++
        tokensFrom (pos + 1 + spelled.length) segments := by
  have next : pos + (c :: spelled).length = pos + 1 + spelled.length := by
    rw [List.length_cons, Nat.add_comm spelled.length, Nat.add_assoc]
  rw [tokensFrom, next, Piece.tokens]
  cases lexeme? <;> rfl

/-- What means nothing in front of a text leaves the scan of the text to be done. -/
theorem scanFrom_of_ignorable (pos : Nat) (first : Ignorable cs after) :
    scanFrom pos (cs ++ after) = scanFrom (pos + cs.length) after := by
  have fits : IsPiece none cs after := first
  obtain ⟨c, cs, rfl⟩ := exists_cons_of_isPiece fits
  have next : pos + (c :: cs).length = pos + 1 + cs.length := by
    rw [List.length_cons]
    omega
  rw [List.cons_append, scanFrom_of_isPiece pos fits, next]
  cases scanFrom (pos + 1 + cs.length) after with
  | error e => rfl
  | ok ts => rfl

/-- The tokens of a text are those of its segments. -/
theorem scanFrom_eq_ok_iff_segmented {ts : List Token} :
    scanFrom pos cs = .ok ts ↔
      ∃ segments, Segmented cs segments ∧ ts = Segment.tokensFrom pos segments := by
  constructor
  · intro scanned
    fun_induction scanFrom pos cs generalizing ts with
    | case1 pos => exact ⟨[], .nil, (Except.ok.inj scanned).symm⟩
    | case2 => cases scanned
    | case3 => cases scanned
    | case4 pos c rest piece read tokens others ih =>
        obtain rfl := Except.ok.inj scanned
        obtain ⟨spelled, after, rfl, length, fits⟩ := Piece.read_eq_ok_iff.mp read
        rw [← length, List.drop_left] at ih others
        obtain ⟨segments, segmented, rfl⟩ := ih others
        have whole : Segmented ((c :: spelled) ++ after)
            (⟨piece.lexeme?, c :: spelled⟩ :: segments) := .cons fits segmented
        refine ⟨_, whole, ?_⟩
        rw [Segment.tokensFrom_cons, length]
  · rintro ⟨segments, segmented, rfl⟩
    induction segmented generalizing pos with
    | nil => rw [scanFrom, Segment.tokensFrom]
    | @cons lexeme? chars after segments first others ih =>
        obtain ⟨c, spelled, rfl⟩ := exists_cons_of_isPiece first
        rw [Segment.tokensFrom_cons, List.cons_append, scanFrom_piece first ih]

/-- A text is scanned if it has segments, and its tokens are those of the segments. -/
theorem scan_eq_ok_iff_segmented {text : String} {s : Scanned} :
    scan text = .ok s ↔ ∃ segments, Segmented text.toList segments ∧
      s = ⟨Segment.tokensFrom 0 segments, text.length⟩ := by
  rw [scan_eq_ok_iff]
  constructor
  · rintro ⟨ts, scanned, rfl⟩
    obtain ⟨segments, segmented, rfl⟩ := scanFrom_eq_ok_iff_segmented.mp scanned
    exact ⟨segments, segmented, rfl⟩
  · rintro ⟨segments, segmented, rfl⟩
    exact ⟨_, scanFrom_eq_ok_iff_segmented.mpr ⟨segments, segmented, rfl⟩, rfl⟩

/-- The end of a text is listed once. -/
theorem Scanned.count_ended (s : Scanned) : (s.ended.map Prod.fst).count none = 1 := by
  have lexemes : none ∉ (s.tokens.map Token.lexeme).map some := by
    intro member
    obtain ⟨_, _, carried⟩ := List.mem_map.mp member
    exact nomatch carried
  rw [map_fst_ended, List.count_append, List.count_eq_zero_of_not_mem lexemes]
  rfl

/-- A text that is scanned consists of pieces. Its tokens are the pieces with a meaning, in
order and in their places; they are followed by the end of the text. -/
theorem segmented_of_scan {text : String} {s : Scanned} (scanned : scan text = .ok s) :
    (∃ segments, Segmented text.toList segments ∧
        text.toList = segments.flatMap Segment.chars ∧
        s.tokens = Segment.tokensFrom 0 segments) ∧
      (s.ended.map Prod.fst).count none = 1 ∧ s.ended.getLast? = some (none, text.length) ∧
      (s.ended.map Prod.snd).Pairwise (· < ·) ∧
      ∀ t ∈ s.tokens, ∃ before spelled after,
        text.toList = before ++ (spelled ++ after) ∧ t.Stands before spelled after := by
  have inOrder := pairwise_pos_of_scan scanned
  rw [← Scanned.map_snd_ended] at inOrder
  obtain ⟨segments, segmented, rfl⟩ := scan_eq_ok_iff_segmented.mp scanned
  refine ⟨⟨segments, segmented, segmented.flatMap_chars.symm, rfl⟩, Scanned.count_ended _,
    List.getLast?_concat, inOrder, fun t member => ?_⟩
  obtain ⟨before, spelled, after, split, place, spells⟩ := segmented.exists_spells member
  exact ⟨before, spelled, after, split, Token.stands (place.trans (Nat.zero_add _)) spells⟩

/-- A text with pieces of all kinds: commands that format, one of them with a group in which
there are braces, a spacing command, an arrow, and a comment. -/
theorem segmented_of_scan_mixed :
    ∃ segments,
      Segmented "\\forall x_1\\,P(x_1)\\text\x7bor \x7bso\x7d\x7d-> \\left[Qé% no \\".toList
        segments ∧
      Segment.tokensFrom 0 segments =
        [⟨.quantifier .all, 0⟩, ⟨.ident "x_1", 8⟩, ⟨.ident "P", 13⟩, ⟨.opening, 14⟩,
          ⟨.ident "x_1", 15⟩, ⟨.closing, 18⟩, ⟨.connective .implies, 33⟩, ⟨.opening, 41⟩,
          ⟨.ident "Qé", 42⟩] := by
  have scanned :
      scan "\\forall x_1\\,P(x_1)\\text\x7bor \x7bso\x7d\x7d-> \\left[Qé% no \\" =
        .ok ⟨[⟨.quantifier .all, 0⟩, ⟨.ident "x_1", 8⟩, ⟨.ident "P", 13⟩, ⟨.opening, 14⟩,
          ⟨.ident "x_1", 15⟩, ⟨.closing, 18⟩, ⟨.connective .implies, 33⟩, ⟨.opening, 41⟩,
          ⟨.ident "Qé", 42⟩], 50⟩ := by
    decide +kernel
  obtain ⟨⟨segments, segmented, _, tokens⟩, _⟩ := segmented_of_scan scanned
  exact ⟨segments, segmented, tokens.symm⟩

end Clausal
