import Mathlib.Data.List.TakeWhile
import Clausal.Token.Scan

/-!
# Pieces of a text

What may stand as one piece in a text, said without the scanner: the spellings of the lexemes
(`Spells`) and what means nothing (`Ignorable`). Which characters make a piece depends on the
text after them, since a name takes all characters that continue it, and a formatting command
the group right after it. A group ends at the first place where its braces match (`IsGroup`).

Only the first character after a piece matters to it. The scanner reads exactly the pieces that may
stand at the start of a text (`Piece.read_eq_ok_iff`): there is one equation for every kind of
piece, and no other kind.
-/

namespace Clausal

/-- The characters do not continue an identifier. -/
def Ends (cs : List Char) : Prop := ∀ c ∈ cs.head?, isIdentifierPart c = false

/-- The characters do not continue the name of a command. -/
def EndsCommand (cs : List Char) : Prop := ∀ c ∈ cs.head?, isCommandLetter c = false

/-- A braced group: its first brace is closed at its end, and not before. -/
structure IsGroup (cs : List Char) : Prop where
  opens : cs.head? = some '\x7b'
  closed : cs.count '\x7d' = cs.count '\x7b'
  unclosed : ∀ n, 0 < n → n < cs.length → (cs.take n).count '\x7d' < (cs.take n).count '\x7b'

/-- The characters mean nothing in front of the rest of a text. -/
inductive Ignorable : (cs after : List Char) → Prop where
  | blank {c : Char} {after : List Char} (white : Text.isBlank c = true) : Ignorable [c] after
  | comment {cs after : List Char} (line : ∀ c ∈ cs, c ≠ '\n')
      (ends : ∀ c ∈ after.head?, c = '\n') : Ignorable ('%' :: cs) after
  | spacing {c : Char} {after : List Char} (mark : c ∈ spacingMarks) : Ignorable ['\\', c] after
  | formatting {name : String} {after : List Char} (known : name ∈ formattingCommands)
      (ends : EndsCommand after) (bare : after.head? ≠ some '\x7b') :
      Ignorable ('\\' :: name.toList) after
  | group {name : String} {cs after : List Char} (known : name ∈ formattingCommands)
      (group : IsGroup cs) : Ignorable ('\\' :: (name.toList ++ cs)) after

/-- The characters spell a lexeme in front of the rest of a text. -/
inductive Spells : Lexeme → (cs after : List Char) → Prop where
  | sign {l : Lexeme} {c : Char} {after : List Char} (known : signs.lookup c = some l) :
      Spells l [c] after
  | arrow {l : Lexeme} {cs after : List Char} (known : (cs, l) ∈ arrows) : Spells l cs after
  | brace {l : Lexeme} {c : Char} {after : List Char} (known : escapedBraces.lookup c = some l) :
      Spells l ['\\', c] after
  | command {l : Lexeme} {name : String} {after : List Char}
      (known : commands.lookup name = some l) (ends : EndsCommand after) :
      Spells l ('\\' :: name.toList) after
  | identifier {name : String} {after : List Char} (named : isIdentifier name = true)
      (ends : Ends after) : Spells (.ident name) name.toList after

/-- The characters are a piece with the given meaning, if any, in front of the rest of a
text. -/
def IsPiece : Option Lexeme → (cs after : List Char) → Prop
  | none => Ignorable
  | some l => Spells l

variable {c : Char} {cs rest after : List Char}

/-- The characters close the braces that are open before them and among them, and not
earlier than at their end. -/
def Closes (open_ : Nat) (cs : List Char) : Prop :=
  cs.count '\x7d' = open_ + cs.count '\x7b' ∧
    ∀ n < cs.length, (cs.take n).count '\x7d' < open_ + (cs.take n).count '\x7b'

theorem closes_zero : Closes 0 cs ↔ cs = [] := by
  constructor
  · rintro ⟨_, before⟩
    by_contra some_
    have now := before 0 (List.length_pos_iff.mpr some_)
    simp only [List.take_zero, List.count_nil, Nat.add_zero, Nat.lt_irrefl] at now
  · rintro rfl
    exact ⟨rfl, fun n below => absurd below (Nat.not_lt_zero n)⟩

section

variable (c) (cs)

theorem count_close_cons :
    (c :: cs).count '\x7d' = cs.count '\x7d' + (if c = '\x7d' then 1 else 0) := by
  simp only [List.count_cons, beq_iff_eq]

theorem count_open_cons :
    (c :: cs).count '\x7b' = cs.count '\x7b' + (if c = '\x7b' then 1 else 0) := by
  simp only [List.count_cons, beq_iff_eq]

end

/-- A character changes the number of open braces. -/
theorem closes_cons {open_ next : Nat}
    (counted : next + (if c = '\x7d' then 1 else 0) = open_ + (if c = '\x7b' then 1 else 0)) :
    Closes open_ (c :: cs) ↔ 0 < open_ ∧ Closes next cs := by
  constructor
  · rintro ⟨all, before⟩
    have positive := before 0 (Nat.zero_lt_succ _)
    rw [List.take_zero, List.count_nil, List.count_nil] at positive
    rw [count_close_cons, count_open_cons] at all
    refine ⟨positive, by omega, fun n below => ?_⟩
    have later := before (n + 1) (Nat.succ_lt_succ below)
    rw [List.take_succ_cons, count_close_cons, count_open_cons] at later
    omega
  · rintro ⟨positive, all, before⟩
    refine ⟨by rw [count_close_cons, count_open_cons]; omega, fun n below => ?_⟩
    cases n with
    | zero => simpa only [List.take_zero, List.count_nil, Nat.add_zero] using positive
    | succ n =>
        have earlier := before n (Nat.lt_of_succ_lt_succ below)
        rw [List.take_succ_cons, count_close_cons, count_open_cons]
        omega

/-- An opening brace is one more to be closed. -/
theorem closes_cons_open {open_ : Nat} :
    Closes open_ ('\x7b' :: cs) ↔ 0 < open_ ∧ Closes (open_ + 1) cs :=
  closes_cons rfl

/-- A closing brace closes one. -/
theorem closes_cons_close {open_ : Nat} : Closes (open_ + 1) ('\x7d' :: cs) ↔ Closes open_ cs :=
  (closes_cons rfl).trans (and_iff_right (Nat.succ_pos open_))

/-- Any other character needs an open brace in front of it. -/
theorem closes_cons_other {open_ : Nat} (noOpening : c ≠ '\x7b') (noClosing : c ≠ '\x7d') :
    Closes open_ (c :: cs) ↔ 0 < open_ ∧ Closes open_ cs :=
  closes_cons (by rw [if_neg noOpening, if_neg noClosing])

/-- After its first brace a group closes one brace. -/
theorem isGroup_iff : IsGroup cs ↔ ∃ body, cs = '\x7b' :: body ∧ Closes 1 body := by
  have step (body : List Char) : IsGroup ('\x7b' :: body) ↔ Closes 1 body := by
    have opened (ds : List Char) : ('\x7b' :: ds).count '\x7b' = 1 + ds.count '\x7b' :=
      (count_open_cons _ ds).trans (Nat.add_comm _ _)
    have kept (ds : List Char) : ('\x7b' :: ds).count '\x7d' = ds.count '\x7d' :=
      count_close_cons _ ds
    constructor
    · rintro ⟨_, closed, unclosed⟩
      rw [opened, kept] at closed
      refine ⟨closed, fun n below => ?_⟩
      have before := unclosed (n + 1) (Nat.succ_pos n) (Nat.succ_lt_succ below)
      rwa [List.take_succ_cons, opened, kept] at before
    · rintro ⟨closed, unclosed⟩
      refine ⟨rfl, by rw [opened, kept, closed], fun n positive below => ?_⟩
      obtain ⟨n, rfl⟩ := Nat.exists_eq_add_one_of_ne_zero positive.ne'
      rw [List.take_succ_cons, opened, kept]
      exact unclosed n (Nat.lt_of_succ_lt_succ below)
  constructor
  · intro group
    obtain ⟨body, rfl⟩ := List.head?_eq_some_iff.mp group.opens
    exact ⟨body, rfl, (step body).mp group⟩
  · rintro ⟨body, rfl, closes⟩
    exact (step body).mpr closes

theorem groupLength?_append {open_ : Nat} (positive : 0 < open_) (closes : Closes open_ cs) :
    Piece.groupLength? open_ (cs ++ after) = some cs.length := by
  induction cs generalizing open_ with
  | nil =>
      have none_open : 0 = open_ + 0 := closes.1
      omega
  | cons c cs ih =>
      rw [List.cons_append, Piece.groupLength?, List.length_cons]
      by_cases opening : c = '\x7b'
      · subst opening
        rw [if_pos rfl, ih (Nat.succ_pos _) (closes_cons_open.mp closes).2]
        rfl
      · rw [if_neg opening]
        by_cases closing : c = '\x7d'
        · subst closing
          obtain ⟨next, rfl⟩ := Nat.exists_eq_add_one_of_ne_zero positive.ne'
          have inner := closes_cons_close.mp closes
          rw [if_pos rfl]
          by_cases last : next = 0
          · subst last
            rw [closes_zero.mp inner]
            rfl
          · rw [if_neg (by omega), Nat.add_sub_cancel, ih (Nat.pos_of_ne_zero last) inner]
            rfl
        · rw [if_neg closing, ih positive ((closes_cons_other opening closing).mp closes).2]
          rfl

/-- Where a group ends, all braces are closed for the first time. -/
theorem exists_closes_of_groupLength? {open_ n : Nat} (positive : 0 < open_)
    (found : Piece.groupLength? open_ rest = some n) :
    ∃ cs after, rest = cs ++ after ∧ cs.length = n ∧ Closes open_ cs := by
  induction rest generalizing open_ n with
  | nil => exact nomatch found
  | cons c rest ih =>
      rw [Piece.groupLength?] at found
      by_cases opening : c = '\x7b'
      · subst opening
        rw [if_pos rfl] at found
        obtain ⟨m, inner, rfl⟩ := Option.map_eq_some_iff.mp found
        obtain ⟨cs, after, rfl, rfl, closes⟩ := ih (Nat.succ_pos _) inner
        exact ⟨_ :: cs, after, rfl, rfl, closes_cons_open.mpr ⟨positive, closes⟩⟩
      · rw [if_neg opening] at found
        by_cases closing : c = '\x7d'
        · subst closing
          obtain ⟨next, rfl⟩ := Nat.exists_eq_add_one_of_ne_zero positive.ne'
          rw [if_pos rfl] at found
          by_cases last : next = 0
          · subst last
            obtain rfl := Option.some.inj found
            exact ⟨['\x7d'], rest, rfl, rfl, closes_cons_close.mpr (closes_zero.mpr rfl)⟩
          · rw [if_neg (by omega), Nat.add_sub_cancel] at found
            obtain ⟨m, inner, rfl⟩ := Option.map_eq_some_iff.mp found
            obtain ⟨cs, after, rfl, rfl, closes⟩ := ih (Nat.pos_of_ne_zero last) inner
            exact ⟨_ :: cs, after, rfl, rfl, closes_cons_close.mpr closes⟩
        · rw [if_neg closing] at found
          obtain ⟨m, inner, rfl⟩ := Option.map_eq_some_iff.mp found
          obtain ⟨cs, after, rfl, rfl, closes⟩ := ih positive inner
          exact ⟨c :: cs, after, rfl, rfl,
            (closes_cons_other opening closing).mpr ⟨positive, closes⟩⟩

/-- A group is found with its length, and only a group is. -/
theorem groupLength?_eq_some_iff {n : Nat} (opens : rest.head? = some '\x7b') :
    Piece.groupLength? 0 rest = some n ↔
      ∃ cs after, rest = cs ++ after ∧ cs.length = n ∧ IsGroup cs := by
  obtain ⟨body, rfl⟩ := List.head?_eq_some_iff.mp opens
  have start : Piece.groupLength? 0 ('\x7b' :: body) = (Piece.groupLength? 1 body).map (· + 1) := by
    rw [Piece.groupLength?, if_pos rfl]
  rw [start, Option.map_eq_some_iff]
  constructor
  · rintro ⟨m, inner, rfl⟩
    obtain ⟨cs, after, rfl, rfl, closes⟩ := exists_closes_of_groupLength? Nat.one_pos inner
    exact ⟨'\x7b' :: cs, after, rfl, rfl, isGroup_iff.mpr ⟨cs, rfl, closes⟩⟩
  · rintro ⟨cs, after, split, rfl, group⟩
    obtain ⟨inside, rfl, closes⟩ := isGroup_iff.mp group
    obtain rfl := (List.cons.inj split).2
    exact ⟨inside.length, groupLength?_append Nat.one_pos closes, rfl⟩

theorem takeWhile_append {p : Char → Bool} (all : ∀ c ∈ cs, p c = true)
    (stop : ∀ c ∈ rest.head?, p c = false) : (cs ++ rest).takeWhile p = cs := by
  induction cs with
  | nil =>
      cases rest with
      | nil => rfl
      | cons c rest => exact List.takeWhile_cons_of_neg (by rw [stop c rfl]; exact Bool.noConfusion)
  | cons c cs ih =>
      obtain ⟨first, others⟩ := List.forall_mem_cons.mp all
      rw [List.cons_append, List.takeWhile_cons_of_pos first, ih others]

/-- What comes after all characters of a class does not start with one. -/
theorem head?_dropWhile (p : Char → Bool) (cs : List Char) :
    ∀ c ∈ (cs.dropWhile p).head?, p c = false := by
  intro c member
  have stopped := List.head?_dropWhile_not p cs
  rwa [Option.mem_def.mp member] at stopped

/-- A name is an identifier if it starts like one and all of it continues like one. -/
theorem isIdentifier_iff {name : String} : isIdentifier name = true ↔
    ∃ c cs, name.toList = c :: cs ∧ isIdentifierStart c = true ∧
      ∀ d ∈ cs, isIdentifierPart d = true := by
  rw [isIdentifier]
  cases name.toList with
  | nil => exact ⟨(nomatch ·), fun ⟨_, _, same, _⟩ => nomatch same⟩
  | cons c cs =>
      rw [Bool.and_eq_true, List.all_eq_true]
      constructor
      · exact fun both => ⟨c, cs, rfl, both⟩
      · rintro ⟨_, _, same, both⟩
        obtain ⟨rfl, rfl⟩ := List.cons.inj same
        exact both

/-- The letters without an accent, as two ranges. -/
theorem isAlpha_iff : c.isAlpha = true ↔ ('A' ≤ c ∧ c ≤ 'Z') ∨ ('a' ≤ c ∧ c ≤ 'z') := by
  have upper : c.isUpper = true ↔ 'A' ≤ c ∧ c ≤ 'Z' := decide_eq_true_iff
  have lower : c.isLower = true ↔ 'a' ≤ c ∧ c ≤ 'z' :=
    Bool.and_eq_true_iff.trans (and_congr decide_eq_true_iff decide_eq_true_iff)
  exact Bool.or_eq_true_iff.trans (or_congr upper lower)

/-- What an identifier starts with lies between two letters without an accent. -/
theorem toNat_of_isIdentifierStart (start : isIdentifierStart c = true) :
    65 ≤ c.toNat ∧ c.toNat ≤ 122 := by
  rcases Bool.or_eq_true_iff.mp start with letter | mark
  · rcases isAlpha_iff.mp letter with ⟨above, below⟩ | ⟨above, below⟩
    · have low : 65 ≤ c.toNat := UInt32.le_iff_toNat_le.mp above
      have high : c.toNat ≤ 90 := UInt32.le_iff_toNat_le.mp below
      exact ⟨low, Nat.le_trans high (by decide)⟩
    · have low : 97 ≤ c.toNat := UInt32.le_iff_toNat_le.mp above
      have high : c.toNat ≤ 122 := UInt32.le_iff_toNat_le.mp below
      exact ⟨Nat.le_trans (by decide) low, high⟩
  · obtain rfl := eq_of_beq mark
    decide

/-- The commands of the table have names that are spelled as such. -/
theorem letters_of_command {name : String} {l : Lexeme} (known : commands.lookup name = some l) :
    name.toList ≠ [] ∧ name.toList.all isCommandLetter = true := by
  have spelled : ∀ entry ∈ commands,
      entry.1.toList ≠ [] ∧ entry.1.toList.all isCommandLetter = true := by
    decide
  obtain ⟨before, after, split, _⟩ := List.lookup_eq_some_iff.mp known
  exact spelled (name, l) (split ▸ List.mem_append_right _ List.mem_cons_self)

/-- Where a letter stands, there is a name up to the next character that is none. -/
theorem exists_name (starts : ¬(rest.takeWhile isCommandLetter).isEmpty = true) :
    ∃ (name : String) (after : List Char), rest = name.toList ++ after ∧
      (name.toList ≠ [] ∧ name.toList.all isCommandLetter = true) ∧ EndsCommand after := by
  refine ⟨String.ofList (rest.takeWhile isCommandLetter), rest.dropWhile isCommandLetter, ?_⟩
  rw [String.toList_ofList]
  exact ⟨List.takeWhile_append_dropWhile.symm, ⟨mt List.isEmpty_iff.mpr starts,
    List.all_takeWhile⟩, head?_dropWhile _ _⟩

/-- So have the commands that only format, and they spell nothing. -/
theorem letters_of_formatting {name : String} (known : name ∈ formattingCommands) :
    (name.toList ≠ [] ∧ name.toList.all isCommandLetter = true) ∧ commands.lookup name = none := by
  have spelled : ∀ name ∈ formattingCommands,
      (name.toList ≠ [] ∧ name.toList.all isCommandLetter = true) ∧
        commands.lookup name = none := by
    decide
  exact spelled name known

/-- A table whose signs stand for no names gives none. -/
theorem name?_eq_none_of_lookup {α : Type} [BEq α] [LawfulBEq α] {table : List (α × Lexeme)}
    (nameless : ∀ entry ∈ table, entry.2.name? = none) {a : α} {l : Lexeme}
    (known : table.lookup a = some l) : l.name? = none := by
  obtain ⟨before, after, split, _⟩ := List.lookup_eq_some_iff.mp known
  exact nameless (a, l) (split ▸ List.mem_append_right _ List.mem_cons_self)

/-- Identifiers are spelled by their names, and no other spelling carries a name. -/
theorem spells_ident_iff {name : String} : Spells (.ident name) cs after ↔
    cs = name.toList ∧ isIdentifier name = true ∧ Ends after := by
  constructor
  · intro spells
    cases spells with
    | sign known =>
        have nameless : ∀ entry ∈ signs, entry.2.name? = none := by decide
        exact nomatch name?_eq_none_of_lookup nameless known
    | arrow known =>
        have nameless : ∀ arrow ∈ arrows, arrow.2.name? = none := by decide
        exact nomatch nameless _ known
    | brace known => exact nomatch name?_eq_none_of_lookup (by decide) known
    | command known ends => exact nomatch name?_eq_none_of_lookup (by decide) known
    | identifier named ends => exact ⟨rfl, named, ends⟩
  · rintro ⟨rfl, named, ends⟩
    exact .identifier named ends

/-- Letters can stand in an identifier. -/
theorem isIdentifierPart_of_isAlpha (letter : c.isAlpha = true) : isIdentifierPart c = true := by
  rw [isIdentifierPart, Char.isAlphanum, letter, Bool.true_or, Bool.true_or, Bool.true_or]

/-- Where an identifier would have ended, so has the name of a command. -/
theorem endsCommand_of_ends (ends : Ends cs) : EndsCommand cs := by
  intro c first
  refine Bool.eq_false_iff.mpr fun letter => ?_
  exact Bool.eq_false_iff.mp (ends c first) (isIdentifierPart_of_isAlpha letter)

/-- A spelling remains one in front of other characters that do not continue a name. -/
theorem Spells.before {l : Lexeme} (spells : Spells l cs after)
    (follows : ∀ c ∈ rest.head?, isIdentifierPart c = false ∨ c ∈ after.head?) :
    Spells l cs rest := by
  cases spells with
  | sign known => exact .sign known
  | arrow known => exact .arrow known
  | brace known => exact .brace known
  | command known ends =>
      refine .command known fun c first => ?_
      rcases follows c first with other | same
      · exact Bool.eq_false_iff.mpr fun letter =>
          Bool.eq_false_iff.mp other (isIdentifierPart_of_isAlpha letter)
      · exact ends c same
  | identifier named ends =>
      refine .identifier named fun c first => ?_
      rcases follows c first with other | same
      · exact other
      · exact ends c same

/-- What means nothing does so at the end of a line, too. -/
theorem Ignorable.before (ignorable : Ignorable cs after)
    (follows : ∀ c ∈ rest.head?, c = '\n' ∨ c ∈ after.head?) : Ignorable cs rest := by
  cases ignorable with
  | blank white => exact .blank white
  | comment line ends =>
      refine .comment line fun c first => ?_
      rcases follows c first with newline | same
      · exact newline
      · exact ends c same
  | spacing mark => exact .spacing mark
  | formatting known ends bare =>
      refine .formatting known (fun c first => ?_) fun opens => ?_
      · rcases follows c first with rfl | same
        · decide
        · exact ends c same
      · rcases follows _ opens with newline | same
        · exact absurd newline (by decide)
        · exact bare same
  | group known group => exact .group known group

/-- A piece of a text remains a piece if the line ends behind it or the text does, or if what
follows it starts as before. -/
theorem IsPiece.before {lexeme? : Option Lexeme} (fits : IsPiece lexeme? cs after)
    (follows : ∀ c ∈ rest.head?, c = '\n' ∨ c ∈ after.head?) : IsPiece lexeme? cs rest := by
  cases lexeme? with
  | none => exact Ignorable.before fits follows
  | some l =>
      refine Spells.before fits fun c first => (follows c first).imp_left ?_
      rintro rfl
      decide

namespace Piece

variable {l : Lexeme} {piece : Piece}

/-- White space is ignored. -/
theorem read_blank (white : Text.isBlank c = true) : read c rest = .ok ⟨none, 0⟩ := by
  have noComment : c ≠ '%' := by
    rintro rfl
    exact absurd white (by decide)
  rw [read, if_neg noComment, if_pos white]

/-- A comment is ignored up to the end of its line. -/
theorem read_comment (line : ∀ c ∈ cs, c ≠ '\n') (ends : ∀ c ∈ after.head?, c = '\n') :
    read '%' (cs ++ after) = .ok ⟨none, cs.length⟩ := by
  have taken : (cs ++ after).takeWhile (· ≠ '\n') = cs :=
    takeWhile_append (fun c member => decide_eq_true (line c member))
      fun c member => decide_eq_false (not_not.mpr (ends c member))
  rw [read, if_pos rfl, taken]

/-- A sign of one character is read as its token. -/
theorem read_sign (known : signs.lookup c = some l) : read c rest = .ok ⟨some l, 0⟩ := by
  have plain : ∀ entry ∈ signs, entry.1 ≠ '%' ∧ Text.isBlank entry.1 = false ∧ entry.1 ≠ '\\' := by
    decide
  obtain ⟨before, after, split, _⟩ := List.lookup_eq_some_iff.mp known
  have member : (c, l) ∈ signs := split ▸ List.mem_append_right _ List.mem_cons_self
  obtain ⟨comment, blank, backslash⟩ := plain (c, l) member
  rw [read, if_neg comment, if_neg (by rw [blank]; exact Bool.noConfusion), if_neg backslash, known]

/-- An arrow is read whole. -/
theorem read_arrow (known : (c :: cs, l) ∈ arrows) :
    read c (cs ++ after) = .ok ⟨some l, cs.length⟩ := by
  simp only [arrows, List.mem_cons, List.not_mem_nil, or_false, Prod.mk.injEq,
    List.cons.injEq] at known
  rcases known with ⟨⟨rfl, rfl⟩, rfl⟩ | ⟨⟨rfl, rfl⟩, rfl⟩
  · rfl
  · rfl

theorem read_backslash : read '\\' rest = command rest := rfl

/-- A backslash with a mark for space is ignored. -/
theorem read_spacing (mark : c ∈ spacingMarks) : read '\\' (c :: rest) = .ok ⟨none, 1⟩ := by
  rw [read_backslash, command, if_pos (List.contains_iff_mem.mpr mark)]

/-- An escaped brace is a bracket. -/
theorem read_brace (known : escapedBraces.lookup c = some l) :
    read '\\' (c :: rest) = .ok ⟨some l, 1⟩ := by
  have braces : ∀ entry ∈ escapedBraces, entry.1 ∉ spacingMarks := by decide
  obtain ⟨before, after, split, _⟩ := List.lookup_eq_some_iff.mp known
  have noMark : c ∉ spacingMarks :=
    braces (c, l) (split ▸ List.mem_append_right _ List.mem_cons_self)
  rw [read_backslash, command, if_neg (mt List.contains_iff_mem.mp noMark), known]

/-- The name of a command is read with all its letters. -/
theorem read_name {name : String}
    (letters : name.toList ≠ [] ∧ name.toList.all isCommandLetter = true)
    (ends : EndsCommand rest) :
    read '\\' (name.toList ++ rest) =
      match commands.lookup name with
      | some lexeme => .ok ⟨some lexeme, name.toList.length⟩
      | none =>
          if formattingCommands.contains name then formatting name.toList.length rest
          else .error ⟨.unknownCommand, 0, '\\' :: name.toList⟩ := by
  obtain ⟨nonempty, all⟩ := letters
  have taken := takeWhile_append (List.all_eq_true.mp all) ends
  have named : String.ofList name.toList = name := String.ofList_toList
  rw [read_backslash]
  generalize name.toList = spelled at nonempty all taken named ⊢
  subst named
  cases spelled with
  | nil => exact absurd rfl nonempty
  | cons c cs =>
      have letter := List.all_eq_true.mp all c List.mem_cons_self
      have noMark : ¬spacingMarks.contains c = true := by
        intro mark
        have others : spacingMarks.any isCommandLetter = false := by decide
        exact List.any_eq_false.mp others c (List.contains_iff_mem.mp mark) letter
      have noBrace : escapedBraces.lookup c = none := by
        have others : ∀ entry ∈ escapedBraces, isCommandLetter entry.1 = false := by decide
        refine List.lookup_eq_none_iff.mpr fun entry member => bne_iff_ne.mpr ?_
        rintro rfl
        rw [others entry member] at letter
        exact Bool.noConfusion letter
      have dropped : (c :: (cs ++ rest)).drop (c :: cs).length = rest := List.drop_left
      rw [List.cons_append] at taken ⊢
      rw [command, if_neg noMark, noBrace]
      dsimp only
      rw [taken, dropped]
      rfl

/-- A known command is read as its token, if its name ends there. -/
theorem read_command {name : String} (known : commands.lookup name = some l)
    (ends : EndsCommand rest) :
    read '\\' (name.toList ++ rest) = .ok ⟨some l, name.toList.length⟩ := by
  rw [read_name (letters_of_command known) ends, known]

/-- Behind the name of a formatting command a group may follow. -/
theorem read_format {name : String} (known : name ∈ formattingCommands)
    (ends : EndsCommand rest) :
    read '\\' (name.toList ++ rest) = formatting name.toList.length rest := by
  obtain ⟨letters, unknown⟩ := letters_of_formatting known
  rw [read_name letters ends, unknown]
  dsimp only
  rw [if_pos (List.contains_iff_mem.mpr known)]

/-- A formatting command without a group is ignored. -/
theorem read_formatting {name : String} (known : name ∈ formattingCommands)
    (ends : EndsCommand rest) (bare : rest.head? ≠ some '\x7b') :
    read '\\' (name.toList ++ rest) = .ok ⟨none, name.toList.length⟩ := by
  rw [read_format known ends, formatting, if_neg bare]

/-- A formatting command is ignored together with its group. -/
theorem read_group {name : String} (known : name ∈ formattingCommands) (group : IsGroup cs) :
    read '\\' (name.toList ++ cs ++ after) = .ok ⟨none, (name.toList ++ cs).length⟩ := by
  obtain ⟨body, rfl, _⟩ := isGroup_iff.mp group
  have ends : EndsCommand ('\x7b' :: body ++ after) := by
    intro c first
    obtain rfl := Option.some.inj first
    decide
  have found : groupLength? 0 ('\x7b' :: body ++ after) = some ('\x7b' :: body).length :=
    (groupLength?_eq_some_iff rfl).mpr ⟨_, after, rfl, rfl, group⟩
  have opens : ('\x7b' :: body ++ after).head? = some '\x7b' := rfl
  rw [List.append_assoc, read_format known ends, formatting, if_pos opens, found,
    List.length_append]

/-- An identifier is read as far as it goes. -/
theorem read_identifierStart (start : isIdentifierStart c = true) :
    read c rest =
      .ok ⟨some (.ident (String.ofList (c :: rest.takeWhile isIdentifierPart))),
        (rest.takeWhile isIdentifierPart).length⟩ := by
  have ne {d : Char} (other : isIdentifierStart d = false) : c ≠ d := by
    rintro rfl
    rw [start] at other
    exact Bool.noConfusion other
  have blank : ¬Text.isBlank c = true := by
    intro white
    have others : ∀ range ∈ Text.blanks, range.2 < 65 ∨ 122 < range.1 := by decide
    obtain ⟨range, member, above, below⟩ := Text.Ranges.contain_iff.mp white
    have bounds := toNat_of_isIdentifierStart start
    rcases others range member with low | high
    · omega
    · omega
  have noSign : signs.lookup c = none := by
    have others : ∀ entry ∈ signs, isIdentifierStart entry.1 = false := by decide
    refine List.lookup_eq_none_iff.mpr fun entry member => ?_
    exact bne_iff_ne.mpr (ne (others entry member))
  have noArrow : arrow? (c :: rest) = none := by
    rw [arrow?, Option.map_eq_none_iff, List.find?_eq_none]
    intro arrow member isPrefix
    have others : ∀ arrow ∈ arrows, ∃ d ds, arrow.1 = d :: ds ∧ isIdentifierStart d = false := by
      intro arrow member
      simp only [arrows, List.mem_cons, List.not_mem_nil, or_false] at member
      rcases member with rfl | rfl
      · exact ⟨_, _, rfl, by decide⟩
      · exact ⟨_, _, rfl, by decide⟩
    obtain ⟨d, ds, split, other⟩ := others arrow member
    rw [split, List.isPrefixOf_cons_cons, Bool.and_eq_true, beq_iff_eq] at isPrefix
    exact ne other isPrefix.1.symm
  rw [read, if_neg (ne (by decide)), if_neg blank, if_neg (ne (by decide)), noSign, noArrow]
  dsimp only
  rw [if_pos start]

/-- An identifier is read whole, if it ends there. -/
theorem read_identifier {name : String} (named : isIdentifier name = true)
    (spelled : name.toList = c :: cs) (ends : Ends after) :
    read c (cs ++ after) = .ok ⟨some (.ident name), cs.length⟩ := by
  obtain ⟨d, ds, same, start, parts⟩ := isIdentifier_iff.mp named
  obtain ⟨rfl, rfl⟩ := List.cons.inj (spelled.symm.trans same)
  have taken : (cs ++ after).takeWhile isIdentifierPart = cs := takeWhile_append parts ends
  rw [read_identifierStart start, taken, ← spelled, String.ofList_toList]

/-- A piece is read as what it is. -/
theorem read_of_isPiece {lexeme? : Option Lexeme} (fits : IsPiece lexeme? (c :: cs) after) :
    read c (cs ++ after) = .ok ⟨lexeme?, cs.length⟩ := by
  generalize split : c :: cs = chars at fits
  cases lexeme? with
  | none =>
      cases fits with
      | blank white =>
          obtain ⟨rfl, rfl⟩ := List.cons.inj split
          exact read_blank white
      | comment line ends =>
          obtain ⟨rfl, rfl⟩ := List.cons.inj split
          exact read_comment line ends
      | spacing mark =>
          obtain ⟨rfl, rfl⟩ := List.cons.inj split
          exact read_spacing mark
      | formatting known ends bare =>
          obtain ⟨rfl, rfl⟩ := List.cons.inj split
          exact read_formatting known ends bare
      | group known group =>
          obtain ⟨rfl, rfl⟩ := List.cons.inj split
          exact read_group known group
  | some l =>
      cases fits with
      | sign known =>
          obtain ⟨rfl, rfl⟩ := List.cons.inj split
          exact read_sign known
      | arrow known =>
          subst split
          exact read_arrow known
      | brace known =>
          obtain ⟨rfl, rfl⟩ := List.cons.inj split
          exact read_brace known
      | command known ends =>
          obtain ⟨rfl, rfl⟩ := List.cons.inj split
          exact read_command known ends
      | identifier named ends => exact read_identifier named split.symm ends

/-- What is read at the start of a text: a piece that stands there, or else an error, which shows
characters at the start or the group that is not closed behind a formatting command. -/
inductive Reads (c : Char) (rest : List Char) : Prop where
  | piece (lexeme? : Option Lexeme) (cs : List Char) {after : List Char}
      (split : rest = cs ++ after) (fits : IsPiece lexeme? (c :: cs) after)
  | refused (complaint : Complaint) (fragment : List Char) (nonempty : fragment ≠ [])
      (stands : fragment <+: c :: rest) (failed : read c rest = .error ⟨complaint, 0, fragment⟩)
  | unclosed {name : String} {after : List Char} (known : name ∈ formattingCommands)
      (split : c :: rest = '\\' :: name.toList ++ after) (opens : after.head? = some '\x7b')
      (failed : read c rest = .error
        ⟨.unterminatedGroup, name.toList.length + 1, after.take shownGroupLength⟩)

/-- A formatting command is read with its group if there is one. -/
theorem reads_formatting {name : String} (known : name ∈ formattingCommands)
    (ends : EndsCommand rest) : Reads '\\' (name.toList ++ rest) := by
  by_cases opens : rest.head? = some '\x7b'
  · cases length : groupLength? 0 rest with
    | none =>
        refine .unclosed known rfl opens ?_
        rw [read_format known ends, formatting, if_pos opens, length]
    | some n =>
        obtain ⟨cs, after, rfl, rfl, group⟩ := (groupLength?_eq_some_iff opens).mp length
        exact .piece none (name.toList ++ cs) (List.append_assoc _ _ _).symm (.group known group)
  · exact .piece none name.toList rfl (.formatting known ends opens)

/-- Every name of a command is a piece, has a group that is not closed, or is refused. -/
theorem reads_name {name : String}
    (letters : name.toList ≠ [] ∧ name.toList.all isCommandLetter = true)
    (ends : EndsCommand rest) : Reads '\\' (name.toList ++ rest) := by
  cases known : commands.lookup name with
  | some l => exact .piece l name.toList rfl (.command known ends)
  | none =>
      by_cases format : formattingCommands.contains name = true
      · exact reads_formatting (List.contains_iff_mem.mp format) ends
      · refine .refused .unknownCommand ('\\' :: name.toList) (List.cons_ne_nil _ _)
          (List.prefix_append ('\\' :: name.toList) rest) ?_
        rw [read_name letters ends, known]
        dsimp only
        rw [if_neg format]

/-- Whatever follows a backslash is a piece, has a group that is not closed, or is refused. -/
theorem reads_command (rest : List Char) : Reads '\\' rest := by
  cases rest with
  | nil => exact .refused .unknownCommand ['\\'] (List.cons_ne_nil _ _) List.prefix_rfl rfl
  | cons c rest =>
      by_cases mark : c ∈ spacingMarks
      · exact .piece none [c] rfl (.spacing mark)
      · cases brace : escapedBraces.lookup c with
        | some l => exact .piece l [c] rfl (.brace brace)
        | none =>
            by_cases empty : ((c :: rest).takeWhile isCommandLetter).isEmpty = true
            · refine .refused .unknownCommand ['\\', c] (List.cons_ne_nil _ _)
                (List.prefix_append ['\\', c] rest) ?_
              rw [read_backslash, command, if_neg (mt List.contains_iff_mem.mp mark), brace]
              dsimp only
              rw [if_pos empty]
            · obtain ⟨name, after, split, letters, ends⟩ := exists_name empty
              rw [split]
              exact reads_name letters ends

/-- What is found as an arrow is a piece. -/
theorem reads_arrow (found : arrow? (c :: rest) = some piece) : Reads c rest := by
  obtain ⟨⟨spelled, l⟩, first, _⟩ := Option.map_eq_some_iff.mp found
  have member := List.mem_of_find?_eq_some first
  have starts : spelled.isPrefixOf (c :: rest) = true :=
    List.find?_some (p := fun arrow : List Char × Lexeme => arrow.1.isPrefixOf (c :: rest)) first
  have nonempty : ∀ arrow ∈ arrows, arrow.1 ≠ [] := by decide
  obtain ⟨after, split⟩ := List.isPrefixOf_iff_prefix.mp starts
  cases spelled with
  | nil => exact absurd rfl (nonempty _ member)
  | cons d cs =>
      obtain ⟨rfl, rfl⟩ := List.cons.inj split
      exact .piece l cs rfl (.arrow member)

/-- What starts like an identifier is a piece. -/
theorem reads_identifier (start : isIdentifierStart c = true) : Reads c rest := by
  have named : isIdentifier (String.ofList (c :: rest.takeWhile isIdentifierPart)) = true :=
    isIdentifier_iff.mpr ⟨c, _, String.toList_ofList, start, fun _ member =>
      List.mem_takeWhile_imp member⟩
  have spelled := Spells.identifier named (head?_dropWhile isIdentifierPart rest)
  rw [String.toList_ofList] at spelled
  exact .piece (some _) _ List.takeWhile_append_dropWhile.symm spelled

/-- Every text starts with a piece or is refused. -/
theorem reads (c : Char) (rest : List Char) : Reads c rest := by
  by_cases comment : c = '%'
  · subst comment
    refine .piece none (rest.takeWhile (· ≠ '\n')) List.takeWhile_append_dropWhile.symm
      (.comment (fun d member => ?_) fun d member => ?_)
    · have inside := List.mem_takeWhile_imp member
      exact of_decide_eq_true inside
    · have outside := head?_dropWhile _ _ d member
      exact not_not.mp (of_decide_eq_false outside)
  · by_cases white : Text.isBlank c = true
    · exact .piece none [] rfl (.blank white)
    · by_cases backslash : c = '\\'
      · subst backslash
        exact reads_command rest
      · cases sign : signs.lookup c with
        | some l => exact .piece l [] rfl (.sign sign)
        | none =>
            cases arrow : arrow? (c :: rest) with
            | some piece => exact reads_arrow arrow
            | none =>
                by_cases start : isIdentifierStart c = true
                · exact reads_identifier start
                · refine .refused .unrecognized [c] (List.cons_ne_nil _ _)
                    (List.prefix_append [c] rest) ?_
                  rw [read, if_neg comment, if_neg white, if_neg backslash, sign, arrow]
                  dsimp only
                  rw [if_neg start]

/-- What is read is a piece. -/
theorem isPiece_of_read (found : read c rest = .ok piece) :
    ∃ cs after, rest = cs ++ after ∧ cs.length = piece.extra ∧
      IsPiece piece.lexeme? (c :: cs) after := by
  cases reads c rest with
  | piece lexeme? cs split fits =>
      rw [split, read_of_isPiece fits] at found
      obtain rfl := Except.ok.inj found
      exact ⟨cs, _, split, rfl, fits⟩
  | refused complaint fragment nonempty stands failed =>
      rw [failed] at found
      exact nomatch found
  | unclosed known split opens failed =>
      rw [failed] at found
      exact nomatch found

/-- The piece that is read at the start of a text is the one that stands there. -/
theorem read_eq_ok_iff : read c rest = .ok piece ↔
    ∃ cs after, rest = cs ++ after ∧ cs.length = piece.extra ∧
      IsPiece piece.lexeme? (c :: cs) after := by
  constructor
  · exact isPiece_of_read
  · rintro ⟨cs, after, rfl, length, fits⟩
    rw [read_of_isPiece fits, length]

end Piece

end Clausal
