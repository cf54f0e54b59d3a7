import Clausal.Proofs.LineEnds

/-!
# Text that is passed over

White space, spacing commands, comments up to the end of their lines, and formatting commands
with a group mean nothing, whatever stands in the comments and groups (`IsSkipped`). Each of them
ends by itself, so any text may follow, and in front of a text they only shift what is scanned or
complained of (`scan_invisible`). A formatting command without a group does the same if the text
after it neither goes on with its name nor opens a group.
-/

namespace Clausal

/-- Every brace has its partner. A backslash or a comment sign has no meaning here. -/
inductive Balanced : List Char → Prop where
  | nil : Balanced []
  | char {c : Char} {cs : List Char} (noOpening : c ≠ '\x7b') (noClosing : c ≠ '\x7d')
      (others : Balanced cs) : Balanced (c :: cs)
  | group {inner cs : List Char} (inside : Balanced inner) (others : Balanced cs) :
      Balanced ('\x7b' :: (inner ++ '\x7d' :: cs))

/-- The characters mean nothing and end by themselves. -/
inductive IsSkipped : List Char → Prop where
  | blank {c : Char} (white : Text.isBlank c = true) : IsSkipped [c]
  | spacing {c : Char} (mark : c ∈ spacingMarks) : IsSkipped ['\\', c]
  | comment {cs : List Char} (line : ∀ c ∈ cs, c ≠ '\n') : IsSkipped ('%' :: (cs ++ ['\n']))
  | group {name : String} {cs : List Char} (known : name ∈ formattingCommands)
      (balanced : Balanced cs) :
      IsSkipped ('\\' :: (name.toList ++ '\x7b' :: (cs ++ ['\x7d'])))

/-- The text is a number of pieces that mean nothing and end by themselves. -/
def IsInvisible (w : String) : Prop :=
  ∃ pieces : List (List Char), w.toList = pieces.flatten ∧ ∀ piece ∈ pieces, IsSkipped piece

/-- The tokens and the end of a text behind a number of further characters. -/
def Scanned.shift (n : Nat) (s : Scanned) : Scanned :=
  ⟨s.tokens.map (Token.shift n), s.finish + n⟩

/-- The outcome of a scan behind a number of further characters. -/
def shiftedScan (n : Nat) (outcome : Except ScanError Scanned) : Except ScanError Scanned :=
  (outcome.map (Scanned.shift n)).mapError (ScanError.shift n)

variable {cs rest : List Char} {pieces : List (List Char)}

/-- Balanced braces close none of those that are open before them. -/
theorem Balanced.closes (balanced : Balanced cs) {open_ : Nat} (closes : Closes (open_ + 1) rest) :
    Closes (open_ + 1) (cs ++ rest) := by
  induction balanced generalizing open_ rest with
  | nil => exact closes
  | char noOpening noClosing others ih =>
      exact (closes_cons_other noOpening noClosing).mpr ⟨Nat.succ_pos open_, ih closes⟩
  | @group inner cs inside others ihInside ihOthers =>
      rw [List.cons_append, List.append_assoc, List.cons_append]
      exact closes_cons_open.mpr
        ⟨Nat.succ_pos open_, ihInside (closes_cons_close.mpr (ihOthers closes))⟩

/-- Balanced text in braces is a group. -/
theorem Balanced.isGroup (balanced : Balanced cs) : IsGroup ('\x7b' :: (cs ++ ['\x7d'])) :=
  isGroup_iff.mpr ⟨_, rfl, balanced.closes (closes_cons_close.mpr (closes_zero.mpr rfl))⟩

/-- What is skipped only moves the place. -/
theorem IsSkipped.scanFrom (skipped : IsSkipped cs) (pos : Nat) (rest : List Char) :
    scanFrom pos (cs ++ rest) = scanFrom (pos + cs.length) rest := by
  cases skipped with
  | blank white => exact scanFrom_of_ignorable pos (.blank white)
  | spacing mark => exact scanFrom_of_ignorable pos (.spacing mark)
  | group known balanced => exact scanFrom_of_ignorable pos (.group known balanced.isGroup)
  | @comment line_ line =>
      -- The line end is no part of the comment, but it means nothing either.
      have ends : ∀ c ∈ ('\n' :: rest).head?, c = '\n' := by
        intro c first
        exact (Option.some.inj first).symm
      have comment := scanFrom_of_ignorable pos (.comment line ends)
      have newline : Ignorable ['\n'] rest := .blank (by decide)
      have lineEnd := scanFrom_of_ignorable (pos + ('%' :: line_).length) newline
      rw [List.cons_append, List.append_assoc, ← List.cons_append, List.singleton_append, comment]
      rw [List.singleton_append, Nat.add_assoc] at lineEnd
      rw [lineEnd, ← List.cons_append, List.length_append]

/-- Several pieces that are skipped only move the place. -/
theorem scanFrom_flatten (skipped : ∀ piece ∈ pieces, IsSkipped piece) (pos : Nat)
    (rest : List Char) :
    scanFrom pos (pieces.flatten ++ rest) = scanFrom (pos + pieces.flatten.length) rest := by
  induction pieces generalizing pos with
  | nil => rfl
  | cons piece pieces ih =>
      obtain ⟨first, others⟩ := List.forall_mem_cons.mp skipped
      rw [List.flatten_cons, List.append_assoc, first.scanFrom, ih others, List.length_append,
        Nat.add_assoc]

/-- A scan that goes on behind some characters finds what is scanned without them. -/
theorem scan_append_of_scanFrom {w b : String}
    (passed : scanFrom 0 (w.toList ++ b.toList) = scanFrom w.length b.toList) :
    scan (w ++ b) = shiftedScan w.length (scan b) := by
  have behind := scanFrom_shift 0 w.length b.toList
  rw [Nat.zero_add] at behind
  rw [scan, String.toList_append, passed, behind, String.length_append, Nat.add_comm w.length,
    scan]
  cases scanFrom 0 b.toList with
  | error e => rfl
  | ok ts => rfl

/-- Text that means nothing is not seen in front of any other text, whether that can be scanned
or not, apart from the positions. Nor is a formatting command, if neither a letter nor a group
follows it. -/
theorem scan_invisible {w : String} (invisible : IsInvisible w) (b : String) :
    scan (w ++ b) = shiftedScan w.length (scan b) ∧
      ∀ name ∈ formattingCommands,
        (∀ c ∈ b.toList.head?, isCommandLetter c = false ∧ c ≠ '\x7b') →
          scan (w ++ "\\" ++ name ++ b) = shiftedScan (w ++ "\\" ++ name).length (scan b) := by
  obtain ⟨pieces, split, skipped⟩ := invisible
  have passed (rest : List Char) : scanFrom 0 (w.toList ++ rest) = scanFrom w.length rest := by
    have flattened := scanFrom_flatten skipped 0 rest
    rwa [← split, Nat.zero_add, String.length_toList] at flattened
  refine ⟨scan_append_of_scanFrom (passed b.toList), fun name known ends => ?_⟩
  have bare : b.toList.head? ≠ some '\x7b' := fun opens => (ends _ opens).2 rfl
  have command : Ignorable ('\\' :: name.toList) b.toList :=
    .formatting known (fun c first => (ends c first).1) bare
  have letters : (w ++ "\\" ++ name).toList = w.toList ++ '\\' :: name.toList := by
    rw [String.toList_append, String.toList_append, List.append_assoc]
    rfl
  have length : (w ++ "\\" ++ name).length = w.length + ('\\' :: name.toList).length := by
    rw [← String.length_toList, letters, List.length_append, String.length_toList]
  refine scan_append_of_scanFrom ?_
  rw [letters, List.append_assoc, passed, scanFrom_of_ignorable w.length command, length]

/-- Braces in a group are counted even after a backslash or a comment sign, and a comment may
contain anything. An unknown command behind all that is still found, and so is a bracket behind a
formatting command. -/
theorem scan_invisible_nested :
    IsInvisible "\\text\x7b\x7b%\\\x7d#\x7d% \\foo \x7b\n\\," ∧
      scan ("\\text\x7b\x7b%\\\x7d#\x7d% \\foo \x7b\n\\," ++ "P \\foo") =
        .error ⟨.unknownCommand, "\\foo", 25⟩ ∧
      scan ("\\text\x7b\x7b%\\\x7d#\x7d% \\foo \x7b\n\\," ++ "\\" ++ "left" ++ "(P") =
        .ok ⟨[⟨.opening, 28⟩, ⟨.ident "P", 29⟩], 30⟩ := by
  have marks : Balanced ['%', '\\'] :=
    .char (by decide) (by decide) (.char (by decide) (by decide) .nil)
  have sign : Balanced ['#'] := .char (by decide) (by decide) .nil
  have line : ∀ c ∈ " \\foo \x7b".toList, c ≠ '\n' := List.forall_mem_ne'.mpr (by decide)
  have skipped : ∀ piece ∈ ['\\' :: ("text".toList ++ '\x7b' ::
      ('\x7b' :: (['%', '\\'] ++ '\x7d' :: ['#']) ++ ['\x7d'])),
      '%' :: (" \\foo \x7b".toList ++ ['\n']), ['\\', ',']], IsSkipped piece := by
    refine List.forall_mem_cons.mpr ⟨.group (by decide) (.group marks sign), ?_⟩
    refine List.forall_mem_cons.mpr ⟨.comment line, List.forall_mem_singleton.mpr ?_⟩
    exact .spacing (by decide)
  have invisible : IsInvisible "\\text\x7b\x7b%\\\x7d#\x7d% \\foo \x7b\n\\," :=
    ⟨_, by decide +kernel, skipped⟩
  refine ⟨invisible, ?_, ?_⟩
  · have known : scan "P \\foo" = .error ⟨.unknownCommand, "\\foo", 2⟩ := by decide +kernel
    rw [(scan_invisible invisible "P \\foo").1, known]
    rfl
  · have known : scan "(P" = .ok ⟨[⟨.opening, 0⟩, ⟨.ident "P", 1⟩], 2⟩ := by decide +kernel
    have ends : ∀ c ∈ "(P".toList.head?, isCommandLetter c = false ∧ c ≠ '\x7b' := by
      intro c first
      obtain rfl := Option.some.inj first
      decide
    rw [(scan_invisible invisible "(P").2 "left" (by decide) ends, known]
    rfl

end Clausal
