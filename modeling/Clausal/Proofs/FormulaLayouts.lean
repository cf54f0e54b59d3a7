import Clausal.Formula.Pretty
import Clausal.Proofs.ApplicativeNotation
import Clausal.Proofs.LineBreaking
import Clausal.Worksheet.Display

/-!
# Formulas in lines

A formula that is laid out is its text in the applicative notation with line ends in it. The places
for them stand behind the commas between operands, where the next operand starts with a name, and
the texts of atoms and variables have no line ends of their own. So its steps are the text if they
are written on one line (`Formula.lines_prettySteps`), and whatever printer lays them out, the text
is found again by undoing the line ends, and is not changed if it fits (`Formula.pretty_spec`).
-/

namespace Clausal

open Layout

theorem toNat_of_isIdentifierPart {c : Char} (part : isIdentifierPart c = true) :
    48 ≤ c.toNat ∧ c.toNat ≤ 122 ∨ 192 ≤ c.toNat ∧ c.toNat ≤ 383 := by
  rw [isIdentifierPart, Char.isAlphanum, Bool.or_eq_true, Bool.or_eq_true, Bool.or_eq_true] at part
  have started (start : isIdentifierStart c = true) : 48 ≤ c.toNat ∧ c.toNat ≤ 122 := by
    have bounds := toNat_of_isIdentifierStart start
    omega
  rcases part with ((letter | digit) | mark) | accented
  · exact .inl (started (by rw [isIdentifierStart, letter, Bool.true_or]))
  · have bounds := Bool.and_eq_true_iff.mp digit
    have low : 48 ≤ c.toNat := UInt32.le_iff_toNat_le.mp (of_decide_eq_true bounds.1)
    have high : c.toNat ≤ 57 := UInt32.le_iff_toNat_le.mp (of_decide_eq_true bounds.2)
    omega
  · exact .inl (started (by rw [isIdentifierStart, mark, Bool.or_true]))
  · have bounds := Bool.and_eq_true_iff.mp accented
    exact .inr ⟨of_decide_eq_true bounds.1, of_decide_eq_true bounds.2⟩

/-- No part of an identifier ends a line. -/
theorem isLineEnd_of_isIdentifierPart {c : Char} (part : isIdentifierPart c = true) :
    Text.isLineEnd c = false := by
  have bounds := toNat_of_isIdentifierPart part
  refine Bool.eq_false_iff.mpr fun ends => ?_
  obtain ⟨range, known, above, below⟩ := Text.Ranges.contain_iff.mp ends
  have apart : ∀ range ∈ Text.lineEnds,
      range.2 < 48 ∨ 122 < range.1 ∧ range.2 < 192 ∨ 383 < range.1 := by decide
  have := apart range known
  omega

namespace Reading

mutual

/-- There are no line ends in the text of a tree. -/
theorem isLineEnd_chars : (v : Reading) → v.Legible → ∀ c ∈ v.chars, Text.isLineEnd c = false
  | .bare name, named, c, member => by
      obtain ⟨d, ds, spelled, parts⟩ := exists_parts_of_isIdentifier named
      rw [chars, spelled] at member
      exact isLineEnd_of_isIdentifierPart (parts c member)
  | .call name args, ⟨named, legible⟩, c, member => by
      obtain ⟨d, ds, spelled, parts⟩ := exists_parts_of_isIdentifier named
      rw [chars, spelled] at member
      rcases List.mem_append.mp member with part | behind
      · exact isLineEnd_of_isIdentifierPart (parts c part)
      · rcases List.mem_cons.mp behind with rfl | inside
        · decide
        · exact isLineEnd_argumentChars args legible c inside
  | .related r lhs rhs, ⟨⟨_, left⟩, _, right⟩, c, member => by
      rw [chars] at member
      rcases List.mem_append.mp member with first | behind
      · exact isLineEnd_chars lhs left c first
      · rcases List.mem_append.mp behind with sign | second
        · have sign : c = ' ' ∨ c = '=' ∨ c = '!' := by
            cases r <;> (simp [Relation.applicative] at sign; tauto)
          rcases sign with rfl | rfl | rfl <;> decide
        · exact isLineEnd_chars rhs right c second

/-- Legible arguments contain no line end. -/
theorem isLineEnd_argumentChars : (vs : List Reading) → AllLegible vs →
    ∀ c ∈ argumentChars vs, Text.isLineEnd c = false
  | [], _, c, member => by
      obtain rfl := List.mem_singleton.mp member
      decide
  | v :: vs, ⟨first, others⟩, c, member => by
      rcases List.mem_append.mp member with inside | behind
      · exact isLineEnd_chars v first c inside
      · exact isLineEnd_furtherChars vs others c behind

/-- Legible further arguments contain no line end. -/
theorem isLineEnd_furtherChars : (vs : List Reading) → AllLegible vs →
    ∀ c ∈ furtherChars vs, Text.isLineEnd c = false
  | [], _, c, member => by
      obtain rfl := List.mem_singleton.mp member
      decide
  | v :: vs, ⟨first, others⟩, c, member => by
      rcases List.mem_cons.mp member with rfl | member
      · decide
      rcases List.mem_cons.mp member with rfl | member
      · decide
      rcases List.mem_append.mp member with inside | behind
      · exact isLineEnd_chars v first c inside
      · exact isLineEnd_furtherChars vs others c behind

end

end Reading

namespace Layout

/-- The steps are the text in lines: they are complete groups, and give the text on one line, which
is found again wherever the line ends. -/
structure Lines (text : String) (steps : List Step) : Prop where
  grouped : Grouped steps
  mendable : Mendable steps
  starts : StartsText steps
  flat : flat steps = text.toList

/-- The text in lines of a width: it is found again by undoing the line ends, and not changed if it
fits. -/
structure Relined (width : Int) (text lines : String) : Prop where
  unbroken : unbroken lines.toList = text.toList
  fits : (text.length : Int) ≤ width → lines = text

/-- A printer that can be relied on only breaks lines, where steps make lines. -/
theorem Conforms.relined {printer : Int → List Step → String} {steps : List Step} {text : String}
    (conforms : Conforms printer) (lines : Lines text steps) (width : Int) :
    Relined width text (printer width steps) where
  unbroken := by
    rw [(conforms.laid width steps lines.grouped).unbroken_eq lines.mendable, lines.flat]
  fits narrow := by
    rw [← String.length_toList, ← lines.flat] at narrow
    have line := conforms.fits width steps lines.grouped lines.mendable.lineEnd_not_mem narrow
    exact String.toList_inj.mp (line.trans lines.flat)

/-- Two texts with a comma between them may be broken behind the comma. -/
theorem Lines.comma {s t : String} {first second : List Step} (left : Lines s first)
    (right : Lines t second) :
    Lines (s ++ ", " ++ t) ([.text ",", .breakable].intercalate [first, second]) := by
  have joined : [.text ",", .breakable].intercalate [first, second] =
      first ++ .text "," :: .breakable :: second := by
    simp [List.intercalate]
  rw [joined]
  refine ⟨?_, ?_, left.starts.append, ?_⟩
  · exact left.grouped.append (.text "," (.breakable right.grouped))
  · exact left.mendable.append ⟨by decide, right.starts, right.mendable⟩
  · rw [flat_append, flat_cons, flat_cons, left.flat, right.flat]
    simp [Step.spaced]

end Layout

namespace Formula

variable {f : Formula}

/-- A text without line ends is laid out in one piece. -/
theorem lines_leafSteps {v : Reading} {text : String} (legible : v.Legible)
    (written : v.chars = text.toList) : Lines text (leafSteps text) := by
  obtain ⟨c, cs, spelled, part⟩ := v.exists_start legible
  have plain := v.isLineEnd_chars legible
  rw [written] at spelled plain
  have line : Text.lines text = [text] := by
    have filled : text.toList ≠ [] := spelled ▸ List.cons_ne_nil c cs
    rw [Text.lines, Text.charLines_eq_singleton filled plain,
      List.map_singleton, String.ofList_toList]
  have steps : leafSteps text = [.opening 0, .opening 0, .text text, .closing 0, .closing 0] := by
    rw [leafSteps, line]
    rfl
  rw [steps]
  refine ⟨?_, ?_, ⟨c, cs, spelled, ?_⟩, ?_⟩
  · have inner : Grouped [.opening 0, .text text, .closing 0] := .group 0 (.text text .nil) .nil
    exact .group 0 inner .nil
  · refine ⟨fun member => ?_, trivial⟩
    exact absurd (plain '\n' member) (by decide)
  · rintro rfl
    revert part
    decide
  · simp [Step.spaced, flat]

/-- An operator encloses its operands in brackets. -/
theorem lines_applicationSteps {label text : String} {operands : List (List Step)}
    (named : isIdentifier label = true)
    (lines : Lines text ([.text ",", .breakable].intercalate operands)) :
    Lines (label ++ "(" ++ text ++ ")") (applicationSteps label operands) := by
  obtain ⟨c, cs, spelled, parts⟩ := exists_parts_of_isIdentifier named
  have head : (label ++ "(").toList = c :: (cs ++ ['(']) := by
    rw [String.toList_append, spelled]
    rfl
  have plain : '\n' ∉ (label ++ "(").toList := by
    rw [head, ← List.cons_append]
    exact List.not_mem_append (fun member => absurd (parts '\n' member) (by decide)) (by decide)
  have steps : applicationSteps label operands = .opening 0 :: .text (label ++ "(") ::
      .opening (label ++ "(").length :: ([.text ",", .breakable].intercalate operands ++
        [.closing (label ++ "(").length, .text ")", .closing 0]) := by
    simp [applicationSteps, bracketSteps]
  rw [steps]
  refine ⟨?_, ⟨plain, lines.mendable.append ?_⟩, ⟨c, _, head, ?_⟩, ?_⟩
  · have grouped := Grouped.group 0 (.text (label ++ "(") (.group (label ++ "(").length
      lines.grouped (.text ")" .nil))) .nil
    simpa using grouped
  · exact ⟨by decide, trivial⟩
  · rintro rfl
    exact absurd (parts ' ' List.mem_cons_self) (by decide)
  · simp [flat_cons, flat_append, lines.flat, Step.spaced]

/-- An operator with two operands may be broken behind the comma. -/
theorem lines_pair {label s t : String} {first second : List Step}
    (named : isIdentifier label = true) (left : Lines s first) (right : Lines t second) :
    Lines (label ++ "(" ++ s ++ ", " ++ t ++ ")") (applicationSteps label [first, second]) := by
  have lines := lines_applicationSteps named (left.comma right)
  rwa [← String.append_assoc, ← String.append_assoc] at lines

/-- A formula is laid out as its text in the applicative notation. -/
theorem lines_prettySteps (legible : f.Legible) : Lines f.applicative f.prettySteps := by
  induction f with
  | atom a => exact lines_leafSteps (legible_atom legible) a.chars_reading
  | neg f ih =>
      have operand : Lines f.applicative ([.text ",", .breakable].intercalate [f.prettySteps]) := by
        rw [List.intercalate_singleton]
        exact ih (legible_neg.mp legible)
      have named : isIdentifier "Not" = true := label_identifier (by decide)
      exact lines_applicationSteps named operand
  | binary c f g ihf ihg =>
      obtain ⟨left, right⟩ := legible_binary.mp legible
      exact lines_pair (label_identifier c.label_mem) (ihf left) (ihg right)
  | quant q x f ih =>
      obtain ⟨named, scope⟩ := legible_quant.mp legible
      have bound : Lines x (leafSteps x) := lines_leafSteps (v := .bare x) named rfl
      exact lines_pair (label_identifier q.label_mem) bound (ih scope)

/-- A formula is laid out exactly if its text in the applicative notation is shown, and fails in the
same way otherwise. In every width, and by every printer, a formula with identifiers for names is
laid out as this text with line ends, and as the text itself if that fits. -/
theorem pretty_spec (named : ∀ x ∈ f.names ++ f.predicates, isIdentifier x = true) (width : Int) :
    (∀ v : Worksheet.Value, v.floorOf? = some width →
      (Worksheet.Value.formula f).pretty v =
        (Worksheet.Value.formula f).shown.map fun _ => f.pretty width) ∧
    ∀ text, (Worksheet.Value.formula f).shown = .ok text →
      Relined width text (f.pretty width) ∧
      ∀ printer, Conforms printer → Relined width text (printer width f.prettySteps) := by
  refine ⟨fun v counted => ?_, fun text shown => ?_⟩
  · rw [Worksheet.Value.pretty, counted, Worksheet.Value.prettySteps, Worksheet.Value.shown,
      applicative?]
    cases taken : f.withTerms with
    | error e => rfl
    | ok g =>
        obtain ⟨_, rfl⟩ := withTerms_eq_ok_iff.mp taken
        rfl
  · rw [Worksheet.Value.shown] at shown
    obtain ⟨logical, rfl⟩ := applicative?_eq_ok_iff.mp (mapError_eq_ok_iff.mp shown)
    have lines := lines_prettySteps (Legible.of_named logical named)
    exact ⟨conforms_render.relined lines width,
      fun printer conforms => conforms.relined lines width⟩

/-- In a width of 10 the operands of both operators stand below each other. -/
theorem pretty_spec_narrow :
    let f : Formula := .quant .ex "x" (.and (.atom (.pred "P" [.sym "x"])) (.atom (.pred "Q" [])))
    f.pretty 10 = "Ex(x,\n   And(P(x),\n       Q))" ∧
      Relined 10 "Ex(x, And(P(x), Q))" (f.pretty 10) := by
  intro f
  have shown : (Worksheet.Value.formula f).shown = .ok "Ex(x, And(P(x), Q))" := by decide
  refine ⟨by decide, ?_⟩
  exact ((pretty_spec (f := f) (by decide) 10).2 _ shown).2 render conforms_render

end Formula

end Clausal
