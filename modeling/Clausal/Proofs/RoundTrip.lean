import Clausal.Formula.Display
import Clausal.Proofs.Scanner
import Clausal.Proofs.Reader.Correctness
import Clausal.Proofs.Reader.Spellable

/-!
# Reading back what is written

A formula written in an infix notation is read back as it is, if its names are identifiers
and its applications have arguments (`Formula.parse_write`). What a notation has to provide
is that each of its signs is scanned as one lexeme and ends the name before it
(`Style.Readable`); both infix notations do (`Style.readable_unicode`,
`Style.readable_latex`).
-/

namespace Clausal

open Grammar

variable {α : Type} {ls ms : List Lexeme} {a b : String}

/-- The text is scanned as the lexemes in front of anything that ends a name. -/
def Scans (text : String) (ls : List Lexeme) : Prop :=
  ∀ rest ms, Ends rest → Lexed rest ms → Lexed (text.toList ++ rest) (ls ++ ms)

/-- The text is scanned as the lexemes whatever follows, and ends every name before it. -/
structure IsSign (text : String) (ls : List Lexeme) : Prop where
  scans : ∀ rest ms, Lexed rest ms → Lexed (text.toList ++ rest) (ls ++ ms)
  ends : ∀ rest, Ends (text.toList ++ rest)

/-- The text ends every name before it, and is scanned as the lexemes in front of anything that ends
a name. -/
structure Separates (text : String) (ls : List Lexeme) : Prop where
  scans : Scans text ls
  ends : ∀ rest, Ends (text.toList ++ rest)

/-- A sign is read before anything, so also where a name ends. -/
theorem IsSign.separates (sign : IsSign a ls) : Separates a ls where
  scans rest ms _ lexed := sign.scans rest ms lexed
  ends := sign.ends

theorem Scans.append (left : Scans a ls) (right : Separates b ms) : Scans (a ++ b) (ls ++ ms) := by
  intro rest ks ends lexed
  rw [String.toList_append, List.append_assoc, List.append_assoc]
  exact left _ _ (right.ends rest) (right.scans rest ks ends lexed)

theorem Separates.append (left : Separates a ls) (right : Separates b ms) :
    Separates (a ++ b) (ls ++ ms) where
  scans := left.scans.append right
  ends rest := by
    rw [String.toList_append, List.append_assoc]
    exact left.ends _

/-- A sign may stand directly in front of any text. -/
theorem IsSign.before (sign : IsSign a ls) (scans : Scans b ms) : Scans (a ++ b) (ls ++ ms) := by
  intro rest ks ends lexed
  rw [String.toList_append, List.append_assoc, List.append_assoc]
  exact sign.scans _ _ (scans rest ks ends lexed)

/-- What starts with a sign ends names. -/
theorem IsSign.separates_before (sign : IsSign a ls) (scans : Scans b ms) :
    Separates (a ++ b) (ls ++ ms) where
  scans := sign.before scans
  ends rest := by
    rw [String.toList_append, List.append_assoc]
    exact sign.ends _

/-- A sign may stand directly behind any text. -/
theorem Scans.before (scans : Scans a ls) (sign : IsSign b ms) : Scans (a ++ b) (ls ++ ms) :=
  scans.append sign.separates

/-- What stands between two signs is a sign with them. -/
theorem IsSign.enclose (opening : IsSign a ls) {c : String} {ks : List Lexeme} (body : Scans b ms)
    (closing : IsSign c ks) : IsSign (a ++ b ++ c) (ls ++ (ms ++ ks)) where
  scans rest js lexed := by
    have inner := body _ _ (closing.ends rest) (closing.scans rest js lexed)
    simp only [String.toList_append, List.append_assoc]
    exact opening.scans _ _ inner
  ends rest := by
    simp only [String.toList_append, List.append_assoc]
    exact opening.ends _

/-- A sign separates what stands on both sides of it. -/
theorem Scans.around {sign : String} {ks : List Lexeme} (left : Scans a ls)
    (isSign : IsSign sign ks) (right : Scans b ms) : Scans (a ++ sign ++ b) (ls ++ (ks ++ ms)) := by
  rw [String.append_assoc]
  exact left.append (isSign.separates_before right)

/-- The signs of the notation are scanned as what they stand for. A variable after its
quantifier may be followed by a dot. -/
structure Style.Readable (s : Style) : Prop where
  opening : IsSign s.marks.opening [.opening]
  separator : IsSign s.marks.separator [.comma]
  closing : IsSign s.marks.closing [.closing]
  relation : ∀ r, IsSign (s.relation r) [.relation r]
  negation : IsSign s.negation [.neg]
  connective : ∀ c, IsSign (s.connective c) [.connective c]
  quantifier : ∀ q, IsSign (s.quantifier q ++ s.beforeVariable) [.quantifier q]
  afterVariable : ∃ dot, (dot = [] ∨ dot = [.dot]) ∧ IsSign s.afterVariable dot

/-- The text is scanned as lexemes that spell what is written. -/
def Written (spells : List Lexeme → α → Prop) (text : String) (a : α) : Prop :=
  ∃ ls, spells ls a ∧ Scans text ls

variable {s : Style}

/-- An identifier is scanned as one token, if it ends there. -/
theorem scans_identifier {name : String} (named : isIdentifier name = true) :
    Scans name [.ident name] := fun _ _ ends lexed => lexed.identifier named ends

/-- An argument list in its brackets, after the name that it belongs to. -/
theorem Written.enclosed (readable : s.Readable) {name : String}
    (named : isIdentifier name = true) {texts : List String} {args : List Term}
    (written : Written (Separated SpellsTerm) (String.intercalate s.marks.separator texts) args) :
    ∃ ls, Arguments SpellsTerm ls args ∧
      Scans (name ++ s.marks.enclose texts) (.ident name :: .opening :: ls) := by
  obtain ⟨ls, spelled, scans⟩ := written
  refine ⟨ls ++ [.closing], .some spelled, ?_⟩
  rw [Term.Marks.enclose, ← String.append_assoc, ← String.append_assoc]
  exact ((scans_identifier named).around readable.opening scans).before readable.closing

namespace Term

mutual

/-- A written term is scanned into tokens that spell the term. -/
theorem written (readable : s.Readable) :
    (t : Term) → t.Spellable (isIdentifier · = true) → Written SpellsTerm (t.write s.marks) t
  | .sym name, named => ⟨[.ident name], .symbol name, scans_identifier named⟩
  | .app name [], ⟨_, nonempty, _⟩ => absurd rfl nonempty
  | .app name (t :: ts), ⟨named, _, parts⟩ => by
      obtain ⟨ls, arguments, scans⟩ :=
        (writtenList readable (t :: ts) (List.cons_ne_nil t ts) parts).enclosed readable named
      exact ⟨_, .application name arguments, scans⟩

/-- Written arguments are scanned into tokens that spell them with commas in between. -/
theorem writtenList (readable : s.Readable) :
    (ts : List Term) → ts ≠ [] → SpellableList (isIdentifier · = true) ts →
      Written (Separated SpellsTerm)
        (String.intercalate s.marks.separator (Term.writeList s.marks ts)) ts
  | [], nonempty, _ => absurd rfl nonempty
  | [t], _, ⟨first, _⟩ => by
      obtain ⟨ls, spelled, scans⟩ := written readable t first
      refine ⟨ls, .single spelled, ?_⟩
      rwa [writeList, writeList, String.intercalate_singleton]
  | t :: u :: ts, _, ⟨first, others⟩ => by
      obtain ⟨ls, spelled, scans⟩ := written readable t first
      obtain ⟨ms, separated, following⟩ :=
        writtenList readable (u :: ts) (List.cons_ne_nil u ts) others
      refine ⟨ls ++ .comma :: ms, .cons spelled separated, ?_⟩
      rw [writeList, writeList, String.intercalate_cons_cons]
      exact scans.around readable.separator following

end

end Term

/-- A written atom is scanned into tokens that spell the atom. -/
theorem Atom.written (readable : s.Readable) {a : Atom}
    (spellable : a.Spellable (isIdentifier · = true)) :
    Written SpellsAtom (a.write s.marks s.relation) a := by
  cases a with
  | pred name args =>
      cases args with
      | nil => exact ⟨[.ident name], .proposition name, scans_identifier spellable.1⟩
      | cons t ts =>
          obtain ⟨ls, arguments, scans⟩ :=
            (Term.writtenList readable (t :: ts) (List.cons_ne_nil t ts)
              (Term.spellableList_iff.mpr spellable.2)).enclosed readable spellable.1
          exact ⟨_, .predicate name arguments, scans⟩
  | relation r lhs rhs =>
      obtain ⟨ls, left, scansLeft⟩ := lhs.written readable spellable.1
      obtain ⟨ms, right, scansRight⟩ := rhs.written readable spellable.2
      exact ⟨_, .relation r left right, scansLeft.around (readable.relation r) scansRight⟩

/-- What is an operand is also a formula. -/
theorem Written.formula {text : String} {f : Formula} (operand : Written SpellsOperand text f) :
    Written SpellsFormula text f := by
  obtain ⟨ls, spelled, scans⟩ := operand
  exact ⟨ls, Levels.single spelled, scans⟩

/-- A written formula is an operand once it is grouped, and may be one without. -/
theorem Written.group (readable : s.Readable) {text : String} {f : Formula} {needed : Bool}
    (formula : Written SpellsFormula text f)
    (operand : needed = false → Written SpellsOperand text f) :
    Written SpellsOperand (s.group needed text) f := by
  cases needed with
  | false => exact operand rfl
  | true =>
      obtain ⟨ls, spelled, scans⟩ := formula
      refine ⟨.opening :: (ls ++ [.closing]), .group spelled, ?_⟩
      exact (readable.opening.before scans).before readable.closing

/-- A quantifier is written in front of its scope, with at most a dot after its variable. -/
theorem Written.binder (readable : s.Readable) (q : Quantifier) {x : String}
    (named : isIdentifier x = true) {sign text : String} {dot : List Lexeme}
    (dotted : dot = [] ∨ dot = [.dot]) (isSign : IsSign sign dot) {f : Formula}
    (scope : Written SpellsOperand text f) :
    Written SpellsOperand (s.binder q x ++ sign ++ text) (.quant q x f) := by
  obtain ⟨ls, spelled, scans⟩ := scope
  refine ⟨_, .quant q (.single (.ident x)) dotted spelled, ?_⟩
  have bound := (scans_identifier named).around isSign scans
  have whole := (readable.quantifier q).before bound
  simp only [Style.binder, String.append_assoc] at whole ⊢
  exact whole

namespace Formula

/-- The formula does not have a binary connective at its top. -/
def IsOperand : Formula → Prop
  | .binary _ _ _ => False
  | _ => True

/-- What is written without brackets after a negation or in a junction is an operand. -/
theorem isOperand_of_isLiteral {f : Formula} (literal : (!f.isLiteral) = false) : f.IsOperand := by
  cases f with
  | binary c f g => exact Bool.noConfusion literal
  | _ => trivial

theorem isOperand_of_isAtomic {f : Formula} (atomic : (!f.isAtomic) = false) : f.IsOperand := by
  cases f with
  | binary c f g => exact Bool.noConfusion atomic
  | _ => trivial

/-- A formula is scanned as lexemes that spell it, and as those of an operand unless it
has a binary connective at its top. -/
theorem written (readable : s.Readable) (f : Formula)
    (spellable : f.Spellable (isIdentifier · = true)) :
    Written SpellsFormula (f.write s) f ∧ (f.IsOperand → Written SpellsOperand (f.write s) f) := by
  have alone {f : Formula} (operand : Written SpellsOperand (f.write s) f) :
      Written SpellsFormula (f.write s) f ∧
        (f.IsOperand → Written SpellsOperand (f.write s) f) :=
    ⟨operand.formula, fun _ => operand⟩
  induction f with
  | atom a =>
      obtain ⟨ls, spelled, scans⟩ := Atom.written readable spellable
      exact alone ⟨ls, .atom spelled, scans⟩
  | neg f ih =>
      obtain ⟨formula, operand⟩ := ih spellable
      obtain ⟨ls, spelled, scans⟩ :=
        formula.group readable fun atomic => operand (isOperand_of_isAtomic atomic)
      exact alone ⟨_, .neg spelled, readable.negation.before scans⟩
  | binary c f g ihf ihg =>
      obtain ⟨formula, operand⟩ := ihf spellable.1
      obtain ⟨formula', operand'⟩ := ihg spellable.2
      obtain ⟨ls, left, scansLeft⟩ :=
        formula.group readable fun literal => operand (isOperand_of_isLiteral literal)
      obtain ⟨ms, right, scansRight⟩ :=
        formula'.group readable fun literal => operand' (isOperand_of_isLiteral literal)
      refine ⟨⟨_, Levels.pair c left right, ?_⟩, False.elim⟩
      exact scansLeft.around (readable.connective c) scansRight
  | quant q x f ih =>
      obtain ⟨formula, operand⟩ := ih spellable.2
      obtain ⟨dot, dotted, sign⟩ := readable.afterVariable
      have scope :=
        formula.group readable fun literal => operand (isOperand_of_isLiteral literal)
      exact alone (scope.binder readable q spellable.1 dotted sign)

/-- A text whose tokens spell a formula is read as that formula. -/
theorem parse_of_written {text : String} {f : Formula} (written : Written SpellsFormula text f) :
    parse text = .ok f := by
  obtain ⟨ls, spelled, scans⟩ := written
  have lexed := scans [] [] ends_nil .nil
  rw [List.append_nil, List.append_nil] at lexed
  obtain ⟨scanned, found, carried⟩ := lexed.exists_scan
  rw [← carried] at spelled
  exact parse_eq_ok_iff.mpr ⟨scanned, found, Reader.complete_of_spellsFormula spelled⟩

/-- What is written in a readable notation is read back. -/
theorem parse_write (readable : s.Readable) {f : Formula}
    (spellable : f.Spellable (isIdentifier · = true)) : parse (f.write s) = .ok f :=
  parse_of_written (f.written readable spellable).1

/-- What is read can be written. -/
theorem spellable_of_parse {text : String} {f : Formula} (read : parse text = .ok f) :
    f.Spellable (isIdentifier · = true) := by
  obtain ⟨scanned, found, complete⟩ := parse_eq_ok_iff.mp read
  exact spellable_of_spellsFormula (Reader.complete_eq_ok_iff.mp complete)
    fun _ member => isIdentifier_of_scan found member

end Formula

namespace Style

/-- Blanks are not seen by the scanner. -/
theorem lexed_blanks (n : Nat) {rest : List Char} (lexed : Lexed rest ls) :
    Lexed (List.replicate n ' ' ++ rest) ls := by
  induction n with
  | zero => exact lexed
  | succ n ih => exact .blank (by decide) ih

/-- A single character with a meaning, between any numbers of blanks. -/
theorem isSign_padded (before after : Nat) {c : Char} {l : Lexeme} {sign : String}
    (known : signs.lookup c = some l)
    (chars : sign.toList = List.replicate before ' ' ++ c :: List.replicate after ' ') :
    IsSign sign [l] where
  scans rest ms lexed := by
    rw [chars, List.append_assoc]
    exact lexed_blanks before (.sign known (lexed_blanks after lexed))
  ends rest := by
    rw [chars, List.append_assoc]
    cases before with
    | succ before => exact ends_cons.mpr (by decide)
    | zero =>
        have others : ∀ entry ∈ signs, isIdentifierPart entry.1 = false := by decide
        obtain ⟨_, _, split, _⟩ := List.lookup_eq_some_iff.mp known
        exact ends_cons.mpr (others (c, l) (split ▸ List.mem_append_right _ List.mem_cons_self))

/-- A relation is one sign with blanks around it. -/
theorem isSign_unicode_relation (r : Relation) : IsSign (unicode.relation r) [.relation r] := by
  cases r with
  | eq => exact isSign_padded 1 1 (c := '=') (by decide) rfl
  | ne => exact isSign_padded 1 1 (c := '≠') (by decide) rfl

/-- A connective is one sign with blanks around it. -/
theorem isSign_unicode_connective (c : Connective) :
    IsSign (unicode.connective c) [.connective c] := by
  rcases c with (_ | _) | _ | _
  · exact isSign_padded 1 1 (c := '∧') (by decide) rfl
  · exact isSign_padded 1 1 (c := '∨') (by decide) rfl
  · exact isSign_padded 1 1 (c := '→') (by decide) rfl
  · exact isSign_padded 1 1 (c := '↔') (by decide) rfl

/-- A quantifier is one sign. -/
theorem isSign_unicode_quantifier (q : Quantifier) :
    IsSign (unicode.quantifier q ++ unicode.beforeVariable) [.quantifier q] := by
  cases q with
  | all => exact isSign_padded 0 0 (c := '∀') (by decide) rfl
  | ex => exact isSign_padded 0 0 (c := '∃') (by decide) rfl

/-- The notation with one character for every sign can be read. A dot separates a variable
from the scope of its quantifier. -/
theorem readable_unicode : unicode.Readable where
  opening := isSign_padded 0 0 (c := '(') (by decide) rfl
  separator := isSign_padded 0 1 (c := ',') (by decide) rfl
  closing := isSign_padded 0 0 (c := ')') (by decide) rfl
  relation := isSign_unicode_relation
  negation := isSign_padded 0 0 (c := '¬') (by decide) rfl
  connective := isSign_unicode_connective
  quantifier := isSign_unicode_quantifier
  afterVariable := ⟨[.dot], .inr rfl, isSign_padded 0 1 (c := '.') (by decide) rfl⟩

end Style

namespace Formula

/-- A formula with one character for every sign is read back, if its names are identifiers
and its applications have arguments. Every formula that is read from a text is of this
kind. -/
theorem parse_unicode (f : Formula) :
    (f.Spellable (isIdentifier · = true) → parse f.unicode = .ok f) ∧
      ∀ text, parse text = .ok f → parse f.unicode = .ok f :=
  ⟨fun spellable => parse_write Style.readable_unicode spellable, fun _ read =>
    parse_write Style.readable_unicode (spellable_of_parse read)⟩

/-- An implication nested to the right, after the negation of a quantified inequation. -/
theorem parse_unicode_nested :
    parse (.binary .implies
        (.neg (.quant .ex "xé" (.atom (.relation .ne (.sym "xé") (.app "f" [.sym "_1"])))))
        (.binary .implies (.neg (.neg (.atom (.pred "P" [.sym "c"])))) (.atom (.pred "Q" []))) :
          Formula).unicode =
      .ok (.binary .implies
        (.neg (.quant .ex "xé" (.atom (.relation .ne (.sym "xé") (.app "f" [.sym "_1"])))))
        (.binary .implies (.neg (.neg (.atom (.pred "P" [.sym "c"])))) (.atom (.pred "Q" [])))) :=
  (parse_unicode _).1 (by
    simp only [Spellable, Atom.Spellable, Term.Spellable, Term.SpellableList, List.mem_singleton,
      forall_eq, List.not_mem_nil, IsEmpty.forall_iff, implies_true, ne_eq, reduceCtorEq,
      not_false_eq_true]
    decide)

end Formula

namespace Style

variable {rest : List Char}

/-- A backslash ends a name. -/
theorem ends_backslash (rest : List Char) : Ends ('\\' :: rest) := ends_cons.mpr (by decide)

/-- A command between two marks for space is one token. -/
theorem lexed_spaced (mark : Char) (name : String) {l : Lexeme} (spacing : mark ∈ spacingMarks)
    (known : commands.lookup name = some l) (lexed : Lexed rest ls) :
    Lexed ('\\' :: mark :: '\\' :: (name.toList ++ '\\' :: mark :: rest)) (l :: ls) :=
  .spacing spacing
    (.command name known (endsCommand_cons.mpr (by decide)) (.spacing spacing lexed))

/-- The opening bracket is scanned without the command in front of it. -/
theorem isSign_latex_opening : IsSign latex.marks.opening [.opening] where
  scans rest ms lexed := by
    change Lexed ('\\' :: ("left".toList ++ '(' :: rest)) _
    exact .formatting "left" (by decide) (endsCommand_cons.mpr (by decide)) (by simp)
      (.sign (by decide) lexed)
  ends _ := ends_backslash _

theorem isSign_latex_closing : IsSign latex.marks.closing [.closing] where
  scans rest ms lexed := by
    change Lexed ('\\' :: ("right".toList ++ ')' :: rest)) _
    exact .formatting "right" (by decide) (endsCommand_cons.mpr (by decide)) (by simp)
      (.sign (by decide) lexed)
  ends _ := ends_backslash _

/-- The space behind a comma is not seen by the scanner. -/
theorem isSign_latex_separator : IsSign latex.marks.separator [.comma] where
  scans rest ms lexed := by
    change Lexed (',' :: '\\' :: ',' :: rest) _
    exact .sign (by decide) (.spacing (by decide) lexed)
  ends _ := ends_cons.mpr (by decide)

/-- A relation is an equals sign or a command, with marks for space around it. -/
theorem isSign_latex_relation (r : Relation) : IsSign (latex.relation r) [.relation r] where
  scans rest _ lexed := by
    cases r with
    | eq =>
        change Lexed ('\\' :: ',' :: '=' :: '\\' :: ',' :: rest) _
        exact .spacing (by decide) (.sign (by decide) (.spacing (by decide) lexed))
    | ne => exact lexed_spaced ',' "ne" (by decide) (by decide) lexed
  ends _ := by cases r <;> exact ends_backslash _

/-- A connective is a command with marks for space around it. -/
theorem isSign_latex_connective (c : Connective) :
    IsSign (latex.connective c) [.connective c] where
  scans rest ms lexed := by
    rcases c with (_ | _) | _ | _
    · exact lexed_spaced ';' "land" (by decide) (by decide) lexed
    · exact lexed_spaced ';' "lor" (by decide) (by decide) lexed
    · exact lexed_spaced ';' "rightarrow" (by decide) (by decide) lexed
    · exact lexed_spaced ';' "leftrightarrow" (by decide) (by decide) lexed
  ends _ := by rcases c with (_ | _) | _ | _ <;> exact ends_backslash _

/-- A negation is a command. -/
theorem isSign_latex_negation : IsSign latex.negation [.neg] where
  scans rest ms lexed := by
    change Lexed ('\\' :: ("neg".toList ++ ' ' :: rest)) _
    exact .command "neg" (by decide) (endsCommand_cons.mpr (by decide)) (.blank (by decide) lexed)
  ends _ := ends_backslash _

/-- A quantifier is a command. -/
theorem isSign_latex_quantifier (q : Quantifier) :
    IsSign (latex.quantifier q ++ latex.beforeVariable) [.quantifier q] where
  scans rest ms lexed := by
    have padded : Lexed ('\\' :: ',' :: ' ' :: rest) ms :=
      .spacing (by decide) (.blank (by decide) lexed)
    rw [String.toList_append]
    cases q with
    | all =>
        exact .command "forall" (by decide) (endsCommand_cons.mpr (by decide)) padded
    | ex =>
        exact .command "exists" (by decide) (endsCommand_cons.mpr (by decide)) padded
  ends _ := by cases q <;> exact ends_backslash _

/-- The space behind a variable is not seen by the scanner. -/
theorem isSign_latex_afterVariable : IsSign latex.afterVariable [] where
  scans rest ms lexed := by
    change Lexed ('\\' :: ',' :: ' ' :: rest) _
    exact .spacing (by decide) (.blank (by decide) lexed)
  ends _ := ends_backslash _

/-- The notation for typesetting can be read. Its quantifiers are not followed by dots. -/
theorem readable_latex : latex.Readable where
  opening := isSign_latex_opening
  separator := isSign_latex_separator
  closing := isSign_latex_closing
  relation := isSign_latex_relation
  negation := isSign_latex_negation
  connective := isSign_latex_connective
  quantifier := isSign_latex_quantifier
  afterVariable := ⟨[], .inl rfl, isSign_latex_afterVariable⟩

end Style

namespace Formula

/-- A formula for typesetting is read back, if its names are identifiers and its
applications have arguments. Every formula that is read from a text is of this kind. -/
theorem parse_latex (f : Formula) :
    (f.Spellable (isIdentifier · = true) → parse f.latex = .ok f) ∧
      ∀ text, parse text = .ok f → parse f.latex = .ok f :=
  ⟨fun spellable => parse_write Style.readable_latex spellable, fun _ read =>
    parse_write Style.readable_latex (spellable_of_parse read)⟩

/-- An operand in brackets under a quantifier, next to an inequation of applications. -/
theorem parse_latex_brackets :
    parse (quant .all "x" (.binary .implies
        (.neg (.binary .iff (.atom (.pred "P" [])) (.atom (.relation .eq (.sym "x") (.sym "y")))))
        (.atom (.relation .ne (.app "f" [.sym "x", .sym "y"]) (.sym "y"))))).latex =
      .ok (quant .all "x" (.binary .implies
        (.neg (.binary .iff (.atom (.pred "P" [])) (.atom (.relation .eq (.sym "x") (.sym "y")))))
        (.atom (.relation .ne (.app "f" [.sym "x", .sym "y"]) (.sym "y"))))) :=
  (parse_latex _).2 "∀x (¬(P ↔ x = y) → f(x, y) ≠ y)" (by decide +kernel)

end Formula

end Clausal
