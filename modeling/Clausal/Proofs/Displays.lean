import Clausal.Proofs.Identifiers
import Clausal.Proofs.Run

/-!
# Reading displays back

A prenex formula for typesetting is written in two parts, the quantifiers of its prefix
without a sign between them and its matrix. It is read back as the matrix with the prefix in
front (`Prefix.parse_display`). As all forms of a formula keep to names that can be written,
every form that is shown for a text is read back as it is
(`NormalForms.parse_displays`).
-/

namespace Clausal

open Grammar

namespace Style

/-- What stands between two binders is a space for typesetting and no lexeme. -/
theorem isSign_latex_betweenBinders : IsSign latex.betweenBinders [] := isSign_latex_afterVariable

/-- The space between a prefix and its matrix. -/
theorem isSign_latex_beforeMatrix : IsSign "\\; " [] where
  scans rest ms lexed := by
    change Lexed ('\\' :: ';' :: ' ' :: rest) _
    exact .spacing (by decide) (.blank (by decide) lexed)
  ends _ := ends_backslash _

end Style

namespace Prefix

variable {p : Prefix} {body : String} {m : Formula}

/-- In front of an operand, every quantifier of a prefix has what follows it as its scope. -/
theorem written_latex (nonempty : p ≠ []) (heads : ∀ b ∈ p, isIdentifier b.name = true)
    (scope : Written SpellsOperand body m) :
    Written SpellsOperand (p.latex ++ "\\; " ++ body) (m.quantify p) := by
  induction p with
  | nil => exact absurd rfl nonempty
  | cons b p ih =>
      obtain ⟨head, others⟩ := List.forall_mem_cons.mp heads
      -- The innermost quantifier stands before the matrix, every other one before a quantifier.
      cases p with
      | nil =>
          rw [latex, write, List.map_singleton, String.intercalate_singleton]
          exact scope.binder Style.readable_latex b.quantifier head (.inl rfl)
            Style.isSign_latex_beforeMatrix
      | cons c p =>
          have inner := (ih (List.cons_ne_nil c p) others).binder Style.readable_latex
            b.quantifier head (.inl rfl) Style.isSign_latex_betweenBinders
          rw [latex, write, List.map_cons, List.map_cons, String.intercalate_cons_cons]
          simp only [latex, write, List.map_cons, String.append_assoc] at inner ⊢
          exact inner

/-- A matrix behind a prefix is scanned into tokens that spell it. -/
theorem written_display (heads : ∀ b ∈ p, isIdentifier b.name = true)
    (spellable : m.Spellable (isIdentifier · = true)) :
    Written SpellsOperand (p.display m) (m.quantify p) := by
  obtain ⟨formula, operand⟩ := m.written Style.readable_latex spellable
  have scope := formula.group Style.readable_latex fun literal =>
    operand (Formula.isOperand_of_isLiteral literal)
  cases p with
  | nil => exact scope
  | cons b p => exact written_latex (List.cons_ne_nil b p) heads scope

/-- The display of a prefix and a matrix is read as the matrix with the prefix in front. -/
theorem parse_display (heads : ∀ b ∈ p, isIdentifier b.name = true)
    (spellable : m.Spellable (isIdentifier · = true)) :
    Formula.parse (p.display m) = .ok (m.quantify p) :=
  Formula.parse_of_written (written_display heads spellable).formula

end Prefix

namespace NormalForms

/-- The formulas that are shown for typesetting, each under the name of its display. -/
def shownForms (r : NormalForms) : List (String × Formula) :=
  [("original", r.given), ("no_imp_iff", r.arrowless), ("nnf", r.nnf),
    ("standardized", r.apart), ("prenex", r.matrix.quantify r.binders), ("pcnf", r.pcnf),
    ("pdnf", r.pdnf), ("skolem", r.skolem.matrix)]

/-- Each form that is shown has a display, which is read as that form. -/
theorem Spellable.exists_display {r : NormalForms} (spellable : r.Spellable) :
    ∀ form ∈ r.shownForms, ∃ display,
      r.displays.lookup form.1 = some display ∧ Formula.parse display = .ok form.2 := by
  have plain {f : Formula} (spellable : f.Spellable (isIdentifier · = true)) :
      Formula.parse f.latex = .ok f := Formula.parse_write Style.readable_latex spellable
  intro form member
  simp only [shownForms, List.mem_cons, List.not_mem_nil, or_false] at member
  rcases member with rfl | rfl | rfl | rfl | rfl | rfl | rfl | rfl
  · exact ⟨_, rfl, plain spellable.given⟩
  · exact ⟨_, rfl, plain spellable.arrowless⟩
  · exact ⟨_, rfl, plain spellable.nnf⟩
  · exact ⟨_, rfl, plain spellable.apart⟩
  · exact ⟨_, rfl, Prefix.parse_display spellable.binders spellable.matrix⟩
  · exact ⟨_, rfl, Prefix.parse_display spellable.binders spellable.cnf⟩
  · exact ⟨_, rfl, Prefix.parse_display spellable.binders spellable.dnf⟩
  · exact ⟨_, rfl, plain spellable.skolem⟩

/-- Every form that is shown for a text is read back from its display, and so is every prefix
with a matrix whose names are identifiers and whose applications have arguments. -/
theorem parse_displays :
    (∀ text f, Formula.parse text = .ok f → ∃ r : NormalForms, r.given = f ∧ ComesTo text r ∧
      ∀ form ∈ r.shownForms, ∃ display,
        r.displays.lookup form.1 = some display ∧ Formula.parse display = .ok form.2) ∧
    ∀ (p : Prefix) (m : Formula), (∀ b ∈ p, isIdentifier b.name = true) →
      m.Spellable (isIdentifier · = true) →
        Formula.parse (p.display m) = .ok (m.quantify p) := by
  refine ⟨fun text f read => ?_, fun p m heads spellable => Prefix.parse_display heads spellable⟩
  obtain ⟨r, rfl, staged, run⟩ := exists_comesTo read
  have spellable := staged.spellable (Formula.spellable_of_parse read)
  exact ⟨r, rfl, run, spellable.exists_display⟩

/-- A witness that is an application is shown in the Skolem form, and both quantifiers before
an implication are shown without dots. -/
theorem parse_displays_alternating :
    (∃ (r : NormalForms) (display : String),
      r.given = .quant .all "x" (.quant .ex "y" (.atom (.relation .ne (.sym "x") (.sym "y")))) ∧
        (∃ limit, ∀ threshold, ((ofText limit "∀x ∃y x ≠ y").runWith threshold).1 = .ok r) ∧
        r.displays.lookup "skolem" = some display ∧
          Formula.parse display = .ok r.skolem.matrix) ∧
    Formula.parse (Prefix.display [⟨.all, "x"⟩, ⟨.ex, "y"⟩]
        (.binary .implies (.atom (.pred "P" [.sym "x"])) (.atom (.pred "Q" [.sym "y"])))) =
      .ok (.quant .all "x" (.quant .ex "y"
        (.binary .implies (.atom (.pred "P" [.sym "x"])) (.atom (.pred "Q" [.sym "y"]))))) := by
  constructor
  · have read : Formula.parse "∀x ∃y x ≠ y" =
        .ok (.quant .all "x" (.quant .ex "y" (.atom (.relation .ne (.sym "x") (.sym "y"))))) := by
      decide +kernel
    obtain ⟨r, same, run, shown⟩ := parse_displays.1 _ _ read
    obtain ⟨display, found, back⟩ := shown ("skolem", r.skolem.matrix) (by simp [shownForms])
    exact ⟨r, display, same, run.exists_returned, found, back⟩
  · refine parse_displays.2 [⟨.all, "x"⟩, ⟨.ex, "y"⟩] _ ?_ ?_
    · decide
    · simp only [Formula.Spellable, Atom.Spellable, Term.Spellable, List.mem_singleton, forall_eq]
      decide

end NormalForms

end Clausal
