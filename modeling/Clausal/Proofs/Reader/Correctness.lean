import Clausal.Proofs.Reader.Completeness
import Clausal.Proofs.Reader.Extension
import Clausal.Proofs.Reader.Misnaming
import Clausal.Proofs.Scanner

/-!
# The reader and its grammar

A list of tokens is read as a formula exactly if its lexemes spell that formula and no name
with arguments in it is one that no function can have. So the grammar is not ambiguous, and an
error points at a token or at the end of the text, or is that of such a name
(`Formula.ofScanned_spec`). The names in a text are all lawful, so a text is read as its tokens
are spelled (`Formula.parse_of_scan`).
-/

namespace Clausal

open Grammar

/-- Lexemes can be made tokens; where these stand does not matter to the reader. -/
theorem map_lexeme_map_mk (ls : List Lexeme) :
    (ls.map (Token.mk · 0)).map Token.lexeme = ls := by
  rw [List.map_map]
  exact List.map_id ls

namespace Reader

/-- The tokens that are read as a formula are those whose lexemes spell it. -/
theorem complete_eq_ok_iff {ts : List Token} {f : Formula} :
    complete ts = .ok f ↔ SpellsFormula (ts.map Token.lexeme) f := by
  constructor
  · intro found
    have taken := taken_formula ts
    unfold complete at found
    cases read : formula ts with
    | error r =>
        rw [read] at found
        exact nomatch found
    | ok x =>
        obtain ⟨g, rest⟩ := x
        rw [read] at found taken
        cases rest with
        | cons t rest => exact nomatch found
        | nil =>
            obtain rfl := Except.ok.inj found
            obtain ⟨used, split, spelled⟩ := taken_ok_iff.mp taken
            rwa [split, List.append_nil]
  · exact complete_of_spellsFormula

/-- A refusal points behind tokens that some formula starts with, and no names are needed to
complete that formula. -/
theorem complete_error {ts : List Token} {r : Refusal} (refused : complete ts = .error r) :
    ∃ used rest more f, ts = used ++ rest ∧ r.found = rest.head? ∧ Nameless more ∧
      SpellsFormula (used.map Token.lexeme ++ more) f := by
  have taken := taken_formula ts
  unfold complete at refused
  cases read : formula ts with
  | error r' =>
      rw [read] at refused taken
      obtain rfl := Except.error.inj refused
      exact taken_error_iff.mp taken
  | ok x =>
      obtain ⟨g, rest⟩ := x
      rw [read] at refused taken
      obtain ⟨used, split, spelled⟩ := taken_ok_iff.mp taken
      cases rest with
      | nil => exact nomatch refused
      | cons t rest =>
          obtain rfl := Except.error.inj refused
          refine ⟨used, t :: rest, [], g, split, rfl, nofun, ?_⟩
          rwa [List.append_nil]

/-- If a token is refused, no formula starts with the tokens. -/
theorem not_spellsFormula_of_refused {ts : List Token} {wanted : Wanted} {t : Token}
    (refused : complete ts = .error ⟨wanted, some t⟩) (more : List Lexeme) (f : Formula) :
    ¬SpellsFormula (ts.map Token.lexeme ++ more) f := by
  intro spelled
  have accepted : complete (ts ++ more.map (Token.mk · 0)) = .ok f := by
    rw [complete_eq_ok_iff, List.map_append, map_lexeme_map_mk]
    exact spelled
  rw [complete_append_refused refused] at accepted
  exact nomatch accepted

end Reader

namespace Formula

variable {s : Scanned}

/-- What scanned tokens can come to. Arguments of a name that no function can have are an error of
their own, unless a token before their end is refused. -/
inductive Outcome (s : Scanned) : Except ReadError Formula → Prop where
  | formula {f : Formula} (read : Reader.complete s.tokens = .ok f)
      (unmet : misnamed? s.tokens = none) : Outcome s (.ok f)
  | refused {r : Refusal} (refused : Reader.complete s.tokens = .error r)
      (unviable : ∀ made, misnamed? s.tokens = some made →
        ¬∃ more f, SpellsFormula (made.map Token.lexeme ++ more) f) :
      Outcome s (.error (.parse (r.at s.finish)))
  | misnamed {made : List Token} (met : misnamed? s.tokens = some made)
      (viable : ∃ more f, SpellsFormula (made.map Token.lexeme ++ more) f) :
      Outcome s (.error .nullInName)

/-- Names that no function can have do not matter where none of them has arguments. -/
theorem ofScanned_of_misnamed?_eq_none (unmet : misnamed? s.tokens = none) :
    ofScanned s = (Reader.complete s.tokens).mapError fun r => .parse (r.at s.finish) := by
  rw [ofScanned, unmet]

theorem outcome_ofScanned (s : Scanned) : Outcome s (ofScanned s) := by
  cases met : misnamed? s.tokens with
  | none =>
      rw [ofScanned_of_misnamed?_eq_none met]
      cases outcome : Reader.complete s.tokens with
      | ok f => exact .formula outcome met
      | error r => exact .refused outcome fun made found => nomatch met.symm.trans found
  | some made =>
      obtain ⟨rest, split⟩ := exists_append_of_misnamed? met
      rw [ofScanned, met]
      dsimp only
      cases outcome : Reader.complete made with
      | ok f =>
          refine .misnamed met ⟨[], f, ?_⟩
          rw [List.append_nil]
          exact Reader.complete_eq_ok_iff.mp outcome
      | error r =>
          obtain ⟨wanted, found⟩ := r
          cases found with
          | some t =>
              -- The same token is refused whatever follows, so nothing misnamed is ever made.
              have whole := Reader.complete_append_refused outcome rest
              rw [← split] at whole
              rw [whole]
              refine .refused whole fun again found ⟨more, f, spelled⟩ => ?_
              obtain rfl := Option.some.inj (met.symm.trans found)
              exact Reader.not_spellsFormula_of_refused outcome more f spelled
          | none =>
              obtain ⟨used, behind, more, f, parts, here, _, spelled⟩ :=
                Reader.complete_error outcome
              obtain rfl : behind = [] := List.head?_eq_none_iff.mp here.symm
              rw [List.append_nil] at parts
              exact .misnamed met ⟨more, f, parts ▸ spelled⟩

/-- Tokens are read as a formula exactly if they spell it and it is callable. -/
theorem ofScanned_eq_ok_iff {f : Formula} :
    ofScanned s = .ok f ↔ SpellsFormula (s.tokens.map Token.lexeme) f ∧ f.Callable := by
  rw [← Reader.complete_eq_ok_iff]
  have outcome := outcome_ofScanned s
  generalize ofScanned s = result at outcome
  cases outcome with
  | @formula g read unmet =>
      have callable := callable_of_misnamed?_eq_none unmet (Reader.complete_eq_ok_iff.mp read)
      rw [read]
      constructor
      · intro same
        obtain rfl := Except.ok.inj same
        exact ⟨rfl, callable⟩
      · exact fun ⟨same, _⟩ => congrArg _ (Except.ok.inj same)
  | refused refused =>
      rw [refused]
      exact ⟨(nomatch ·), fun found => nomatch found.1⟩
  | @misnamed made met =>
      refine ⟨(nomatch ·), fun ⟨found, callable⟩ => ?_⟩
      obtain ⟨rest, split⟩ := exists_append_of_misnamed? met
      have spelled : SpellsFormula (made.map Token.lexeme ++ rest.map Token.lexeme) f := by
        rw [← List.map_append, ← split]
        exact Reader.complete_eq_ok_iff.mp found
      exact absurd callable (not_callable_of_misnamed? met spelled)

/-- A text is read by scanning it and reading all its tokens. -/
theorem parse_of_scan {text : String} (scanned : scan text = .ok s) :
    parse text = (Reader.complete s.tokens).mapError fun r => .parse (r.at s.finish) := by
  rw [parse, scanned]
  exact ofScanned_of_misnamed?_eq_none (misnamed?_eq_none (null_not_mem_of_scan scanned))

/-- An error of the scanner is the error of the text. -/
theorem parse_of_scan_error {text : String} {e : ScanError} (failed : scan text = .error e) :
    parse text = .error (.scan e) := by
  rw [parse, failed]
  rfl

/-- A text is read as a formula exactly if its tokens are. -/
theorem parse_eq_ok_iff {text : String} {f : Formula} :
    parse text = .ok f ↔ ∃ s, scan text = .ok s ∧ Reader.complete s.tokens = .ok f := by
  cases scanned : scan text with
  | error e =>
      rw [parse_of_scan_error scanned]
      exact ⟨(nomatch ·), fun ⟨_, found, _⟩ => nomatch found⟩
  | ok s =>
      rw [parse_of_scan scanned]
      cases outcome : Reader.complete s.tokens with
      | error r =>
          refine ⟨(nomatch ·), fun ⟨_, same, found⟩ => ?_⟩
          obtain rfl := Except.ok.inj same
          exact nomatch outcome.symm.trans found
      | ok g =>
          constructor
          · intro found
            exact ⟨s, rfl, outcome.trans (congrArg _ (Except.ok.inj found))⟩
          · rintro ⟨_, same, found⟩
            obtain rfl := Except.ok.inj same
            exact congrArg _ (Except.ok.inj (outcome.symm.trans found))

/-- An error in the tokens of a text is what the reader refuses. -/
theorem parse_eq_error_iff {text : String} {e : ParseError} :
    parse text = .error (.parse e) ↔
      ∃ s r, scan text = .ok s ∧ Reader.complete s.tokens = .error r ∧ e = r.at s.finish := by
  cases scanned : scan text with
  | error e' =>
      rw [parse_of_scan_error scanned]
      exact ⟨(nomatch ·), fun ⟨_, _, found, _⟩ => nomatch found⟩
  | ok s =>
      rw [parse_of_scan scanned]
      cases outcome : Reader.complete s.tokens with
      | ok f =>
          refine ⟨(nomatch ·), fun ⟨_, _, same, found, _⟩ => ?_⟩
          obtain rfl := Except.ok.inj same
          exact nomatch outcome.symm.trans found
      | error r =>
          constructor
          · intro found
            exact ⟨s, r, rfl, outcome, (ReadError.parse.inj (Except.error.inj found)).symm⟩
          · rintro ⟨_, r', same, found, rfl⟩
            obtain rfl := Except.ok.inj same
            obtain rfl := Except.error.inj (outcome.symm.trans found)
            rfl

/-- In a text, no name is one that no function can have. -/
theorem parse_ne_nullInName (text : String) : parse text ≠ .error .nullInName := by
  cases scanned : scan text with
  | error e =>
      rw [parse_of_scan_error scanned]
      exact fun same => nomatch Except.error.inj same
  | ok s =>
      rw [parse_of_scan scanned]
      cases Reader.complete s.tokens with
      | error r => exact fun same => nomatch Except.error.inj same
      | ok f => exact nofun

end Formula

end Clausal
