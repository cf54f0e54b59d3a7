import Clausal.Session
import Clausal.Proofs.Displays

/-!
# What a call can come to

A call on a text has all forms of its formula as the result, or reports that the text cannot
be read, or that it is too deep (`Session.Foreseen`). Whatever the text and the level of the log
are, no other failure can happen but that the level itself has too many digits to be shown
(`Session.foreseen_call`): no pass is given a formula that it refuses, and no term in a result is
one that cannot be written (`NormalForms.Spellable.writable`).
-/

namespace Clausal

namespace NormalForms

/-- All terms of a result are terms of the logic, so all its parts can be written. -/
structure Writable (r : NormalForms) : Prop where
  forms : ∀ form ∈ r.shownForms, form.2.withTerms = .ok form.2
  skolemCnf : r.skolemCnf.withTerms = .ok r.skolemCnf
  mapping : ∀ entry ∈ r.skolem.mapping, requireNoForeign entry.2.foreignValues = .ok ()
  clauses : ∀ c ∈ r.clauses, ∀ l ∈ c, requireNoForeign l.atom.foreignValues = .ok ()

theorem requireNoForeign_of_eq_nil {values : List Expression} (empty : values = []) :
    requireNoForeign values = .ok () := by
  subst empty
  rfl

/-- All the forms that are shown are spellable. -/
theorem Spellable.forms {r : NormalForms} (spellable : r.Spellable) :
    ∀ form ∈ r.shownForms, form.2.Spellable (isIdentifier · = true) := by
  have prenex {f : Formula} (scope : f.Spellable (isIdentifier · = true)) :=
    scope.quantify spellable.binders
  simp only [shownForms, List.forall_mem_cons]
  exact ⟨spellable.given, spellable.arrowless, spellable.nnf, spellable.apart,
    prenex spellable.matrix, prenex spellable.cnf, prenex spellable.dnf, spellable.skolem,
    List.forall_mem_nil _⟩

/-- Normal forms whose names are identifiers can be written without errors. -/
theorem Spellable.writable {r : NormalForms} (spellable : r.Spellable) (staged : r.Staged) :
    r.Writable where
  forms form member :=
    Formula.withTerms_of_foreignValues_eq_nil (spellable.forms form member).foreignValues_eq_nil
  skolemCnf := Formula.withTerms_of_foreignValues_eq_nil spellable.skolemCnf.foreignValues_eq_nil
  mapping entry member :=
    requireNoForeign_of_eq_nil (spellable.mapping entry member).foreignValues_eq_nil
  clauses c inside l member := by
    refine requireNoForeign_of_eq_nil ?_
    refine (Formula.foreignValues_eq_nil_iff _).mp spellable.skolemCnf.foreignValues_eq_nil _ ?_
    rw [Formula.atoms_of_clauses _ staged.clauses]
    exact List.mem_map_of_mem (List.mem_flatten_of_mem inside member)

end NormalForms

/-- A level as the datum that is given for it. -/
def LevelSetting.datum : LevelSetting → Datum
  | .int n => .scalar (.int n)
  | .truth b => .scalar (.truth b)

namespace Session

/-- What a text may come to under a limit on its nesting: the forms of its formula, which can all
be written, or an error that its user brought about. -/
inductive Foreseen (limit : Nat) (text : String) : Except Failure NormalForms → Prop where
  | forms {r : NormalForms} (read : Formula.parse text = .ok r.given) (staged : r.Staged)
      (writable : r.Writable) : Foreseen limit text (.ok r)
  | unreadable {e : ReadError} (failed : Formula.parse text = .error e) :
      Foreseen limit text (.error (.unreadable e))
  | tooDeep (deep : NormalForms.TooDeep limit text) : Foreseen limit text (.error .tooDeep)

section

variable {limit : Nat} {text : String}

/-- The errors that are foreseen are reported and not passed on. -/
theorem Foreseen.reported {e : Failure} (foreseen : Foreseen limit text (.error e)) :
    ∃ line, e.report? = some line := by
  cases foreseen with
  | @unreadable e failed =>
      cases e with
      | scan _ => exact ⟨_, rfl⟩
      | parse _ => exact ⟨_, rfl⟩
      | nullInName => exact absurd failed (Formula.parse_ne_nullInName text)
  | tooDeep deep => exact ⟨_, rfl⟩

/-- What a text comes to is foreseen, whatever is logged. -/
theorem ofText_settles (limit : Nat) (text : String) :
    ∃ outcome, (NormalForms.ofText limit text).Settles outcome ∧ Foreseen limit text outcome := by
  cases read : Formula.parse text with
  | ok f =>
      obtain ⟨r, rfl, staged, _, outcome⟩ := NormalForms.exists_forms read
      rcases outcome limit with ⟨found, _⟩ | ⟨deep, refused⟩
      · have spellable := staged.spellable (Formula.spellable_of_parse read)
        exact ⟨.ok r, found, .forms read staged (spellable.writable staged)⟩
      · exact ⟨_, refused, .tooDeep deep⟩
  | error e =>
      rcases NormalForms.readFormula_settles limit text with ⟨failed, _⟩ | ⟨deep, refused⟩
      · rw [read] at failed
        exact ⟨_, failed.bind_error _, .unreadable read⟩
      · exact ⟨_, refused.bind_error _, .tooDeep deep⟩

/-- Options whose level is too long have no text. -/
theorem text?_of_isLong {options : Options} (long : options.level.isLong = true) :
    options.text? = .error .longInteger := by
  rw [LevelSetting.isLong] at long
  rw [Options.text?, Scalar.text?, long]
  rfl

/-- Options whose level can be shown are shown with its name and its value. -/
theorem text?_of_short {options : Options} (short : options.level.isLong = false) :
    options.text? =
      .ok ("Options(" ++ Options.levelName ++ "=" ++ options.level.scalar.shown ++ ")") := by
  rw [LevelSetting.isLong] at short
  rw [Options.text?, Scalar.text?, short]
  rfl

/-- A level with too many digits cannot be shown, and nothing else is done. -/
theorem body_writes_of_isLong (limit : Nat) (text : String) {options : Options}
    (long : options.level.isLong = true) :
    (body limit options text).Writes (.error .longInteger) [] := by
  rw [body, text?_of_isLong long]
  exact (Logged.writes_ofExcept _).bind_error _

/-- Under a level that can be shown, a text comes to what is foreseen for it. -/
theorem body_settles_of_short (limit : Nat) (text : String) {options : Options}
    (short : options.level.isLong = false) :
    ∃ outcome, (body limit options text).Settles outcome ∧ Foreseen limit text outcome := by
  obtain ⟨outcome, settles, foreseen⟩ := ofText_settles limit text
  refine ⟨outcome, .after_ok (text?_of_short short) (.after_note ?_), foreseen⟩
  cases outcome with
  | error e => exact settles.bind_error _
  | ok r => exact settles.bind (.after_note (Logged.settles_pure r))

/-- What a text comes to is foreseen, unless the level is too long to be shown. -/
theorem body_settles (limit : Nat) (options : Options) (text : String) :
    ∃ outcome, (body limit options text).Settles outcome ∧
      (options.level.isLong = false → Foreseen limit text outcome) ∧
      (options.level.isLong = true → outcome = .error .longInteger) := by
  cases long : options.level.isLong with
  | true => exact ⟨_, ⟨_, body_writes_of_isLong limit text long⟩, nofun, fun _ => rfl⟩
  | false =>
      obtain ⟨outcome, settles, foreseen⟩ := body_settles_of_short limit text long
      exact ⟨outcome, settles, fun _ => foreseen, nofun⟩

end

section

variable (s : Session) (limit : Nat) (text : String) {named : List (String × Datum)}
  {options : Options}

/-- The answer to a call with accepted options: their level is in force while the forms are
computed. -/
theorem run_fst (accepted : Options.ofNamed named = .ok options) :
    (s.run limit text named).1 =
      ⟨((body limit options text).runWith
          (Logger.effective ⟨options.level.value, s.logger.parent⟩)).1,
        ((body limit options text).runWith
          (Logger.effective ⟨options.level.value, s.logger.parent⟩)).2⟩ := by
  rw [run, accepted]
  dsimp only
  generalize (body limit options text).runWith _ = ran
  obtain ⟨outcome, log⟩ := ran
  cases outcome <;> rfl

/-- A run comes to what its body comes to, at some threshold of the log. -/
theorem outcome_run (accepted : Options.ofNamed named = .ok options) :
    ∃ threshold, (s.run limit text named).1.outcome =
      ((body limit options text).runWith threshold).1 :=
  ⟨_, congrArg Answer.outcome (s.run_fst limit text accepted)⟩

/-- A call with accepted options comes to what is foreseen for its text, if the options can be
shown. -/
theorem foreseen_run (accepted : Options.ofNamed named = .ok options) :
    (options.level.isLong = false → Foreseen limit text (s.run limit text named).1.outcome) ∧
      (options.level.isLong = true → (s.run limit text named).1.outcome = .error .longInteger) := by
  obtain ⟨threshold, ran⟩ := s.outcome_run limit text accepted
  obtain ⟨outcome, settles, foreseen⟩ := body_settles limit options text
  rwa [ran, settles.outcome_runWith]

end

/-- Integers are accepted as levels, truth values among them. -/
theorem ofNamed_level (level : LevelSetting) :
    Options.ofNamed [(Options.levelName, level.datum)] = .ok ⟨level⟩ := by
  cases level <;> rfl

/-- The first number that is too long to be shown is too long for a level. -/
theorem isLong_longInteger : (LevelSetting.int Expression.longInteger).isLong = true := by
  rw [LevelSetting.isLong, LevelSetting.scalar, Scalar.isLong, Int.natAbs_natCast,
    Expression.isLongInteger]
  exact decide_eq_true le_rfl

/-- With a level that is too long to be shown, the error does not depend on the text. -/
theorem outcome_normalForms_of_isLong (limit : Nat) (text : String) {level : LevelSetting}
    (long : level.isLong = true) :
    (normalForms limit text [(Options.levelName, level.datum)]).outcome = .error .longInteger :=
  (initial.foreseen_run limit text (ofNamed_level level)).2 long

/-- A call with an integer as the level of the log comes to what is foreseen for its text, after
any calls before it as well as in a session of its own, if the level has not too many digits to be
shown; otherwise this is the error. Exactly the errors under a level that can be shown are
reported. -/
theorem foreseen_call (s : Session) (limit : Nat) (text : String) (level : LevelSetting) :
    ∀ outcome ∈ [(s.call limit text [(Options.levelName, level.datum)]).1.outcome,
        (normalForms limit text [(Options.levelName, level.datum)]).outcome],
      (level.isLong = false → Foreseen limit text outcome) ∧
        (level.isLong = true → outcome = .error .longInteger) ∧
        ∀ e, outcome = .error e → ((∃ line, e.report? = some line) ↔ level.isLong = false) := by
  have called (s : Session) :
      let outcome := (s.call limit text [(Options.levelName, level.datum)]).1.outcome
      (level.isLong = false → Foreseen limit text outcome) ∧
        (level.isLong = true → outcome = .error .longInteger) :=
    s.foreseen_run limit text (ofNamed_level level)
  intro outcome member
  have either : (level.isLong = false → Foreseen limit text outcome) ∧
      (level.isLong = true → outcome = .error .longInteger) := by
    simp only [List.mem_cons, List.not_mem_nil, or_false] at member
    rcases member with rfl | rfl
    · exact called s
    · exact called .initial
  refine ⟨either.1, either.2, ?_⟩
  rintro e rfl
  cases long : level.isLong with
  | false => exact iff_of_true (either.1 long).reported rfl
  | true =>
      obtain rfl := Except.error.inj (either.2 long)
      exact iff_of_false nofun nofun

/-- A text that ends too early, with everything logged. -/
theorem foreseen_call_unfinished :
    ∃ e line,
      (initial.call 1 "P(x" [(Options.levelName, (LevelSetting.int 10).datum)]).1.outcome =
        .error e ∧ e.report? = some line := by
  have failed : Formula.parse "P(x" = .error (.parse ⟨.closing, none, 3⟩) := by
    decide +kernel
  have short : (LevelSetting.int 10).isLong = false := by decide +kernel
  obtain ⟨foreseen, _, reported⟩ :=
    foreseen_call initial 1 "P(x" (.int 10) _ List.mem_cons_self
  replace foreseen := foreseen short
  generalize (initial.call 1 "P(x" _).1.outcome = outcome at foreseen reported ⊢
  cases foreseen with
  | forms read _ _ => exact nomatch failed.symm.trans read
  | unreadable _ => exact ⟨_, ((reported _ rfl).mpr short).imp fun line found => ⟨rfl, found⟩⟩
  | tooDeep _ => exact ⟨_, ((reported _ rfl).mpr short).imp fun line found => ⟨rfl, found⟩⟩

/-- The least level that is too long to be shown: the formula is not even read, and the error is
passed on. -/
theorem call_long_level :
    (normalForms 1 "P" [(Options.levelName,
        (LevelSetting.int Expression.longInteger).datum)]).outcome = .error .longInteger ∧
      Failure.longInteger.report? = none :=
  ⟨outcome_normalForms_of_isLong 1 "P" isLong_longInteger, rfl⟩

end Session

end Clausal
