import Clausal.Proofs.Session

/-!
# Levels of the log

A level of the log that can be shown has no influence on what a call comes to: for every text there
are one outcome and one list of records, and the level only decides from which severity on the
records are shown (`Session.exists_answerAt`). Two levels can therefore be compared, and the log
under the higher one is a part of the log under the lower one (`Session.log_threshold`). A level
that cannot be shown makes every call an error.
-/

namespace Clausal

/-- The threshold that a level puts in force. At level zero it is that of the parent, which
shows warnings only. -/
def LevelSetting.threshold (level : LevelSetting) : Int :=
  Logger.effective ⟨level.value, Logger.warning⟩

/-- Every record is below a warning. -/
theorem Severity.rank_le_info (severity : Severity) : severity.rank ≤ Severity.info.rank := by
  cases severity <;> decide

namespace NormalForms

/-- Nothing is logged while a text is read, unless it is too deep. -/
theorem readFormula_silent (limit : Nat) (text : String) :
    (∃ outcome, (readFormula limit text).Writes outcome []) ∨
      ∃ records, (readFormula limit text).Writes (.error .tooDeep) records := by
  have refused : ∃ records, (refuseDeep : Logged Failure Formula).Writes (.error .tooDeep)
      records := refuseDeep_settles
  rw [readFormula]
  cases scan text with
  | error e => exact .inl ⟨_, (Logged.writes_ofExcept _).bind_error _⟩
  | ok s =>
      suffices read : _ ∨ _ from
        read.imp (Exists.imp fun _ => .after_ok rfl) (Exists.imp fun _ => .after_ok rfl)
      dsimp only
      cases Reader.complete (splitAtDepth limit s.tokens).1 with
      | error refusal =>
          dsimp only
          split
          · exact .inr refused
          · exact .inl ⟨_, Logged.writes_throw _⟩
      | ok f =>
          dsimp only
          split
          · exact .inr refused
          · exact .inl ⟨_, Logged.writes_pure f⟩

/-- What is logged for a text. If the text cannot be read, that is nothing. -/
theorem ofText_writes (limit : Nat) (text : String) :
    ∃ outcome records, (ofText limit text).Writes outcome records ∧
      ∀ e, outcome = .error (.unreadable e) → records = [] := by
  rcases readFormula_silent limit text with ⟨outcome, silent⟩ | ⟨records, refused⟩
  · cases outcome with
    | error e => exact ⟨_, _, silent.bind_error _, fun _ _ => rfl⟩
    | ok f =>
        have settled : (readFormula limit text).Settles (.ok f) := ⟨_, silent⟩
        have read : Formula.parse text = .ok f := by
          rcases readFormula_settles limit text with ⟨found, _⟩ | ⟨_, refused⟩
          · exact Formula.mapError_eq_ok_iff.mp (found.unique settled)
          · exact nomatch refused.unique settled
        obtain ⟨r, _, _, ⟨records, writes⟩, _⟩ := exists_forms read
        exact ⟨.ok r, _, silent.bind writes, fun _ impossible => nomatch impossible⟩
  · exact ⟨_, _, refused.bind_error _, fun _ impossible => nomatch impossible⟩

end NormalForms

namespace Session

/-- The answer for a text with a level of the log, in a session of its own. -/
def answerAt (limit : Nat) (text : String) (level : LevelSetting) : Answer :=
  normalForms limit text [(Options.levelName, level.datum)]

/-- The record that shows the options of a call, if their level can be shown. -/
def optionsRecord (level : LevelSetting) : LogRecord :=
  ⟨.info, "Options(" ++ Options.levelName ++ "=" ++ level.scalar.shown ++ ")"⟩

/-- A log that starts with the options, when another level is shown in these. -/
def retold (level : LevelSetting) : List LogRecord → List LogRecord
  | [] => []
  | _ :: records => optionsRecord level :: records

/-- The records of a call with accepted options that can be shown, of which only the first depends
on these. -/
theorem body_writes (limit : Nat) (text : String) :
    ∃ outcome records,
      (∀ level, level.isLong = false →
        (body limit ⟨level⟩ text).Writes outcome (optionsRecord level :: records)) ∧
      ∀ e, outcome = .error (.unreadable e) → records = [] := by
  obtain ⟨outcome, records, writes, silent⟩ := NormalForms.ofText_writes limit text
  cases outcome with
  | error e =>
      exact ⟨.error e, records,
        fun level short => .after_ok (text?_of_short short)
          ((Logged.writes_note _ _).bind (writes.bind_error _)), silent⟩
  | ok r =>
      exact ⟨.ok r, _,
        fun level short => .after_ok (text?_of_short short)
          ((Logged.writes_note _ _).bind
            (writes.bind ((Logged.writes_note _ _).bind (Logged.writes_pure r)))),
        fun _ impossible => nomatch impossible⟩

/-- What a call leaves in its log is what it writes at the threshold of its level. -/
theorem answerAt_of_writes {limit : Nat} {text : String} {level : LevelSetting}
    {outcome : Except Failure NormalForms} {records : List LogRecord}
    (writes : (body limit ⟨level⟩ text).Writes outcome records) :
    answerAt limit text level =
      ⟨outcome, records.filter fun r => level.threshold ≤ r.severity.rank⟩ := by
  have ran : (body limit ⟨level⟩ text).runWith level.threshold =
      (outcome, records.filter fun r => level.threshold ≤ r.severity.rank) :=
    writes level.threshold []
  change (initial.run limit text [(Options.levelName, level.datum)]).1 = _
  rw [run_fst initial limit text (ofNamed_level level)]
  exact congrArg (fun result => Answer.mk result.1 result.2) ran

/-- A level with too many digits ends a call before anything is logged. -/
theorem answerAt_of_isLong (limit : Nat) (text : String) {level : LevelSetting}
    (long : level.isLong = true) : answerAt limit text level = ⟨.error .longInteger, []⟩ :=
  answerAt_of_writes (body_writes_of_isLong limit text long)

/-- Under a level that can be shown, a text comes to what is foreseen for it. -/
theorem foreseen_answerAt (limit : Nat) (text : String) {level : LevelSetting}
    (short : level.isLong = false) : Foreseen limit text (answerAt limit text level).outcome :=
  (initial.foreseen_run limit text (ofNamed_level level)).1 short

/-- For every text there are one outcome and one list of records, whatever the level is that can
be shown. -/
theorem exists_answerAt (limit : Nat) (text : String) :
    ∃ outcome records,
      (∀ level, level.isLong = false → answerAt limit text level =
        ⟨outcome, (optionsRecord level :: records).filter
          fun r => level.threshold ≤ r.severity.rank⟩) ∧
      ∀ e, outcome = .error (.unreadable e) → records = [] := by
  obtain ⟨outcome, records, writes, silent⟩ := body_writes limit text
  exact ⟨outcome, records, fun level short => answerAt_of_writes (writes level short), silent⟩

section

variable {k l : LevelSetting} (records : List LogRecord)

/-- Above the severity of all records, nothing is shown. -/
theorem shown_eq_nil {threshold : Int} (above : Severity.info.rank < threshold) :
    (records.filter fun r => threshold ≤ r.severity.rank) = [] := by
  refine List.filter_eq_nil_iff.mpr fun r _ => ?_
  rw [decide_eq_true_eq]
  exact not_le.mpr (lt_of_le_of_lt r.severity.rank_le_info above)

theorem shown_cons {threshold : Int} (reached : threshold ≤ Severity.info.rank) :
    ((optionsRecord k :: records).filter fun r => threshold ≤ r.severity.rank) =
      optionsRecord k :: records.filter fun r => threshold ≤ r.severity.rank :=
  List.filter_cons_of_pos (decide_eq_true reached)

/-- What a higher level shows can be told from what a lower level shows. -/
theorem shown_of_le (raised : k.threshold ≤ l.threshold) :
    (optionsRecord l :: records).filter (fun r => l.threshold ≤ r.severity.rank) =
      (retold l ((optionsRecord k :: records).filter fun r =>
        k.threshold ≤ r.severity.rank)).filter fun r => l.threshold ≤ r.severity.rank := by
  by_cases reached : k.threshold ≤ Severity.info.rank
  · have both :
        (fun r : LogRecord => decide (l.threshold ≤ r.severity.rank) &&
          decide (k.threshold ≤ r.severity.rank)) =
        fun r => decide (l.threshold ≤ r.severity.rank) := by
      funext r
      rw [← Bool.decide_and, decide_eq_decide]
      exact and_iff_left_of_imp raised.trans
    rw [shown_cons _ reached, retold, List.filter_cons, List.filter_cons, List.filter_filter, both]
  · have above := not_le.mp reached
    rw [shown_eq_nil _ above, shown_eq_nil _ (above.trans_le raised)]
    rfl

end

/-- The level of the log does not interfere with what is computed, and it is a threshold: the log
under a higher level consists of the records under the lower one that are severe enough, in the
same order, where the first one shows the options as they were given. If a text cannot be read,
the error comes right after that one. All this holds of levels that can be shown; a level with too
many digits is an error of its own, and nothing is logged. -/
theorem log_threshold (limit : Nat) (text : String) (k l : LevelSetting) :
    (k.isLong = false → l.isLong = false →
      (answerAt limit text k).outcome = (answerAt limit text l).outcome ∧
        (∀ r ∈ (answerAt limit text k).log.head?, r = optionsRecord k) ∧
        (k.threshold ≤ l.threshold → (answerAt limit text l).log =
          (retold l (answerAt limit text k).log).filter fun r => l.threshold ≤ r.severity.rank) ∧
        ∀ e, (answerAt limit text k).outcome = .error (.unreadable e) →
          (answerAt limit text k).log =
            [optionsRecord k].filter fun r => k.threshold ≤ r.severity.rank) ∧
      (k.isLong = true → answerAt limit text k = ⟨.error .longInteger, []⟩) := by
  refine ⟨fun short shortToo => ?_, answerAt_of_isLong limit text⟩
  obtain ⟨outcome, records, answered, silent⟩ := exists_answerAt limit text
  rw [answered k short, answered l shortToo]
  refine ⟨rfl, fun r first => ?_, shown_of_le records, fun e failed => ?_⟩
  · dsimp only at first
    by_cases reached : k.threshold ≤ Severity.info.rank
    · rw [shown_cons _ reached] at first
      exact (Option.some.inj first).symm
    · rw [shown_eq_nil _ (not_le.mp reached)] at first
      exact nomatch first
  · rw [silent e failed]

/-- A text with a sign that is not known, first with everything shown and then with less. -/
theorem log_threshold_unknown :
    (LevelSetting.int 10).threshold ≤ (LevelSetting.int 20).threshold ∧
      (answerAt 1 "P $" (.int 10)).log = [⟨.info, "Options(log_level=10)"⟩] ∧
      (answerAt 1 "P $" (.int 20)).log = [⟨.info, "Options(log_level=20)"⟩] := by
  have raised : (LevelSetting.int 10).threshold ≤ (LevelSetting.int 20).threshold := by decide
  have short : (LevelSetting.int 10).isLong = false ∧ (LevelSetting.int 20).isLong = false := by
    exact ⟨by decide +kernel, by decide +kernel⟩
  have failed : scan "P $" = .error ⟨.unrecognized, "$", 2⟩ := by
    decide +kernel
  obtain ⟨_, _, compared, silent⟩ :=
    (log_threshold 1 "P $" (.int 10) (.int 20)).1 short.1 short.2
  have unreadable : ∃ e, (answerAt 1 "P $" (.int 10)).outcome = .error (.unreadable e) := by
    have foreseen := foreseen_answerAt 1 "P $" short.1
    generalize (answerAt 1 "P $" (.int 10)).outcome = outcome at foreseen
    cases foreseen with
    | forms read _ _ => exact nomatch (Formula.parse_of_scan_error failed).symm.trans read
    | @unreadable e _ => exact ⟨e, rfl⟩
    | tooDeep deep =>
        obtain ⟨s, scanned, _⟩ := deep
        exact nomatch failed.symm.trans scanned
  obtain ⟨e, unreadable⟩ := unreadable
  have lower : (answerAt 1 "P $" (.int 10)).log = [⟨.info, "Options(log_level=10)"⟩] :=
    silent e unreadable
  refine ⟨raised, lower, ?_⟩
  rw [compared raised, lower]
  rfl

/-- A level that can be shown and one that cannot: the same text does not come to the same. -/
theorem answerAt_long_ne :
    (answerAt 1 "P $" (.int 10)).outcome ≠
      (answerAt 1 "P $" (.int Expression.longInteger)).outcome := by
  have short : (LevelSetting.int 10).isLong = false := by decide +kernel
  rw [answerAt_of_isLong 1 "P $" isLong_longInteger]
  intro same
  have foreseen := foreseen_answerAt 1 "P $" short
  rw [same] at foreseen
  cases foreseen

end Session

end Clausal
