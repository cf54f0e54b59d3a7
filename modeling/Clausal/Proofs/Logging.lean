import Clausal.Log

/-!
# What a logged computation writes

A computation that writes records has an outcome and a list of records that do not
depend on the threshold: the threshold only decides which of the records reach the
log (`Logged.Writes`). The parts of a computation can be joined under that view, so a
computation is described without running it.
-/

namespace Clausal.Logged

variable {ε α β : Type}

/-- Under every threshold the computation has the given outcome, and those of the given
records that reach the threshold are added to the log in order. -/
def Writes (m : Logged ε α) (outcome : Except ε α) (records : List LogRecord) : Prop :=
  ∀ threshold log, ((m.run threshold).run).run log =
    (outcome, log ++ records.filter fun r => threshold ≤ r.severity.rank)

theorem writes_pure (a : α) : (pure a : Logged ε α).Writes (.ok a) [] :=
  fun _ log => congrArg (Prod.mk _) (List.append_nil log).symm

theorem writes_throw (e : ε) : (throw e : Logged ε α).Writes (.error e) [] :=
  fun _ log => congrArg (Prod.mk _) (List.append_nil log).symm

/-- A computation without a log logs nothing. -/
theorem writes_ofExcept (x : Except ε α) : (ofExcept x).Writes x [] :=
  fun _ log => congrArg (Prod.mk _) (List.append_nil log).symm

/-- A note logs its record. -/
theorem writes_note (severity : Severity) (message : String) :
    (note severity message : Logged ε Unit).Writes (.ok ()) [⟨severity, message⟩] := by
  intro threshold log
  by_cases reached : threshold ≤ severity.rank
  · have kept : [LogRecord.mk severity message].filter
        (fun r => threshold ≤ r.severity.rank) = [⟨severity, message⟩] := by
      simp only [List.filter_cons, reached, decide_true, ↓reduceIte, List.filter_nil]
    simp only [kept, ReaderT.run, note, if_pos reached]
    rfl
  · have dropped : [LogRecord.mk severity message].filter
        (fun r => threshold ≤ r.severity.rank) = [] := by
      simp only [List.filter_cons, reached, decide_false, Bool.false_eq_true, ↓reduceIte,
        List.filter_nil]
    simp only [dropped, List.append_nil, ReaderT.run, note, if_neg reached]
    rfl

/-- After a part that succeeds, the computation goes on with its result. -/
theorem Writes.bind {m : Logged ε α} {a : α} {records more : List LogRecord}
    {k : α → Logged ε β} {outcome : Except ε β} (first : m.Writes (.ok a) records)
    (rest : (k a).Writes outcome more) : (m >>= k).Writes outcome (records ++ more) := by
  intro threshold log
  have start := first threshold log
  have finish := rest threshold (log ++ records.filter fun r => threshold ≤ r.severity.rank)
  rw [List.filter_append, ← List.append_assoc, ← finish]
  simp only [ReaderT.run, ExceptT.run, StateT.run] at start ⊢
  simp only [Bind.bind, ReaderT.bind, ExceptT.bind, ExceptT.mk, StateT.bind, start]
  rfl

/-- What comes after an error is not logged. -/
theorem Writes.bind_error {m : Logged ε α} {e : ε} {records : List LogRecord}
    (k : α → Logged ε β) (first : m.Writes (.error e) records) :
    (m >>= k).Writes (.error e) records := by
  intro threshold log
  have start := first threshold log
  simp only [ReaderT.run, ExceptT.run, StateT.run] at start ⊢
  simp only [Bind.bind, ReaderT.bind, ExceptT.bind, ExceptT.mk, StateT.bind, start]
  rfl

/-- After a step that succeeds, the same is written as by what follows. -/
theorem Writes.after_ok {step : Except ε α} {a : α} {k : α → Logged ε β}
    {outcome : Except ε β} {records : List LogRecord} (found : step = .ok a)
    (rest : (k a).Writes outcome records) : (ofExcept step >>= k).Writes outcome records := by
  subst found
  exact (writes_ofExcept (.ok a)).bind rest

/-- Under every threshold the computation has the given outcome, whatever it writes. -/
def Settles (m : Logged ε α) (outcome : Except ε α) : Prop := ∃ records, m.Writes outcome records

/-- A settled outcome is that of a computation that starts with an empty log. -/
theorem Settles.outcome_runWith {m : Logged ε α} {outcome : Except ε α}
    (settles : m.Settles outcome) (threshold : Int) : (m.runWith threshold).1 = outcome := by
  obtain ⟨_, writes⟩ := settles
  exact congrArg Prod.fst (writes threshold [])

/-- A computation settles on one outcome. -/
theorem Settles.unique {m : Logged ε α} {outcome other : Except ε α} (first : m.Settles outcome)
    (second : m.Settles other) : outcome = other :=
  (first.outcome_runWith 0).symm.trans (second.outcome_runWith 0)

theorem settles_pure (a : α) : (pure a : Logged ε α).Settles (.ok a) := ⟨[], writes_pure a⟩

theorem settles_throw (e : ε) : (throw e : Logged ε α).Settles (.error e) := ⟨[], writes_throw e⟩

/-- A record does not change the outcome of what follows it. -/
theorem Settles.after_note {severity : Severity} {message : String} {k : Unit → Logged ε β}
    {outcome : Except ε β} (rest : (k ()).Settles outcome) :
    (note severity message >>= k).Settles outcome := by
  obtain ⟨_, writes⟩ := rest
  exact ⟨_, (writes_note severity message).bind writes⟩

/-- After a step that succeeds, the outcome is that of what follows. -/
theorem Settles.after_ok {step : Except ε α} {a : α} {k : α → Logged ε β}
    {outcome : Except ε β} (found : step = .ok a) (rest : (k a).Settles outcome) :
    (ofExcept step >>= k).Settles outcome := by
  obtain ⟨_, writes⟩ := rest
  exact ⟨_, writes.after_ok found⟩

/-- The same after any part of the computation. -/
theorem Settles.bind {m : Logged ε α} {a : α} {k : α → Logged ε β} {outcome : Except ε β}
    (first : m.Settles (.ok a)) (rest : (k a).Settles outcome) : (m >>= k).Settles outcome := by
  obtain ⟨_, writes⟩ := first
  obtain ⟨_, more⟩ := rest
  exact ⟨_, writes.bind more⟩

/-- After an error nothing is computed. -/
theorem Settles.bind_error {m : Logged ε α} {e : ε} (k : α → Logged ε β)
    (first : m.Settles (.error e)) : (m >>= k).Settles (.error e) := by
  obtain ⟨_, writes⟩ := first
  exact ⟨_, writes.bind_error k⟩

end Clausal.Logged
