import Clausal.Proofs.Session

/-!
# Histories of calls

Calls of one session do not influence each other. Whatever was called before, a call comes to
what it comes to in a session of its own, and what it leaves is told by its own options and its
own outcome (`Session.calls_leave`). For this the logger needs a level of its own, since what a
call restores is the threshold that was in force.

Calls that are not made, because an option has the name of another argument, leave everything
as it was.
-/

namespace Clausal

namespace Session

/-- No option has the name of another argument, so that the call is made. -/
def Made (named : List (String × Datum)) : Prop := ∀ option ∈ named, option.1 ∉ argumentNames

/-- What a call that is made leaves in the session: its own options if they were accepted, and
its own result if there is one. -/
structure Leaves (named : List (String × Datum)) (outcome : Except Failure NormalForms)
    (after : Session) : Prop where
  options : after.options? = (Options.ofNamed named).toOption
  result : after.result? = outcome.toOption
  timed : after.timed = outcome.isOk

/-- The session after some calls. -/
def afterwards (s : Session) (limit : Nat) : List (String × List (String × Datum)) → Session
  | [] => s
  | (text, named) :: rest => (s.call limit text named).2.afterwards limit rest

section

variable {s : Session} {limit : Nat} {text : String} {named : List (String × Datum)}

/-- The session after a call, as the options and the outcome of the call determine it. -/
theorem run_snd (explicit : s.logger.level ≠ 0) (limit : Nat) (text : String)
    (named : List (String × Datum)) :
    (s.run limit text named).2 =
      { options? := (Options.ofNamed named).toOption
        result? := (s.run limit text named).1.outcome.toOption
        timed := (s.run limit text named).1.outcome.isOk
        logger := s.logger } := by
  have restored : s.logger.effective = s.logger.level := if_neg explicit
  rw [run]
  cases Options.ofNamed named with
  | error e => rfl
  | ok options =>
      dsimp only
      rw [restored]
      generalize (body limit options text).runWith _ = ran
      obtain ⟨outcome, log⟩ := ran
      cases outcome <;> rfl

/-- The outcome of a call does not depend on the session. -/
theorem outcome_run_eq (s t : Session) (limit : Nat) (text : String)
    (named : List (String × Datum)) :
    (s.run limit text named).1.outcome = (t.run limit text named).1.outcome := by
  cases accepted : Options.ofNamed named with
  | error e => rw [run, run, accepted]
  | ok options =>
      obtain ⟨first, ran⟩ := s.outcome_run limit text accepted
      obtain ⟨second, ranToo⟩ := t.outcome_run limit text accepted
      obtain ⟨outcome, settles, _⟩ := body_settles limit options text
      rw [ran, ranToo, settles.outcome_runWith, settles.outcome_runWith]

/-- A call whose options have no names of arguments is made. -/
theorem call_of_made (made : Made named) :
    s.call limit text named = s.run limit text named := by
  have unnamed : named.find? (fun option => argumentNames.contains option.1) = none := by
    refine List.find?_eq_none.mpr fun option member => ?_
    rw [List.contains_iff_mem]
    exact made option member
  rw [call, unnamed]

/-- A call that is not made is refused, and nothing else happens. -/
theorem call_of_not_made (s : Session) (limit : Nat) (text : String) (refused : ¬ Made named) :
    ∃ name ∈ argumentNames,
      s.call limit text named = (⟨.error (.repeatedArgument callName name), []⟩, s) := by
  rw [call]
  cases found : named.find? (fun option => argumentNames.contains option.1) with
  | none =>
      refine absurd (fun option member taken => ?_) refused
      exact List.find?_eq_none.mp found option member (List.contains_iff_mem.mpr taken)
  | some option =>
      have taken : argumentNames.contains option.1 = true :=
        List.find?_some (p := fun option : String × Datum => argumentNames.contains option.1) found
      exact ⟨option.1, List.contains_iff_mem.mp taken, rfl⟩

/-- A call leaves the logger at its level, if the level is an explicit one. -/
theorem logger_call (explicit : s.logger.level ≠ 0) :
    (s.call limit text named).2.logger = s.logger := by
  by_cases made : Made named
  · rw [call_of_made made, run_snd explicit]
  · obtain ⟨name, _, refused⟩ := call_of_not_made s limit text made
    rw [refused]

/-- A call comes to the same in a session of its own. -/
theorem outcome_call (s : Session) (limit : Nat) (text : String)
    (textless : ∀ option ∈ named, option.1 ≠ textName) :
    (s.call limit text named).1.outcome = (normalForms limit text named).outcome := by
  have absent : named.lookup textName = none := by
    refine List.lookup_eq_none_iff.mpr fun option member => ?_
    exact bne_iff_ne.mpr (textless option member).symm
  rw [normalForms, absent, if_neg (nomatch ·), call, call]
  cases named.find? (fun option => argumentNames.contains option.1) with
  | some option => rfl
  | none => exact outcome_run_eq s .initial limit text named

/-- In a session of its own, a call that is not made is refused as well. -/
theorem normalForms_of_not_made (refused : ¬ Made named) :
    ∃ caller name,
      (normalForms limit text named).outcome = .error (.repeatedArgument caller name) := by
  rw [normalForms]
  by_cases textual : (named.lookup textName).isSome
  · rw [if_pos textual]
    exact ⟨_, _, rfl⟩
  · obtain ⟨name, _, same⟩ := call_of_not_made .initial limit text refused
    rw [if_neg textual, same]
    exact ⟨_, _, rfl⟩

end

section

variable {s : Session} (limit : Nat) (earlier later : List (String × List (String × Datum)))

theorem calls_cons (text : String) (named : List (String × Datum)) :
    s.calls limit ((text, named) :: later) =
      s.call limit text named :: (s.call limit text named).2.calls limit later := rfl

theorem calls_append :
    s.calls limit (earlier ++ later) =
      s.calls limit earlier ++ (s.afterwards limit earlier).calls limit later := by
  induction earlier generalizing s with
  | nil => rfl
  | cons request earlier ih =>
      rw [List.cons_append, calls_cons, calls_cons, ih, afterwards, List.cons_append]

/-- The logger is restored after every call. -/
theorem logger_afterwards (explicit : s.logger.level ≠ 0) :
    (s.afterwards limit earlier).logger = s.logger := by
  induction earlier generalizing s with
  | nil => rfl
  | cons request earlier ih =>
      have first : (s.call limit request.1 request.2).2.logger = s.logger := logger_call explicit
      rw [afterwards, ih (first ▸ explicit), first]

/-- A session leaks nothing from one call into another. After every call among some calls, the
logger is what it was before the first one. The outcome is that of a session of its own, where
only an option with the name of the text is refused under another name. If the call is made, it
alone tells what is left; and if not, nothing has changed since the call before. -/
theorem calls_leave (explicit : s.logger.level ≠ 0) (text : String)
    (named : List (String × Datum)) :
    ∃ answer after,
      s.calls limit (earlier ++ (text, named) :: later) =
          s.calls limit earlier ++ (answer, after) :: after.calls limit later ∧
        after.logger = s.logger ∧
        ((∀ option ∈ named, option.1 ≠ textName) →
          answer.outcome = (normalForms limit text named).outcome) ∧
        (Made named → Leaves named answer.outcome after) ∧
        (¬ Made named → after = s.afterwards limit earlier ∧
          (∃ name ∈ argumentNames, answer = ⟨.error (.repeatedArgument callName name), []⟩) ∧
          ∃ caller name,
            (normalForms limit text named).outcome = .error (.repeatedArgument caller name)) := by
  have before := logger_afterwards limit earlier explicit
  have stillExplicit : (s.afterwards limit earlier).logger.level ≠ 0 := before ▸ explicit
  refine ⟨((s.afterwards limit earlier).call limit text named).1,
    ((s.afterwards limit earlier).call limit text named).2, calls_append limit earlier _,
    (logger_call stillExplicit).trans before, outcome_call _ limit text, fun made => ?_,
    fun refused => ?_⟩
  · rw [call_of_made made, run_snd stillExplicit]
    exact ⟨rfl, rfl, rfl⟩
  · obtain ⟨name, taken, same⟩ := call_of_not_made (s.afterwards limit earlier) limit text refused
    rw [same]
    exact ⟨rfl, ⟨name, taken, rfl⟩, normalForms_of_not_made refused⟩

end

/-- A call with a level of its own between a text that ends too early and a rejected option. -/
theorem calls_leave_between :
    ∃ answer after,
      initial.calls 1 [("P(", []), ("Q", [(Options.levelName, (LevelSetting.int 10).datum)]),
          ("R", [("level", .scalar .null)])] =
        initial.calls 1 [("P(", [])] ++
          (answer, after) :: after.calls 1 [("R", [("level", .scalar .null)])] ∧
      after.logger = .initial ∧
      answer.outcome =
        (normalForms 1 "Q" [(Options.levelName, (LevelSetting.int 10).datum)]).outcome ∧
      after.options? = some ⟨.int 10⟩ ∧ after.result? = answer.outcome.toOption := by
  have textless : ∀ option ∈ [(Options.levelName, (LevelSetting.int 10).datum)],
      option.1 ≠ textName := List.forall_mem_singleton.mpr (by decide)
  have made : Made [(Options.levelName, (LevelSetting.int 10).datum)] :=
    List.forall_mem_singleton.mpr (by decide)
  obtain ⟨answer, after, called, restored, outcome, leaves, _⟩ :=
    calls_leave (s := initial) 1 [("P(", [])] [("R", [("level", .scalar .null)])] (by decide) "Q"
      [(Options.levelName, (LevelSetting.int 10).datum)]
  exact ⟨answer, after, called, restored, outcome textless, (leaves made).options,
    (leaves made).result⟩

/-- A call that is not made ends in an error, but what was left before is still there. -/
theorem calls_self_keeps :
    ∃ first between answer after,
      initial.calls 0 [("P", []), ("Q", [("self", .scalar (.int 1))])] =
          [(first, between), (answer, after)] ∧
        (∃ e, answer.outcome = .error e) ∧ after.result?.isSome = true ∧ after.timed = true ∧
        after.options? = some .default := by
  have read : Formula.parse "P" = .ok (.atom (.pred "P" [])) := by
    decide +kernel
  have shallow : ¬ NormalForms.TooDeep 0 "P" := by
    rintro ⟨s, scanned, deep⟩
    have tokens : scan "P" = .ok ⟨[⟨.ident "P", 0⟩], 1⟩ := by
      decide +kernel
    obtain rfl := Except.ok.inj (tokens.symm.trans scanned)
    rcases deep with cut | ⟨f, readToo, nested⟩
    · exact cut rfl
    · obtain rfl := Except.ok.inj (read.symm.trans readToo)
      exact absurd nested (by decide)
  have made : ∃ r, (initial.run 0 "P" []).1.outcome = .ok r := by
    have accepted : Options.ofNamed [] = .ok .default := rfl
    have foreseen := (foreseen_run initial 0 "P" accepted).1 (by decide +kernel)
    generalize (initial.run 0 "P" []).1.outcome = outcome at foreseen
    cases foreseen with
    | @forms r _ _ _ => exact ⟨r, rfl⟩
    | unreadable failed => exact nomatch read.symm.trans failed
    | tooDeep deep => exact absurd deep shallow
  obtain ⟨r, made⟩ := made
  have left := run_snd (s := initial) (by decide) 0 "P" []
  rw [made] at left
  have called : initial.call 0 "P" [] = initial.run 0 "P" [] := call_of_made nofun
  have refused (s : Session) : s.call 0 "Q" [("self", .scalar (.int 1))] =
      (⟨.error (.repeatedArgument callName "self"), []⟩, s) := rfl
  refine ⟨(initial.run 0 "P" []).1, (initial.run 0 "P" []).2,
    ⟨.error (.repeatedArgument callName "self"), []⟩, (initial.run 0 "P" []).2, ?_, ⟨_, rfl⟩, ?_⟩
  · rw [calls_cons, calls_cons, called, refused]
    rfl
  rw [left]
  exact ⟨rfl, rfl, rfl⟩

end Session

end Clausal
