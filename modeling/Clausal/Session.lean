import Clausal.NormalForms

/-!
# Sessions

A session computes the normal forms of one text after the other, each call with
options of its own, and remembers the outcome of the last call. A call sets the
level of the logger for its own duration and restores it on every way out. A
call whose options take the names of its other arguments is not made at all. How
deep a formula may be nested is a parameter of every call.
-/

namespace Clausal

/-- A log level as it was given. A truth value counts as one or zero but is
still shown as a truth value. -/
inductive LevelSetting where
  | int (n : Int)
  | truth (b : Bool)
  deriving DecidableEq

namespace LevelSetting

def value : LevelSetting → Int
  | .int n => n
  | .truth b => if b then 1 else 0

/-- The level as it was given. -/
def scalar : LevelSetting → Scalar
  | .int n => .int n
  | .truth b => .truth b

/-- A level has too many digits to be written. -/
def isLong (level : LevelSetting) : Bool := level.scalar.isLong

end LevelSetting

/-- The options of a call. -/
structure Options where
  level : LevelSetting
  deriving DecidableEq

namespace Options

/-- The name of the one option. -/
def levelName : String := "log_level"

/-- Without options, the level of the parent of the logger applies. -/
def default : Options := ⟨.int 0⟩

/-- The options with another log level, which has to be an integer. It need not be one that
can be written. -/
def withLevel : Datum → Except Failure Options
  | .scalar (.int n) => .ok ⟨.int n⟩
  | .scalar (.truth b) => .ok ⟨.truth b⟩
  | level => do
      let text ← level.text?
      .error (.badLevel text)

/-- The options that named values stand for. Unknown names are reported before
unfit values. -/
def ofNamed (named : List (String × Datum)) : Except Failure Options :=
  match named.find? fun (name, _) => name ≠ levelName with
  | some (name, _) => .error (.unknownOption name)
  | none =>
      match named.lookup levelName with
      | some level => withLevel level
      | none => .ok default

/-- The text of the options, unless their level has too many digits. -/
def text? (o : Options) : Except Failure String := do
  let level ← o.level.scalar.text?
  .ok ("Options(" ++ levelName ++ "=" ++ level ++ ")")

end Options

/-- The outcome of a call and what it wrote to the log. -/
structure Answer where
  outcome : Except Failure NormalForms
  log : List LogRecord

/-- What a session remembers: the options and the result of the last call,
whether that call was timed to its end, and the logger. -/
structure Session where
  options? : Option Options
  result? : Option NormalForms
  timed : Bool
  logger : Logger

namespace Session

/-- A session before its first call. -/
def initial : Session := ⟨none, none, false, .initial⟩

/-- A call that has accepted its options, as the log tells it. The options are written first,
at every level of the log. -/
def body (limit : Nat) (options : Options) (text : String) : Logged Failure NormalForms := do
  let shown ← Logged.ofExcept options.text?
  Logged.note .info shown
  let result ← NormalForms.ofText limit text
  Logged.note .info "finished"
  pure result

def textName : String := "text"

/-- The names that the arguments of a call have: the session and the text. -/
def argumentNames : List String := ["self", textName]

def callName : String := "NormalFormPipeline.__call__"

/-- What a call does once its arguments are told apart. Rejected options leave
the logger alone. -/
def run (s : Session) (limit : Nat) (text : String) (named : List (String × Datum)) :
    Answer × Session :=
  let reset : Session := { options? := none, result? := none, timed := false, logger := s.logger }
  match Options.ofNamed named with
  | .error e => (⟨.error e, []⟩, reset)
  | .ok options =>
      let saved := s.logger.effective
      let during : Logger := { s.logger with level := options.level.value }
      let (outcome, log) := (body limit options text).runWith during.effective
      let restored : Session :=
        { reset with options? := some options, logger := { during with level := saved } }
      match outcome with
      | .ok result => (⟨.ok result, log⟩, { restored with result? := some result, timed := true })
      | .error e => (⟨.error e, log⟩, restored)

/-- A call with the given options. An option with the name of another argument
leaves everything as it was. -/
def call (s : Session) (limit : Nat) (text : String) (named : List (String × Datum)) :
    Answer × Session :=
  match named.find? fun (name, _) => argumentNames.contains name with
  | some (name, _) => (⟨.error (.repeatedArgument callName name), []⟩, s)
  | none => s.run limit text named

/-- The calls of a session one after the other, each with the session after
it. -/
def calls (s : Session) (limit : Nat) :
    List (String × List (String × Datum)) → List (Answer × Session)
  | [] => []
  | (text, named) :: rest =>
      let (answer, after) := s.call limit text named
      (answer, after) :: after.calls limit rest

end Session

/-- The name of `normalForms` in messages. -/
def normalFormsName : String := "pipeline"

/-- All normal forms of a text, computed in a session of their own. -/
def normalForms (limit : Nat) (text : String) (named : List (String × Datum)) : Answer :=
  if (named.lookup Session.textName).isSome then
    ⟨.error (.repeatedArgument normalFormsName Session.textName), []⟩
  else (Session.initial.call limit text named).1

end Clausal
