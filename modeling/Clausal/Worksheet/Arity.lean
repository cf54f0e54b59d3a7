import Clausal.Worksheet.Construction
import Clausal.Worksheet.Operation

/-!
# Numbers of arguments

Every operation counts its arguments before it looks at any of them. Functions name
the arguments that are missing; where an operation only takes its arguments from a
list, the list is too short, and what is left over is not looked at.
-/

namespace Clausal.Worksheet

/-- The arguments that an operation takes, and what it says about their number. -/
inductive Arity where
  | atLeast (needed : Nat)
  | listed (needed : Nat)
  | single (function : String)
  | named (function : String) (names : List String)
  /-- The arguments of something that is applied and counts as one of them. -/
  | bound (function : String) (names : List String)
  /-- The arguments of a function, of which the first is taken from a list and the
  last may be missing. What is applied may count as one of them. -/
  | optional (function : String) (owners : Nat)
  | pair

namespace Arity

/-- The fault of a function that gets a number of arguments other than it takes. -/
def mismatch? (function : String) (names : List String) (owners given : Nat) : Option Fault :=
  if given < names.length then some (.missing function (names.drop given))
  else if names.length < given then
    some (.surplus function (names.length + owners) (given + owners))
  else none

/-- The fault of a number of arguments, if there is one. -/
def fault? (given : Nat) : Arity → Option Fault
  | .atLeast needed => if given < needed then some (.outOfRange .list) else none
  | .listed needed => if given < needed then some (.outOfRange .list) else none
  | .single function => if given = 1 then none else some (.notOne function given)
  | .named function names => mismatch? function names 0 given
  | .bound function names => mismatch? function names 1 given
  | .optional function owners =>
      if given = 0 then some (.outOfRange .list)
      else if given ≤ 2 then none
      else some (.surplusRange function (1 + owners) (2 + owners) (given + owners))
  | .pair =>
      if given = 2 then none else some (if given < 2 then .shortPair given else .longPair)

/-- The arguments that are looked at. -/
def taken {α : Type} (args : List α) : Arity → List α
  | .listed needed => args.take needed
  | _ => args

end Arity

/-- The arguments that an operation takes. Building formulas and plain texts has
rules of its own. -/
def Operation.arity : Operation → Arity
  | .variable => .bound "Symbol.__new__" ["name"]
  | .integer => .bound "Integer.__new__" ["i"]
  | .application => .atLeast 1
  | .predicate => .atLeast 1
  | .formula _ => .atLeast 0
  | .list => .atLeast 0
  | .tuple => .atLeast 0
  | .binders => .atLeast 0
  | .substitute => .atLeast 1
  | .plainText => .atLeast 0
  | .literal => .optional "Literal.__init__" 1
  | .termText => .optional "term_as_str" 0
  | .copy => .named "copy" ["x"]
  | .entry => .pair
  | .length => .single "len"
  | .applicative => .single "repr"
  | .withoutArrows => .named "eliminate_imp_iff" ["f"]
  | .nnf false => .named "to_nnf" ["f"]
  | .apart => .bound "StandardizeApart.__call__" ["f"]
  | .prenex => .bound "PrenexNormalForm.__call__" ["f"]
  | .cnf => .bound "BooleanNormalForm.__call__" ["f"]
  | .dnf => .bound "BooleanNormalForm.__call__" ["f"]
  | .skolemize => .bound "Skolemization.__call__" ["prefix", "matrix"]
  | .clauses => .bound "ClauseExtraction.__call__" ["f"]
  | .horn => .named "horn_report" ["clauses"]
  | .display => .named "formula_to_display" ["f"]
  | .prenexDisplay => .named "prenex_to_display" ["prefix", "matrix"]
  | .clausesDisplay => .named "clauses_to_display" ["clauses"]
  | .isVariable => .named "is_variable" ["term"]
  | .isApplication => .named "is_function_app" ["term"]
  | .isTerm => .named "is_term" ["term"]
  | .termName => .named "term_name" ["term"]
  | .termArguments => .named "term_args" ["term"]
  | .termLatex => .named "term_as_latex" ["term"]
  | .termNames => .named "term_names" ["term"]
  | .sign _ => .listed 2
  | .same => .listed 2
  | .item => .listed 2
  | .quantify => .listed 2
  | .pretty => .listed 2
  | _ => .listed 1

end Clausal.Worksheet
