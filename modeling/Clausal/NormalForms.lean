import Clausal.Apart
import Clausal.Clause.Horn
import Clausal.Distribution
import Clausal.Failure
import Clausal.Log
import Clausal.Prenex
import Clausal.Skolem
import Clausal.Token.Nesting

/-!
# All normal forms of a formula

A text is brought into every normal form at once. Each form is computed from an
earlier one and all of them are kept; a log tells their sizes. A text that is
nested too deeply is refused before any form is computed.
-/

namespace Clausal

/-- All forms of one formula, in the order in which they are computed. -/
structure NormalForms where
  /-- The formula as it was read. -/
  given : Formula
  arrowless : Formula
  nnf : Formula
  apart : Formula
  /-- The quantifiers of the formula standardized apart. -/
  binders : Prefix
  /-- The matrix of the formula standardized apart. -/
  matrix : Formula
  cnf : Formula
  dnf : Formula
  skolem : Skolemized
  /-- The conjunctive normal form of the Skolem form. -/
  skolemCnf : Formula
  /-- The clauses of that form. -/
  clauses : List Clause
  /-- Which of the clauses are Horn. -/
  horn : HornReport

namespace Formula

/-- The formula standardized apart, if its terms can be named. -/
def apart? (f : Formula) : Except Failure Formula := f.withTerms.map apart

/-- The conjunctive normal form. -/
def cnf? (f : Formula) : Except Failure Formula :=
  f.cnf.mapError (failureAt .notLiteralTree)

/-- The disjunctive normal form. -/
def dnf? (f : Formula) : Except Failure Formula :=
  f.dnf.mapError (failureAt .notLiteralTree)

/-- The clauses of a formula in conjunctive normal form. -/
def clauses? (f : Formula) : Except Failure (List Clause) :=
  f.clauses.mapError (failureAt .notLiteral)

end Formula

/-- The Skolem form of a prenex formula, if the terms of its matrix can be
named. -/
def skolemize? (p : Prefix) (matrix : Formula) : Except Failure Skolemized :=
  matrix.withTerms.map (skolemize p)

namespace NormalForms

/-- The prenex conjunctive normal form. -/
def pcnf (r : NormalForms) : Formula := r.cnf.quantify r.binders

/-- The prenex disjunctive normal form. -/
def pdnf (r : NormalForms) : Formula := r.dnf.quantify r.binders

/-- The forms for typesetting, each under its name. -/
def displays (r : NormalForms) : List (String × String) :=
  [("original", r.given.latex), ("no_imp_iff", r.arrowless.latex), ("nnf", r.nnf.latex),
    ("standardized", r.apart.latex), ("prenex", r.binders.display r.matrix),
    ("pcnf", r.binders.display r.cnf), ("pdnf", r.binders.display r.dnf),
    ("skolem", r.skolem.matrix.latex), ("clauses", displayClauses r.clauses)]

def mappingText (mapping : List (String × Term)) : String :=
  "[" ++ String.intercalate ", "
    (mapping.map fun (x, t) => "(" ++ x ++ ", " ++ t.write .spaced ++ ")") ++ "]"

def refuseDeep {α : Type} : Logged Failure α := do
  Logged.note .info "recursion limit exceeded"
  throw .tooDeep

/-- The formula that a text spells, unless it is nested deeper than a limit. It is
read up to the first token that is too deep, so an error before that token counts. -/
def readFormula (limit : Nat) (text : String) : Logged Failure Formula := do
  let scanned ← Logged.ofExcept ((scan text).mapError fun e => .unreadable (.scan e))
  let (shallow, rest) := splitAtDepth limit scanned.tokens
  match Reader.complete shallow with
  | .error refusal =>
      if !rest.isEmpty && refusal.found.isNone then refuseDeep
      else throw (.unreadable (.parse (refusal.at scanned.finish)))
  | .ok f => if !rest.isEmpty || f.nesting > limit then refuseDeep else pure f

def sizeText (name : String) (f : Formula) : String :=
  name ++ ": depth " ++ Nat.repr f.depth ++ ", " ++ Nat.repr f.atoms.length ++ " atoms"

def noteSize (name : String) (f : Formula) : Logged Failure Unit :=
  Logged.note .debug (sizeText name f)

/-- All forms of a formula. -/
def ofFormula (given : Formula) : Logged Failure NormalForms := do
  noteSize "original" given
  let arrowless := given.withoutArrows
  noteSize "no_imp_iff" arrowless
  let nnf := arrowless.nnf false
  noteSize "nnf" nnf
  let apart ← Logged.ofExcept nnf.apart?
  noteSize "standardized" apart
  let (binders, matrix) := apart.prenex
  Logged.note .debug ("prefix: " ++ binders.unicode)
  noteSize "matrix" matrix
  let cnf ← Logged.ofExcept matrix.cnf?
  noteSize "cnf" cnf
  let dnf ← Logged.ofExcept matrix.dnf?
  noteSize "dnf" dnf
  let skolem ← Logged.ofExcept (skolemize? binders matrix)
  Logged.note .debug ("skolem mapping: " ++ mappingText skolem.mapping)
  let skolemCnf ← Logged.ofExcept skolem.matrix.cnf?
  noteSize "skolem_cnf" skolemCnf
  let clauses ← Logged.ofExcept skolemCnf.clauses?
  Logged.note .debug ("found " ++ Nat.repr clauses.length ++ " clauses")
  let horn := HornReport.ofClauses clauses
  Logged.note .info horn.applicative
  pure { given, arrowless, nnf, apart, binders, matrix, cnf, dnf, skolem, skolemCnf, clauses, horn }

/-- All forms of the formula that a text spells. -/
def ofText (limit : Nat) (text : String) : Logged Failure NormalForms := do
  ofFormula (← readFormula limit text)

end NormalForms

end Clausal
