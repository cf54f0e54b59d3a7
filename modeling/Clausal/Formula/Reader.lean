import Clausal.Token.Application
import Clausal.Token.Scan

/-!
# Reading formulas

A formula is read from its tokens by descent. The binary connectives bind, from
loosest to tightest, as equivalence, implication, disjunction and conjunction,
and all of them associate to the left; negations and quantifiers bind tighter
than any of them. A group in brackets is a formula again.

A reader takes tokens from the front of a list and returns what it read with the
tokens it left. Nested readers descend by a bound on the nesting. The number of
tokens is such a bound, since every level takes at least one; a reader without
any descent left has therefore seen all tokens and reports the end of the input.

An identifier starts a predicate as well as an equation. The side of an equation
is recognized by looking ahead for a whole term; as nothing depends on why there
is none, looking ahead only says whether there is one.
-/

namespace Clausal

/-- What a reader would have accepted. -/
inductive Wanted where
  | formula
  | identifier
  | closing
  | finish
  deriving DecidableEq

/-- What a reader wanted, and the token it found instead. There is no token at
the end of the input. -/
structure Refusal where
  wanted : Wanted
  found : Option Token
  deriving DecidableEq

/-- The tokens of a text are no formula from a position on. -/
structure ParseError where
  wanted : Wanted
  found : Option Lexeme
  pos : Nat
  deriving DecidableEq

def describe : Option Lexeme → String
  | some (.ident name) => "identifier " ++ Text.quoted name
  | some lexeme => lexeme.label
  | none => "end of input"

/-- The complaint of a parse error, without its position. -/
def ParseError.complaint (e : ParseError) : String :=
  match e.wanted with
  | .formula => "unexpected " ++ describe e.found
  | .identifier => "expected " ++ (Lexeme.ident "").label ++ " but found " ++ describe e.found
  | .closing => "expected " ++ Lexeme.closing.label ++ " but found " ++ describe e.found
  | .finish => "unexpected " ++ describe e.found ++ " after complete formula"

def ParseError.message (e : ParseError) : String :=
  e.complaint ++ " at position " ++ Nat.repr e.pos

/-- A reader of the tokens at the front of a list. -/
abbrev Reader (α : Type) := List Token → Except Refusal (α × List Token)

namespace Reader

variable {α : Type}

def identifier : Reader String
  | ⟨.ident name, _⟩ :: ts => .ok (name, ts)
  | ts => .error ⟨.identifier, ts.head?⟩

def closing : Reader Unit
  | ⟨.closing, _⟩ :: ts => .ok ((), ts)
  | ts => .error ⟨.closing, ts.head?⟩

/-- Reads further items, each after a comma. -/
def more (item : Reader α) : (bound : Nat) → Reader (List α)
  | bound + 1, ⟨.comma, _⟩ :: ts => do
      let (a, ts) ← item ts
      let (as, ts) ← more item bound ts
      .ok (a :: as, ts)
  | _, ts => .ok ([], ts)

/-- Reads one or more items with commas between them. -/
def separated (item : Reader α) : Reader (List α) := fun ts => do
  let (a, ts) ← item ts
  let (as, ts) ← more item ts.length ts
  .ok (a :: as, ts)

/-- Reads an argument list after its opening bracket. -/
def arguments (item : Reader α) : Reader (List α)
  | ⟨.closing, _⟩ :: ts => .ok ([], ts)
  | ts => do
      let (as, ts) ← separated item ts
      let ((), ts) ← closing ts
      .ok (as, ts)

/-- Reads a term. An application without arguments is a symbol. -/
def term : (bound : Nat) → Reader Term
  | 0, ts => .error ⟨.identifier, ts.head?⟩
  | bound + 1, ts => do
      let (name, ts) ← identifier ts
      match ts with
      | ⟨.opening, _⟩ :: ts =>
          let (args, ts) ← arguments (term bound) ts
          .ok (Term.applied name args, ts)
      | ts => .ok (.sym name, ts)

/-- Reads a predicate with its arguments, if brackets follow its name. -/
def predicate : Reader Atom := fun ts => do
  let (name, ts) ← identifier ts
  match ts with
  | ⟨.opening, _⟩ :: ts =>
      let (args, ts) ← arguments (term ts.length) ts
      .ok (.pred name args, ts)
  | ts => .ok (.pred name [], ts)

end Reader

namespace Lookahead

variable {α : Type}

/-- The items up to the bracket that closes them, each after a comma. -/
def more? (item : List Token → Option (α × List Token)) :
    (bound : Nat) → List Token → Option (List α × List Token)
  | _, ⟨.closing, _⟩ :: ts => some ([], ts)
  | bound + 1, ⟨.comma, _⟩ :: ts =>
      match item ts with
      | some (a, ts) => (more? item bound ts).map fun (as, ts) => (a :: as, ts)
      | none => none
  | _, _ => none

/-- The term at the front of a list of tokens, if there is one. -/
def term? : (bound : Nat) → List Token → Option (Term × List Token)
  | bound + 1, ⟨.ident name, _⟩ :: ⟨.opening, _⟩ :: ts =>
      match ts with
      | ⟨.closing, _⟩ :: ts => some (.sym name, ts)
      | ts =>
          match term? bound ts with
          | some (arg, ts) =>
              (more? (term? bound) ts.length ts).map fun (args, ts) => (.app name (arg :: args), ts)
          | none => none
  | _ + 1, ⟨.ident name, _⟩ :: ts => some (.sym name, ts)
  | _, _ => none

end Lookahead

namespace Reader

/-- Reads an atom. A term before the sign of a relation is its left side;
otherwise the tokens are read as a predicate. -/
def atom : Reader Atom := fun ts =>
  match Lookahead.term? ts.length ts with
  | some (lhs, ⟨.relation r, _⟩ :: ts) => do
      let (rhs, ts) ← term ts.length ts
      .ok (.relation r lhs rhs, ts)
  | _ => predicate ts

/-- Reads further operands of a connective and joins them to the left. -/
def chainRest (c : Connective) (operand : Reader Formula) : (bound : Nat) → Formula → Reader Formula
  | bound + 1, f, ⟨.connective d, pos⟩ :: ts =>
      if d = c then do
        let (g, ts) ← operand ts
        chainRest c operand bound (.binary c f g) ts
      else .ok (f, ⟨.connective d, pos⟩ :: ts)
  | _, f, ts => .ok (f, ts)

/-- Reads one or more operands with a connective between them. -/
def chain (c : Connective) (operand : Reader Formula) : Reader Formula := fun ts => do
  let (f, ts) ← operand ts
  chainRest c operand ts.length f ts

/-- The binary connectives, from the loosest to the tightest. -/
def looseToTight : List Connective := [.iff, .implies, .junction .or, .junction .and]

/-- Reads a formula whose operands are read by the given reader. -/
def operators (operand : Reader Formula) : Reader Formula :=
  looseToTight.foldr chain operand

/-- Leaves a dot at the front out. -/
def skipDot : List Token → List Token
  | ⟨.dot, _⟩ :: ts => ts
  | ts => ts

/-- Reads a formula without a binary connective at its top, unless it stands in
brackets. The scope of a quantifier is such a formula. -/
def operand : (bound : Nat) → Reader Formula
  | 0, ts => .error ⟨.formula, ts.head?⟩
  | bound + 1, ts =>
      match ts with
      | ⟨.neg, _⟩ :: ts => do
          let (f, ts) ← operand bound ts
          .ok (.neg f, ts)
      | ⟨.quantifier q, _⟩ :: ts => do
          let (names, ts) ← separated identifier ts
          let (f, ts) ← operand bound (skipDot ts)
          .ok (.quantAll q names f, ts)
      | ⟨.opening, _⟩ :: ts => do
          let (f, ts) ← operators (operand bound) ts
          let ((), ts) ← closing ts
          .ok (f, ts)
      | ⟨.ident _, _⟩ :: _ => do
          let (a, ts) ← atom ts
          .ok (.atom a, ts)
      | ts => .error ⟨.formula, ts.head?⟩

def formula : Reader Formula := fun ts => operators (operand ts.length) ts

/-- Reads a formula that takes all tokens. -/
def complete (ts : List Token) : Except Refusal Formula := do
  let (f, rest) ← formula ts
  match rest with
  | [] => .ok f
  | t :: _ => .error ⟨.finish, some t⟩

end Reader

def Refusal.at (r : Refusal) (finish : Nat) : ParseError :=
  ⟨r.wanted, r.found.map Token.lexeme, (r.found.map Token.pos).getD finish⟩

/-- Why a text is no formula. -/
inductive ReadError where
  | scan (e : ScanError)
  | parse (e : ParseError)
  /-- A name with arguments cannot be that of a function. -/
  | nullInName
  deriving DecidableEq

def ReadError.message : ReadError → String
  | .scan e => e.message
  | .parse e => e.message
  | .nullInName => nullInNameText

/-- The formula that the tokens of a text spell. Where arguments of a name with a null
character are closed, nothing behind them is read, so only a token up to there that is
refused counts before the name. -/
def Formula.ofScanned (s : Scanned) : Except ReadError Formula :=
  let outcome := (Reader.complete s.tokens).mapError fun refusal => .parse (refusal.at s.finish)
  match misnamed? s.tokens with
  | none => outcome
  | some made =>
      match Reader.complete made with
      | .error ⟨_, some _⟩ => outcome
      | _ => .error .nullInName

/-- The formula that a text spells. No name in a text has a null character. -/
def Formula.parse (text : String) : Except ReadError Formula := do
  let scanned ← (scan text).mapError .scan
  Formula.ofScanned scanned

end Clausal
