import Clausal.Phrase.Scan

/-!
# Reading phrases

Words are read by the grammar of expressions. Alternatives bind most loosely,
then come disjunctions, conjunctions, negations and comparisons of the host
language of phrases, then the signs between quantities, powers, and at last
calls, attributes and items.

Every function takes a bound for the number of steps; the number of words with
the number of levels bounds all of them (`read`).
-/

namespace Clausal.Phrase

/-- A phrase read from the front of words, with the rest of them. -/
abbrev Reading := Except Problem (Phrase × List Word)

/-- A reading, or a way to do without it if the words do not fit. -/
def orElse {α : Type} (reading : Except Problem α) (instead : α) : Except Problem α :=
  match reading with
  | .error .misplaced => .ok instead
  | reading => reading

/-- A problem that counts wherever it is met, even where a phrase could do without the
words it is met in. -/
def Problem.isFatal : Problem → Bool
  | .backslash => true
  | .longNumeral _ => true
  | .mixedTexts => true
  | .emptyStar => true
  | .unknown => true
  | _ => false

/-- The levels of signs between quantities, from the loosest on. -/
def levels : List (List String) :=
  [["|"], ["&"], ["<<", ">>"], ["+", "-"], ["*", "/", "//", "%", "@"]]

def comparisonSigns : List String := ["<", ">", "==", ">=", "<=", "!="]

def comparisonAt? : List Word → Option (String × List Word)
  | .sign s :: rest => if comparisonSigns.contains s then some (s, rest) else none
  | .name "in" :: rest => some ("in", rest)
  | .name "not" :: .name "in" :: rest => some ("not in", rest)
  | .name "is" :: .name "not" :: rest => some ("is not", rest)
  | .name "is" :: rest => some ("is", rest)
  | _ => none

/-- Quoted texts in a row are one text. -/
def adjacentTexts (content : String) : List Word → Reading
  | .text more :: rest => adjacentTexts (content ++ more) rest
  | .bytes _ :: _ => .error .mixedTexts
  | rest => .ok (.text content, rest)

/-- Rows of bytes one after the other are one row. -/
def adjacentBytes (content : String) : List Word → Reading
  | .bytes more :: rest => adjacentBytes (content ++ more) rest
  | .text _ :: _ => .error .mixedTexts
  | rest => .ok (.bytes content, rest)

/-- A word that starts a phrase whatever comes after it. -/
def startsSurely : List Word → Bool
  | .name s :: _ => !keywords.contains s || ["True", "False", "None"].contains s
  | .text _ :: _ => true
  | .bytes _ :: _ => true
  | .numeral _ :: _ => true
  | _ => false

/-- Words without the signs in front of the first operand. -/
def withoutSigns : List Word → List Word
  | .sign s :: words =>
      if s = "+" ∨ s = "-" ∨ s = "~" then withoutSigns words else .sign s :: words
  | .name "not" :: words => withoutSigns words
  | words => words

/-- A name right before a quoted text, which may be meant to mark it. -/
def marksText : List Word → Bool
  | .name s :: .text _ :: _ => !keywords.contains s
  | .name s :: .bytes _ :: _ => !keywords.contains s
  | _ => false

/-- A whole number, unless it has too many digits. A numeral with a mark for its base may
have as many as it likes. -/
def ofNumeral (s : String) : Except Problem Phrase :=
  let digits := withoutLines s.toList
  if (basedDigits? s.toList).isNone && digitLimit < digits.length then
    .error (.longNumeral digits.length)
  else .ok (.integer (wholeValue s))

/-- The problem of a reading that counts wherever it is met. -/
def fatalProblem? : Reading → Option Problem
  | .ok _ => none
  | .error problem => if problem.isFatal then some problem else none

/-- The names that stood for statements once. -/
def statements : List String := ["print", "exec"]

/-- The problem of a name that stands for a statement, in front of what can be read. -/
def statementProblem? (found : Phrase) (rest : List Word) (reading : Reading) :
    Option Problem :=
  match found, rest with
  | .name _, .sign "(" :: _ => none
  | .name s, _ =>
      if statements.contains s then
        match reading with
        | .ok _ => some (.statement s)
        | .error .misplaced => none
        | .error problem => some problem
      else none
  | _, _ => none

def family : Phrase → String
  | .name _ => "name"
  | .integer _ => "literal"
  | .call _ _ => "function call"
  | .member _ _ => "attribute"
  | .item _ _ => "subscript"
  | .text _ => "literal"
  | .bytes _ => "literal"
  | .truth true => "True"
  | .truth false => "False"
  | .nothing => "None"
  | .dots => "ellipsis"
  | .table _ => "dict literal"
  | .set _ => "set display"
  | .compared _ _ => "comparison"
  | .choice _ _ _ => "conditional expression"
  | .procedure _ => "lambda"
  | _ => "expression"

/-- The problem of a sign of assignment after a phrase. -/
def assignedTo : Phrase → Problem
  | .signed "not" _ => .misplaced
  | .joined "and" _ _ => .misplaced
  | .joined "or" _ _ => .misplaced
  | .tuple _ => .misplaced
  | .list _ => .misplaced
  | .truth _ => .misplaced
  | .nothing => .misplaced
  | .compared _ _ => .misplaced
  | .choice _ _ _ => .misplaced
  | .procedure _ => .misplaced
  | .name _ => .assignedName
  | p => .assignedPhrase p.family

mutual

/-- The problem of a phrase in the place of what takes items one by one. -/
def targetProblem? : Phrase → Option Problem
  | .compared (target :: _) ("in" :: _) => target.targetProblem?
  | .compared _ _ => none
  | .tuple items => targetProblems? items
  | .list items => targetProblems? items
  | .member _ _ => none
  | .item _ _ => none
  | .name _ => some .unknown
  | p => some (.assignedTarget p.family)

/-- The first problem of phrases in the place of what takes items one by one. -/
def targetProblems? : List Phrase → Option Problem
  | [] => none
  | p :: ps => (p.targetProblem?).or (targetProblems? ps)

end

/-- What stands in round or square brackets. -/
inductive Grouping where
  | arguments
  | group
  | list
  | index
  deriving DecidableEq

def Grouping.closing : Grouping → String
  | .arguments => ")"
  | .group => ")"
  | .list => "]"
  | .index => "]"

/-- The problem of a sign of assignment after an argument. -/
def assignedIn : Phrase → Problem
  | .given _ _ => .misplaced
  | .spread _ => .misplaced
  | .spreadFields _ => .misplaced
  | _ => .assignedArgument

/-- The problem of a sign that gives a name to a value after a member of a
group. -/
def namedIn (g : Grouping) (member : Phrase) : Problem :=
  match g with
  | .arguments => .misplaced
  | .index => .misplaced
  | _ => .assignedInside member.family

def argumentProblem? : (names : List String) → (named fields : Bool) → List Phrase → Option Problem
  | _, _, _, [] => none
  | names, named, fields, p :: ps =>
      match p with
      | .given s _ =>
          if names.contains s then some (.repeatedName s)
          else argumentProblem? (s :: names) true fields ps
      | .spreadFields _ => argumentProblem? names named true ps
      | .spread _ =>
          if fields then some .lateItems else argumentProblem? names named fields ps
      | _ =>
          if named || fields then some (.lateArgument fields)
          else argumentProblem? names named fields ps

mutual

/-- An expression. Within brackets two expressions in a row are a problem of their
own. -/
def expression (inside : Bool) : (fuel : Nat) → List Word → Reading
  | 0, _ => .error .unknown
  | fuel + 1, .name "lambda" :: .sign ":" :: rest => do
      let (result, rest) ← expression inside fuel rest
      .ok (.procedure result, rest)
  | _, .name "lambda" :: .stray '\\' :: _ => .error .backslash
  | _, .name "lambda" :: _ => .error .misplaced
  | fuel + 1, words => do
      let (yes, rest) ← junction fuel true words
      match rest with
      | .name "if" :: rest => do
          let (condition, rest) ← junction fuel true rest
          match rest with
          | .name "else" :: rest => do
              let (no, rest) ← expression inside fuel rest
              .ok (.choice condition yes no, rest)
          | .sign ":" :: _ => .error .misplaced
          | _ => .error .missingElse
      | rest =>
          let more :=
            if rest.head? = some (.name "lambda") then expression inside fuel rest
            else junction fuel true rest
          match statementProblem? yes rest more, fatalProblem? more with
          | some problem, _ => .error problem
          | none, some problem => .error problem
          | none, none =>
              if inside && !marksText words && (startsSurely rest || more.isOk) then
                .error .missingComma
              else .ok (yes, rest)

/-- A disjunction, or a conjunction. -/
def junction : (fuel : Nat) → (disjunction : Bool) → List Word → Reading
  | 0, _, _ => .error .unknown
  | fuel + 1, disjunction, words => do
      let sign := if disjunction then "or" else "and"
      let operand (words : List Word) : Reading :=
        if disjunction then junction fuel false words else inversion fuel words
      let (first, rest) ← operand words
      match rest with
      | .name s :: more =>
          if s = sign then
            let both := (junction fuel disjunction more).map fun (second, rest) =>
              (Phrase.joined sign first second, rest)
            orElse both (first, rest)
          else .ok (first, rest)
      | rest => .ok (first, rest)

def inversion : (fuel : Nat) → List Word → Reading
  | 0, _ => .error .unknown
  | fuel + 1, .name "not" :: rest => do
      let (arg, rest) ← inversion fuel rest
      .ok (.signed "not" arg, rest)
  | fuel + 1, words => do
      let (first, rest) ← chain fuel levels words
      let (operands, signs, rest) ← comparisons fuel rest
      if signs.isEmpty then .ok (first, rest) else .ok (.compared (first :: operands) signs, rest)

/-- Comparisons after a first operand. -/
def comparisons :
    (fuel : Nat) → List Word → Except Problem (List Phrase × List String × List Word)
  | 0, _ => .error .unknown
  | fuel + 1, words =>
      match comparisonAt? words with
      | none => .ok ([], [], words)
      | some (sign, rest) =>
          let found := do
            let (operand, rest) ← chain fuel levels rest
            let (operands, signs, rest) ← comparisons fuel rest
            .ok (operand :: operands, sign :: signs, rest)
          orElse found ([], [], words)

def chain : (fuel : Nat) → List (List String) → List Word → Reading
  | 0, _, _ => .error .unknown
  | fuel + 1, [], words => factor fuel words
  | fuel + 1, level :: deeper, words => do
      let (first, rest) ← chain fuel deeper words
      links fuel level deeper first rest

/-- Signs of a level with their operands after a first operand. -/
def links : (fuel : Nat) → (level : List String) → (deeper : List (List String)) →
    Phrase → List Word → Reading
  | 0, _, _, _, _ => .error .unknown
  | fuel + 1, level, deeper, first, words =>
      match words with
      | .sign s :: more =>
          if level.contains s then
            let linked := do
              let (second, rest) ← chain fuel deeper more
              links fuel level deeper (.joined s first second) rest
            orElse linked (first, words)
          else .ok (first, words)
      | words => .ok (first, words)

/-- A factor: something with a sign, or a power. -/
def factor : (fuel : Nat) → List Word → Reading
  | 0, _ => .error .unknown
  | fuel + 1, .sign s :: rest =>
      if s = "+" ∨ s = "-" ∨ s = "~" then do
        let (arg, rest) ← factor fuel rest
        .ok (.signed s arg, rest)
      else power fuel (.sign s :: rest)
  | fuel + 1, words => power fuel words

def power : (fuel : Nat) → List Word → Reading
  | 0, _ => .error .unknown
  | fuel + 1, words => do
      let (head, rest) ← atom fuel words
      let (base, rest) ← trailers fuel head rest
      match rest with
      | .sign s :: more =>
          if s = "**" ∨ s = "^" then do
            let (exponent, rest) ← factor fuel more
            .ok (.joined "**" base exponent, rest)
          else .ok (base, rest)
      | rest => .ok (base, rest)

/-- Calls, attributes and items of something. -/
def trailers : (fuel : Nat) → Phrase → List Word → Reading
  | 0, _, _ => .error .unknown
  | fuel + 1, owner, words =>
      match words with
      | .sign "(" :: rest => do
          let (args, _, rest) ← members .arguments true fuel rest
          match argumentProblem? [] false false args with
          | some problem => .error problem
          | none => trailers fuel (.call owner args) rest
      | .sign "[" :: .sign "]" :: _ => .ok (owner, words)
      | .sign "[" :: rest => do
          let (items, comma, rest) ← members .index true fuel rest
          match items, comma with
          | [.spread items], false => trailers fuel (.item owner (.tuple [.spread items])) rest
          | [index], false => trailers fuel (.item owner index) rest
          | items, _ => trailers fuel (.item owner (.tuple items)) rest
      | .sign "." :: .name s :: rest =>
          if keywords.contains s then .error .misplaced
          else trailers fuel (.member owner s) rest
      | .sign "." :: .stray '\\' :: _ => .error .backslash
      | .sign "." :: _ => .error .misplaced
      | .stray '\\' :: _ => .error .backslash
      | words => .ok (owner, words)

/-- A name, a number, a text or something in brackets. -/
def atom : (fuel : Nat) → List Word → Reading
  | 0, _ => .error .unknown
  | _, [] => .error .misplaced
  | fuel + 1, word :: rest =>
      match word with
      | .name "True" => .ok (.truth true, rest)
      | .name "False" => .ok (.truth false, rest)
      | .name "None" => .ok (.nothing, rest)
      | .name s => if keywords.contains s then .error .misplaced else .ok (.name s, rest)
      | .numeral s => (ofNumeral s).map fun n => (n, rest)
      | .text s => adjacentTexts s rest
      | .bytes s => adjacentBytes s rest
      | .obscure => .error .unknown
      | .stray '\\' => .error .backslash
      | .sign "..." => .ok (.dots, rest)
      | .sign "(" => do
          let (items, comma, rest) ← members .group true fuel rest
          match items, comma with
          | [.spread _], false => .error .strayStar
          | [content], false => .ok (content, rest)
          | items, _ => .ok (.tuple items, rest)
      | .sign "[" => do
          let (items, _, rest) ← members .list true fuel rest
          .ok (.list items, rest)
      | .sign "\x7b" => do
          let (paired, items, rest) ← entries fuel none rest
          .ok (if paired then .table items else .set items, rest)
      | _ => .error .misplaced

/-- The items of a value that was read from the words after a star, which may be the first
word of a group. -/
def starred (first : Bool) : (fuel : Nat) → List Word → Reading → Reading
  | 0, _, _ => .error .unknown
  | _, _, .ok (items, rest) => .ok (.spread items, rest)
  | fuel + 1, words, .error problem =>
      if first && !problem.isFatal && !(atom fuel (withoutSigns words)).isOk then
        .error .emptyStar
      else .error problem

/-- The members of a group in brackets up to the closing one, and whether there is
a comma among them. -/
def members (g : Grouping) (first : Bool) : (fuel : Nat) → List Word →
    Except Problem (List Phrase × Bool × List Word)
  | 0, _ => .error .unknown
  | fuel + 1, words =>
      if words.head? = some (.sign g.closing) then .ok ([], false, words.drop 1)
      else do
        let (found, rest) ← memberOf g first fuel words
        match rest with
        | .sign "," :: rest => do
            let (more, _, rest) ← members g false fuel rest
            .ok (found :: more, true, rest)
        | .sign "=" :: rest =>
            .error (if g = .arguments then assignedIn found
              else assigned found.assignedTo fuel rest)
        | .sign ":=" :: rest => do
            let _ ← expression true fuel rest
            .error (namedIn g found)
        | .name "async" :: .name "for" :: rest => untargeted g first fuel rest
        | .name "for" :: rest => untargeted g first fuel rest
        | rest =>
            if rest.head? = some (.sign g.closing) then .ok ([found], false, rest.drop 1)
            else .error .misplaced

/-- The problem of a sign of assignment, if what comes after it can be assigned. -/
def assigned (problem : Problem) : (fuel : Nat) → List Word → Problem
  | 0, _ => .unknown
  | fuel + 1, words =>
      match chain fuel levels words with
      | .error first => first
      | .ok (_, .sign "=" :: _) => .misplaced
      | .ok (_, .sign ":=" :: _) => .misplaced
      | .ok _ => problem

/-- A member of a group in brackets. A name that is given to a value there means nothing
else. -/
def memberOf (g : Grouping) (first : Bool) : (fuel : Nat) → List Word → Reading
  | 0, _ => .error .unknown
  | fuel + 1, .sign "*" :: rest =>
      if g = .arguments then starred true fuel rest (expression true fuel rest)
      else do
        let (items, more) ← starred first fuel rest (chain fuel levels rest)
        if first && more.head? ≠ some (.sign ",") && more.head? ≠ some (.sign g.closing) then do
          let _ ← expression true fuel rest
          .ok (items, more)
        else .ok (items, more)
  | fuel + 1, .sign "**" :: rest =>
      if g = .arguments then do
        let (fields, rest) ← expression true fuel rest
        .ok (.spreadFields fields, rest)
      else if g = .group ∧ first then do
        let (_, rest) ← expression true fuel rest
        .error (if rest.head? = some (.sign ")") then .strayStars else .misplaced)
      else .error .misplaced
  | fuel + 1, .sign ":" :: rest =>
      if g = .index then range fuel .nothing rest else .error .misplaced
  | fuel + 1, .name s :: .sign "=" :: rest =>
      if ["True", "False", "None"].contains s then
        .error (if g = .arguments then .assignedTarget s else .misplaced)
      else if keywords.contains s then .error .misplaced
      else
        match g with
        | .arguments => do
            let (value, rest) ← expression true fuel rest
            if rest.head? = some (.sign "=") then .error .misplaced
            else .ok (.given s value, rest)
        | _ => .error (assigned .assignedName fuel rest)
  | fuel + 1, .name s :: .sign ":=" :: rest =>
      if keywords.contains s then .error .misplaced
      else do
        let (value, rest) ← expression true fuel rest
        if rest.head? = some (.sign g.closing) || rest.head? = some (.sign ",") then
          .ok (value, rest)
        else .error .misplaced
  | fuel + 1, words => do
      let (found, rest) ← expression true fuel words
      match rest with
      | .sign ":" :: rest =>
          if g = .index then range fuel found rest else .error .misplaced
      | rest => .ok (found, rest)

/-- The rest of a range of indices after the first colon. -/
def range : (fuel : Nat) → (start : Phrase) → List Word → Reading
  | 0, _, _ => .error .unknown
  | fuel + 1, start, words => do
      let (stop, rest) ← bound fuel words
      match rest with
      | .sign ":" :: rest => do
          let (step, rest) ← bound fuel rest
          .ok (.slice start stop step, rest)
      | rest => .ok (.slice start stop .nothing, rest)

/-- A bound of a range, which may be missing. -/
def bound : (fuel : Nat) → List Word → Reading
  | 0, _ => .error .unknown
  | fuel + 1, words =>
      match words with
      | .sign ":" :: _ => .ok (.nothing, words)
      | .sign "," :: _ => .ok (.nothing, words)
      | .sign "]" :: _ => .ok (.nothing, words)
      | words => expression true fuel words

/-- The problem of what should take items one by one. -/
def untargeted (g : Grouping) (first : Bool) : (fuel : Nat) → List Word →
    Except Problem (List Phrase × Bool × List Word)
  | 0, _ => .error .unknown
  | fuel + 1, words =>
      if g = .group ∧ !first then .error .misplaced
      else do
        let (target, _) ← expression true fuel words
        .error (target.targetProblem?.getD .misplaced)

/-- The members of a group in braces: the members of a set, or the keys and values
of a table in turn. -/
def entries : (fuel : Nat) → (paired? : Option Bool) → List Word →
    Except Problem (Bool × List Phrase × List Word)
  | 0, _, _ => .error .unknown
  | fuel + 1, paired?, words =>
      if words.head? = some (.sign "\x7d") then .ok (paired?.getD true, [], words.drop 1)
      else do
        let (key, rest) ←
          match words with
          | .sign "*" :: words =>
              if paired? = some true then .error .misplaced
              else starred paired?.isNone fuel words (chain fuel levels words)
          | .sign "**" :: words => do
              if paired? = some false then .error .misplaced
              let (fields, rest) ← chain fuel levels words
              .ok (.spreadFields fields, rest)
          | words => expression true fuel words
        let (paired, found, rest) ←
          match key, rest, paired? with
          | .spreadFields _, rest, _ => .ok (true, [key, .nothing], rest)
          | .spread _, .sign ":" :: _, _ => .error .misplaced
          | _, .sign ":" :: _, some false => .error .misplaced
          | _, .sign ":" :: .sign "," :: _, _ => .error .missingValue
          | _, .sign ":" :: .sign "\x7d" :: _, _ => .error .missingValue
          | _, .sign ":" :: .sign "*" :: rest, _ => do
              let _ ← chain fuel levels rest
              .error .starredValue
          | _, .sign ":" :: rest, _ => do
              let (value, rest) ← expression true fuel rest
              .ok (true, [key, value], rest)
          | .spread _, _, some true => .error .misplaced
          | _, _, some true => .error .missingColon
          | .name _, .sign ":=" :: _, _ => .error .unknown
          | _, .sign "=" :: rest, _ => .error (assigned key.assignedTo fuel rest)
          | _, .sign ":=" :: rest, _ => do
              let _ ← expression true fuel rest
              .error (.assignedInside key.family)
          | _, rest, _ => .ok (false, [key], rest)
        match rest with
        | .sign "," :: rest => do
            let (_, more, rest) ← entries fuel (some paired) rest
            .ok (paired, found ++ more, rest)
        | .sign "\x7d" :: rest => .ok (paired, found, rest)
        | .name "for" :: rest => do
            let (target, _) ← expression true fuel rest
            .error (target.targetProblem?.getD .misplaced)
        | _ => .error .misplaced

end

/-- Expressions with commas between them up to the end. -/
def expressions : (fuel : Nat) → List Word → Except Problem (List Phrase × Bool)
  | 0, _ => .error .unknown
  | _, [] => .ok ([], false)
  | fuel + 1, words => do
      let (first, rest) ← expression false fuel words
      match rest with
      | [] => .ok ([first], false)
      | .sign "," :: rest => do
          let (more, _) ← expressions fuel rest
          .ok (first :: more, true)
      | _ => .error .misplaced

def readingFuel (words : List Word) : Nat := 16 * (words.length + 2)

/-- The problem of words that cannot be read, if they start with a name that stands for a
statement. -/
def startProblem (fuel : Nat) (problem : Problem) : List Word → Problem
  | .name s :: rest =>
      let reading :=
        match rest with
        | .sign "*" :: rest => chain fuel levels rest
        | rest => expression false fuel rest
      if problem = .misplaced then (statementProblem? (.name s) rest reading).getD problem
      else problem
  | _ => problem

/-- The phrase of a text. The names that are known stand for themselves. -/
def read (isKnown : String → Bool) (s : String) : Except Problem Phrase := do
  let (words, more) ← scan isKnown s
  if words.isEmpty then .error (if s.isEmpty then .empty else .misplaced)
  else
    let fuel := readingFuel words
    match expressions fuel words, more with
    | .error problem, _ =>
        let closers := List.replicate (openCount words).toNat (Word.sign ")")
        .error (if !closers.isEmpty && (expressions fuel (words ++ closers)).isOk then
            .neverClosed
          else startProblem fuel problem words)
    | .ok _, some line => .error (.misplacedOn line)
    | .ok ([content], false), none => .ok content
    | .ok (items, _), none => .ok (.tuple items)

end Clausal.Phrase
