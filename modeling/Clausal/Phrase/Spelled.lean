import Clausal.Phrase.Word

/-!
# Words spelled out

Before words are read, the short ways of writing are spelled out: names without a
meaning and numerals become calls of the functions that make symbols and numbers of
them, digits in square brackets after a decimal repeat for ever, a factorial is a call
of a function with the words before its sign, and a procedure at the front is a call
too. Every rule looks at words alone, so what it makes may be no phrase.
-/

namespace Clausal.Phrase

/-- The words of a call with one word between the brackets. -/
def callWords (function : String) (arg : Word) : List Word :=
  [.name function, .sign "(", arg, .sign ")"]

/-- Words with the colons among them as commas. -/
def withoutColons (words : List Word) : List Word :=
  words.map fun word => if word = .sign ":" then .sign "," else word

/-- The words of a procedure at the front of a text as a call: what stands before
the first colon is the first argument. All other words are left alone. -/
def withProcedure : List Word → Except Problem (List Word)
  | .name "lambda" :: word :: words =>
      let words := word :: words
      let taken := words.takeWhile fun word => word ≠ .sign ":"
      let rest := words.drop taken.length
      if taken.contains (.sign "*") || taken.contains (.sign "**") then .error .starredProcedure
      else
        .ok (.name "Lambda" :: .sign "(" :: .sign "(" :: taken ++ .sign ")" ::
          withoutColons rest ++ [.sign ")"])
  | words => .ok words

/-- Names without a meaning as calls that make symbols, or function symbols right before
a bracket. Names of attributes and of arguments are left alone. What stands before a name
is the last word that was not left alone. -/
def withSymbols (isKnown : String → Bool) : (before : Word) → List Word → List Word
  | _, [] => []
  | before, .name s :: words =>
      let given :=
        (before = .sign "(" || before = .sign ",") && words.head? = some (.sign "=")
      if keywords.contains s || before = .sign "." || given || isKnown s then
        .name s :: withSymbols isKnown before words
      else
        let function := if words.head? = some (.sign "(") then "Function" else "Symbol"
        callWords function (.text s) ++ withSymbols isKnown (.name s) words
  | _, word :: words => word :: withSymbols isKnown word words

/-- The words of a decimal with repeated digits so far, with one more word, or none if it
does not fit. A point by itself is a decimal too. -/
def repetitionWith (run : List Word) (word : Word) : List Word :=
  match run, word with
  | [], .numeral s => if isPointed s then [word] else []
  | [], .sign "." => [.numeral "0."]
  | [_], .sign "[" => run ++ [word]
  | [_, _], .numeral s => if isWhole s then run ++ [word] else []
  | [_, _, _], .numeral s => if isWhole s then run ++ [word] else []
  | [_, _, _], .sign "]" => run ++ [word]
  | [_, _, _, _], .sign "]" => run ++ [word]
  | _, _ => []

/-- The digits of a numeral. -/
def digitsOf : Word → List Char
  | .numeral s => withoutLines s.toList
  | _ => []

/-- The words of a decimal with repeated digits as a sum of a whole number, a fraction of
powers of ten, and a fraction of nines. -/
def repetitionWords (run : List Word) : List Word :=
  let decimal := digitsOf (run.headD .gap)
  let whole := decimal.takeWhile (· ≠ '.')
  let after := decimal.drop (whole.length + 1)
  let repeated := (run.drop 2).flatMap digitsOf
  let zeros := List.replicate after.length '0'
  let stripped (cs : List Char) : List Char := cs.dropWhile (· = '0')
  let numeral (cs : List Char) : Word := .numeral (String.ofList cs)
  let orZero (cs : List Char) : List Char := if cs.isEmpty then ['0'] else cs
  let fraction (units parts : List Char) : List Word :=
    [.name "Rational", .sign "(", numeral units, .sign ",", numeral parts, .sign ")"]
  .sign "(" :: callWords "Integer" (numeral (orZero whole)) ++
    .sign "+" :: fraction (orZero (stripped after)) ('1' :: zeros) ++
    .sign "+" :: fraction (stripped repeated) (List.replicate repeated.length '9' ++ zeros) ++
    [.sign ")"]

/-- Words with every decimal with repeated digits spelled out. The words before the one
that is looked at stand in reverse order. -/
def withRepetitions (done run : List Word) : List Word → List Word
  | [] => done.reverse
  | word :: words =>
      let run := repetitionWith run word
      if 3 < run.length && run.getLast? = some (.sign "]") then
        withRepetitions ((repetitionWords run).reverse ++ (word :: done).drop run.length) [] words
      else withRepetitions (word :: done) run words

/-- A numeral as calls that make numbers. -/
def numberWords (s : String) : List Word :=
  let digits := (imaginary? s).getD s
  let unit : List Word := if (imaginary? s).isSome then [.sign "*", .name "I"] else []
  let call : List Word :=
    if digits.isEmpty then [.name "Integer", .sign "(", .sign ")"]
    else if isDecimal digits then callWords "Float" (.text digits)
    else callWords "Integer" (.numeral digits)
  call ++ unit

def withNumbers (words : List Word) : List Word :=
  words.flatMap fun word =>
    match word with
    | .numeral s => numberWords s
    | word => [word]

/-- The number of words at the end of a row that belong together, if brackets there are
balanced. The words stand in reverse order. -/
def operandLength (depth : Int) : List Word → Option Nat
  | [] => none
  | word :: words =>
      let depth :=
        if word = .sign ")" then depth + 1 else if word = .sign "(" then depth - 1 else depth
      if depth = 0 then some 1 else (operandLength depth words).map (· + 1)

def Word.isName : Word → Bool
  | .name _ => true
  | _ => false

/-- Words in reverse order, of which those at the end are the argument of a call. A name
right before them belongs to them. -/
def appliedTo (function : String) (reversed : List Word) : Except Problem (List Word) :=
  match reversed with
  | [] => .error .openFactorial
  | .sign "(" :: _ => .error .openFactorial
  | reversed =>
      match operandLength 0 reversed with
      | none => .ok reversed
      | some n =>
          let n := if (reversed[n]?).any Word.isName then n + 1 else n
          .ok (.sign ")" :: reversed.take n ++ .sign "(" :: .name function :: reversed.drop n)

/-- Words in reverse order with the call that so many signs for factorials stand for. -/
def withFactorial (count : Nat) (reversed : List Word) : Except Problem (List Word) :=
  match count with
  | 0 => .ok reversed
  | 1 => appliedTo "factorial" reversed
  | 2 => appliedTo "factorial2" reversed
  | _ => .error .openFactorial

/-- Words with every factorial spelled out. A foreign character after the signs for one
makes it disappear. The words before the one that is looked at stand in reverse order. -/
def withFactorials (done : List Word) (count : Nat) : List Word → Except Problem (List Word)
  | [] => do
      let done ← withFactorial count done
      .ok done.reverse
  | .stray '!' :: words => withFactorials done (count + 1) words
  | word :: words =>
      if word = .gap || word.isForeign then withFactorials (word :: done) 0 words
      else do
        let done ← withFactorial count done
        withFactorials (word :: done) 0 words

/-- Foreign characters that start a name all the same. -/
def isRareStart (c : Char) : Bool :=
  c = '\u1885' || c = '\u1886' || c = '\u2118' || c = '\u212e'

/-- A character that may stand in a name by itself. -/
def staysInName (c : Char) : Bool :=
  Text.startsName c || Text.isDecimalDigit c || isRareStart c

/-- The signs that a row of characters of signs is made of, each as long as possible. The
fuel bounds their number. -/
def resplit : (fuel : Nat) → List Char → List Word
  | 0, _ => []
  | _, [] => []
  | fuel + 1, c :: rest =>
      match ("<>" :: signs).find? fun s => s.toList.isPrefixOf (c :: rest) with
      | some s => .sign s :: resplit fuel ((c :: rest).drop s.length)
      | none => .sign c.toString :: resplit fuel rest

/-- The signs at the front of words as one row of characters, and all other words. -/
def signRun : List Word → List Char × List Word
  | .sign s :: words =>
      let (cs, rest) := signRun words
      (s.toList ++ cs, rest)
  | words => ([], words)

/-- The name that rare characters at the front of words start, and all other words. -/
def rareRun : List Word → List Char × List Word
  | .stray c :: words =>
      if isRareStart c then
        let (cs, rest) := rareRun words
        (c :: cs, rest)
      else ([], .stray c :: words)
  | .name s :: words => (s.toList, words)
  | words => ([], words)

/-- Words with signs and rare characters next to each other joined. A power may be
written with another sign. The fuel bounds the number of words. -/
def rejoined : (fuel : Nat) → List Word → List Word
  | 0, _ => []
  | _, [] => []
  | fuel + 1, .sign s :: words =>
      let (cs, rest) := signRun (.sign s :: words)
      resplit cs.length cs ++ rejoined fuel rest
  | fuel + 1, .stray c :: words =>
      if isRareStart c then
        let (cs, rest) := rareRun (.stray c :: words)
        .name (String.ofList cs) :: rejoined fuel rest
      else .stray c :: rejoined fuel words
  | fuel + 1, .name s :: words =>
      match s.toList.find? fun c => !staysInName c with
      | some c => .stray c :: rejoined fuel words
      | none => .name s :: rejoined fuel words
  | fuel + 1, .gap :: words => rejoined fuel words
  | fuel + 1, word :: words => word :: rejoined fuel words

/-- The sign of a power in place of its other sign. -/
def withPowers (words : List Word) : List Word :=
  words.map fun word => if word = .sign "^" then .sign "**" else word

def spelled (isKnown : String → Bool) (words : List Word) : Except Problem (List Word) := do
  let words ← withProcedure words
  let words := withNumbers (withRepetitions [] [] (withSymbols isKnown .gap words))
  let words ← withFactorials [] 0 words
  let words := withPowers words
  .ok (rejoined words.length words)

end Clausal.Phrase
