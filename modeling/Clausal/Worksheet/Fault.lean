import Clausal.Failure
import Clausal.Phrase.Basic
import Clausal.Text.Clipped
import Clausal.Text.Filled
import Clausal.Text.Template

/-!
# Faults

Why a step of a worksheet has no value. As a worksheet handles values of all
kinds, most faults are about a value of a kind that an operation does not take;
the value is then named by its kind, for which a message has limited room. The
wording of every message stands here.
-/

namespace Clausal.Worksheet

/-- What lacks something: a value of some kind, or a class of values by itself. -/
inductive Owner where
  | value (kind : String)
  | operator (label : String)
  deriving DecidableEq

/-- How many bytes of a kind a message shows that names an attribute. -/
def attributeRoom : Nat := 50

/-- How many bytes of each of two kinds a message shows. -/
def pairRoom : Nat := 100

/-- How many bytes of the kind of a value in an encoding a message shows. -/
def encodedRoom : Nat := 80

/-- How many bytes of a kind all other messages show. -/
def kindRoom : Nat := 200

/-- How many characters a message shows of a quoted text that spells no integer. -/
def numeralRoom : Nat := 200

def Owner.shown : Owner → String
  | .value kind => "'" ++ Text.clip attributeRoom kind ++ "' object"
  | .operator label => "type object '" ++ Text.clip attributeRoom label ++ "'"

/-- The kinds of values whose items have numbers. -/
inductive Sequence where
  | list
  | tuple
  | binders
  | text
  deriving DecidableEq

def Sequence.label : Sequence → String
  | .list => "list"
  | .tuple => "tuple"
  | .binders => "deque"
  | .text => "string"

/-- What a message says about an index that is no integer. -/
def Sequence.complaint (s : Sequence) (kind : String) : String :=
  let kind := Text.clip kindRoom kind
  match s with
  | .list => "list indices must be integers or slices, not " ++ kind
  | .tuple => "tuple indices must be integers or slices, not " ++ kind
  | .binders => "sequence index must be integer, not '" ++ kind ++ "'"
  | .text => "string indices must be integers, not '" ++ kind ++ "'"

/-- What a message says about a value after a sequence. -/
def Sequence.concatenation (s : Sequence) (kind : String) : String :=
  let label :=
    match s with
    | .text => "str"
    | s => s.label
  "can only concatenate " ++ label ++ " (not \"" ++ Text.clip kindRoom kind ++ "\") to " ++ label

/-- The ways of dividing a number. -/
inductive Division where
  | quotient
  | remainder
  | residue
  deriving DecidableEq

def Division.complaint : Division → String
  | .quotient => "integer division or modulo by zero"
  | .remainder => "integer modulo by zero"
  | .residue => "Modulo by zero"

/-- Names in a sentence, each in quotes. -/
def enumerated : List String → String
  | [] => ""
  | [name] => "'" ++ name ++ "'"
  | [first, second] => "'" ++ first ++ "' and '" ++ second ++ "'"
  | name :: names => "'" ++ name ++ "', " ++ enumerated names

/-- A cause for a step to have no value. Where a message names a value, the
cause holds its text, its kind or the full name of its class. -/
inductive Fault where
  | failure (e : Failure)
  /-- An earlier step has no value. -/
  | stepFailed (step : Nat)
  /-- A value cannot be handed out. -/
  | notHandedOut (type : String)
  /-- An operation gives no value of a worksheet for the values it got. -/
  | inapplicable
  | notFormula (value : String)
  | notVariable (value : String)
  | notPredicate (value : String)
  | notName (type : String)
  | notFunctionName
  | nullInName
  | notNumeral (text : String)
  | longNumeral (digits : Nat)
  | notNumeric (value : String)
  | notArgument (type : String)
  /-- A replacement does not take a value. -/
  | notReplaced (value : String)
  /-- Replacements are not given as one table or as one pair. -/
  | miscountedReplacements
  | misspelt (text : String) (p : Phrase.Problem)
  /-- A value is of a class that an operation rules out. -/
  | ruledOut (type : String)
  | noEntry (key : String)
  | noAttribute (owner : Owner) (name : String)
  | notJoined (sign left right : String)
  /-- Values of these kinds are not ordered. -/
  | notOrdered (sign left right : String)
  /-- A sign does not stand before a value of this kind. -/
  | notSigned (sign kind : String)
  | undecided (comparison : String)
  /-- Whether an expression belongs to a set is not known. -/
  | undecidedMember (proposition : String)
  | notReal (text : String)
  | notDefined
  | noMembers (kind : String)
  | notPartOfText (kind : String)
  | dividedByZero (d : Division)
  | notConcatenated (sequence : Sequence) (kind : String)
  | notRepeated (kind : String)
  | negativeShift
  | notIndexed (owner : Owner)
  | badIndex (sequence : Sequence) (kind : String)
  | hugeIndex
  | outOfRange (sequence : Sequence)
  | badRange
  | zeroStep
  /-- A value has no length. -/
  | noLength (kind : String)
  /-- A value has no items. -/
  | noItems (kind : String)
  /-- A value has no items that could be taken from the last one on. -/
  | notReversible (kind : String)
  | notPair (kind : String)
  | shortPair (count : Nat)
  | longPair
  /-- A value is no operator that could be applied. -/
  | notApplied (kind : String)
  | notKey (kind : String)
  | missing (function : String) (names : List String)
  | surplus (function : String) (taken given : Nat)
  /-- A function gets more arguments than it takes, some of which may be missing. -/
  | surplusRange (function : String) (least most given : Nat)
  /-- A function of one argument gets another number of them. -/
  | notOne (function : String) (given : Nat)
  /-- A text gets more arguments than there are for it. -/
  | surplusOfText (given : Nat)
  | notTextArgument (name kind : String)
  | notEncoded (kind : String)
  | unexpected (function name : String)
  | notSpread (function kind : String)
  /-- A group gets its members from a value without items. -/
  | notSpreadHere (kind : String)
  /-- A function gets arguments with names from a value without fields. -/
  | notFields (function kind : String)
  /-- A table gets its entries from a value without fields. -/
  | notFieldsHere (kind : String)
  | wrongCount (function : String) (atLeast : Bool) (needed given : Nat)
  /-- A function that is known by what it does gets another number of arguments. -/
  | notTaken (function : String) (taken given : Nat)
  | unknownOptions (options : String)
  | notProposition (text : String)
  /-- An alternative is not made of a condition and two propositions. -/
  | notAlternative
  | notImplication (count : Nat) (operands : String)
  /-- Function symbols stand in the place of arguments. -/
  | functorsGiven (names : List String)
  /-- What a function should depend on is no symbol. -/
  | badSignature (text : String)
  | repeatedSymbol (name : String)
  | notRegistered (name : String)
  | unknownName (name : String)
  | notFloat (text : String)
  /-- A value is no integer where one is counted on. -/
  | notIndex (kind : String)
  | badOperand (function kind : String)
  | noArguments (function : String) (given : Nat)
  | noSuchPart
  | noSuchItem (value : String)
  | noSuchMember
  | emptyList
  | notJoinedText (place : Nat) (kind : String)
  | noCharacter
  | notCharacter (length : Nat)
  | notCharacterText (kind : String)
  | notClass
  | notRounded
  | notVaried (text : String)
  /-- A number stands before all variables of a derivative. -/
  | countFirst (n : Int)
  /-- A derivative has no variables, although there are none or several symbols. -/
  | noVariables (several : Bool) (text : String)
  /-- No branches are given. -/
  | noBranches
  | notCondition (kind : String)
  | noSymbols
  | missingSymbol
  | noRangeEnd
  | notWhole (text : String)
  | noInverse (a n : Int)
  | noEarlierPrime
  | misfit (m : Text.Misfit)
  deriving DecidableEq

namespace Fault

/-- The message of a fault. A step without a value and a value that cannot be handed
out are only named; what to say about them is left to whoever runs the worksheet. -/
def message : Fault → String
  | .failure e => e.message
  | .stepFailed step => Nat.repr step
  | .notHandedOut type => type
  | .inapplicable => "the operation does not apply to these values"
  | .notFormula value => value ++ " is not a Formula"
  | .notVariable value => value ++ " is not a Variable"
  | .notPredicate value => value ++ " is not a predicate name"
  | .notName type => "name should be a string, not " ++ type
  | .notFunctionName => "expecting string or Symbol for name"
  | .nullInName => nullInNameText
  | .notNumeral text =>
      "invalid literal for int() with base 10: " ++
        String.ofList ((Text.quoted text).toList.take numeralRoom)
  | .longNumeral digits =>
      "Exceeds the limit (" ++ Nat.repr Expression.digitLimit ++
        " digits) for integer string conversion: value has " ++ Nat.repr digits ++
        " digits; use sys.set_int_max_str_digits() to increase the limit"
  | .notNumeric value => "Argument of Integer should be of numeric type, got " ++ value ++ "."
  | .notArgument type =>
      "SympifyError: " ++ Text.quoted ("cannot sympify object of type " ++ type)
  | .notReplaced value => "SympifyError: " ++ value
  | .miscountedReplacements => "subs accepts either 1 or 2 arguments"
  | .misspelt text p =>
      "Sympify of expression 'could not parse " ++ Text.quoted text ++
        "' failed, because of exception being raised:\n" ++ p.message
  | .ruledOut type => type
  | .noEntry key => key
  | .noAttribute owner name => owner.shown ++ " has no attribute '" ++ name ++ "'"
  | .notJoined sign left right =>
      "unsupported operand type(s) for " ++ sign ++ ": '" ++ Text.clip pairRoom left ++
        "' and '" ++ Text.clip pairRoom right ++ "'"
  | .notOrdered sign left right =>
      "'" ++ sign ++ "' not supported between instances of '" ++ Text.clip pairRoom left ++
        "' and '" ++ Text.clip pairRoom right ++ "'"
  | .notSigned sign kind =>
      "bad operand type for unary " ++ sign ++ ": '" ++ Text.clip kindRoom kind ++ "'"
  | .undecided comparison => "cannot determine truth value of Relational: " ++ comparison
  | .undecidedMember proposition => "did not evaluate to a bool: " ++ proposition
  | .notReal text => "Invalid comparison of non-real " ++ text
  | .notDefined => "Invalid NaN comparison"
  | .noMembers kind => "argument of type '" ++ Text.clip kindRoom kind ++ "' is not iterable"
  | .notPartOfText kind =>
      "'in <string>' requires string as left operand, not " ++ Text.clip kindRoom kind
  | .dividedByZero d => d.complaint
  | .notConcatenated sequence kind => sequence.concatenation kind
  | .notRepeated kind =>
      "can't multiply sequence by non-int of type '" ++ Text.clip kindRoom kind ++ "'"
  | .negativeShift => "negative shift count"
  | .notIndexed (.value kind) => "'" ++ Text.clip kindRoom kind ++ "' object is not subscriptable"
  | .notIndexed (.operator label) =>
      "type '" ++ Text.clip kindRoom label ++ "' is not subscriptable"
  | .badIndex sequence kind => sequence.complaint kind
  | .hugeIndex => "cannot fit 'int' into an index-sized integer"
  | .outOfRange sequence => sequence.label ++ " index out of range"
  | .badRange => "slice indices must be integers or None or have an __index__ method"
  | .zeroStep => "slice step cannot be zero"
  | .noLength kind => "object of type '" ++ Text.clip kindRoom kind ++ "' has no len()"
  | .noItems kind => "'" ++ Text.clip kindRoom kind ++ "' object is not iterable"
  | .notReversible kind => "'" ++ Text.clip kindRoom kind ++ "' object is not reversible"
  | .notPair kind => "cannot unpack non-iterable " ++ Text.clip kindRoom kind ++ " object"
  | .shortPair count => "not enough values to unpack (expected 2, got " ++ Nat.repr count ++ ")"
  | .longPair => "too many values to unpack (expected 2)"
  | .notApplied kind => "'" ++ Text.clip kindRoom kind ++ "' object is not callable"
  | .notKey kind => "unhashable type: '" ++ Text.clip kindRoom kind ++ "'"
  | .missing function names =>
      function ++ "() missing " ++ Nat.repr names.length ++ " required positional argument" ++
        (if names.length = 1 then "" else "s") ++ ": " ++ enumerated names
  | .surplus function taken given =>
      function ++ "() takes " ++ Nat.repr taken ++ " positional argument" ++
        (if taken = 1 then "" else "s") ++ " but " ++ Nat.repr given ++
        (if given = 1 then " was given" else " were given")
  | .surplusRange function least most given =>
      function ++ "() takes from " ++ Nat.repr least ++ " to " ++ Nat.repr most ++
        " positional arguments but " ++ Nat.repr given ++ " were given"
  | .notOne function given =>
      function ++ "() takes exactly one argument (" ++ Nat.repr given ++ " given)"
  | .surplusOfText given =>
      "str() takes at most 3 arguments (" ++ Nat.repr given ++ " given)"
  | .notTextArgument name kind =>
      "str() argument '" ++ name ++ "' must be str, not " ++ kind
  | .notEncoded "str" => "decoding str is not supported"
  | .notEncoded kind =>
      "decoding to str: need a bytes-like object, " ++ Text.clip encodedRoom kind ++ " found"
  | .unexpected function name =>
      function ++ "() got an unexpected keyword argument '" ++ name ++ "'"
  | .notSpread function kind =>
      function ++ "() argument after * must be an iterable, not " ++ Text.clip kindRoom kind
  | .notSpreadHere kind => "Value after * must be an iterable, not " ++ Text.clip kindRoom kind
  | .notFields function kind =>
      function ++ "() argument after ** must be a mapping, not " ++ Text.clip kindRoom kind
  | .notFieldsHere kind => "'" ++ Text.clip kindRoom kind ++ "' object is not a mapping"
  | .wrongCount function atLeast needed given =>
      function ++ " takes " ++ (if atLeast then "at least " else "exactly ") ++ Nat.repr needed ++
        " argument" ++ (if needed = 1 then "" else "s") ++ " (" ++ Nat.repr given ++ " given)"
  | .notTaken function taken given =>
      function ++ " takes exactly " ++ Nat.repr taken ++ " argument" ++
        (if taken = 1 then "" else "s") ++ " (" ++ Nat.repr given ++ " given)"
  | .unknownOptions options => "Unknown options: " ++ options
  | .notProposition text => "expecting bool or Boolean, not \x60" ++ text ++ "\x60."
  | .notAlternative => "expecting exactly 3 args"
  | .notImplication count operands =>
      Nat.repr count ++ " operand(s) used for an Implies (pairs are required): " ++ operands
  | .functorsGiven names =>
      "Invalid argument: expecting an expression, not UndefinedFunction" ++
        (if names.length = 1 then "" else "s") ++ ": " ++ String.intercalate ", " names
  | .badSignature text => "Lambda signature should be only tuples and symbols, got " ++ text
  | .repeatedSymbol name => "Duplicate symbol " ++ name
  | .unknownName name => "name '" ++ name ++ "' is not defined"
  | .notFloat text => "string-float not recognized: " ++ text
  | .notIndex kind =>
      "'" ++ Text.clip kindRoom kind ++ "' object cannot be interpreted as an integer"
  | .badOperand function kind =>
      "bad operand type for " ++ function ++ "(): '" ++ Text.clip kindRoom kind ++ "'"
  | .noArguments function given =>
      function ++ "() takes no arguments (" ++ Nat.repr given ++ " given)"
  | .noSuchPart => "substring not found"
  | .noSuchItem value => value ++ " is not in list"
  | .noSuchMember => "tuple.index(x): x not in tuple"
  | .emptyList => "pop from empty list"
  | .notJoinedText place kind =>
      "sequence item " ++ Nat.repr place ++ ": expected str instance, " ++
        Text.clip kindRoom kind ++ " found"
  | .noCharacter => "chr() arg not in range(0x110000)"
  | .notCharacter length =>
      "ord() expected a character, but string of length " ++ Nat.repr length ++ " found"
  | .notCharacterText kind =>
      "ord() expected string of length 1, but " ++ Text.clip kindRoom kind ++ " found"
  | .notClass => "isinstance() arg 2 must be a type, a tuple of types, or a union"
  | .notRounded => "Cannot round symbolic expression"
  | .notVaried text => "\n" ++ Text.filled 70 ("Can't calculate derivative wrt " ++ text ++ ".")
  | .countFirst n => "First variable cannot be a number: " ++ Int.repr n
  | .noVariables several text => "\n" ++ Text.filled 70 (
      (if several then "Since there is more than one variable in the expression, the variable(s) "
      else "Since there are no variables in the expression, the variable(s) ") ++
        "of differentiation must be supplied to differentiate " ++ text)
  | .noSymbols => "no symbols given"
  | .missingSymbol => "missing symbol between commas"
  | .noInverse a n =>
      "inverse of " ++ Int.repr a ++ " (mod " ++ Int.repr n ++ ") does not exist"
  | .noRangeEnd => "missing end range"
  | .notWhole text => text ++ " is not an integer"
  | .noEarlierPrime => "no preceding primes"
  | .misfit m => m.message
  | .noBranches => "At least one (expr, cond) pair expected."
  | .notCondition kind =>
      "\n" ++ Text.filled 70 ("Second argument must be a Boolean, not \x60" ++ kind ++ "\x60")
  | .notRegistered name =>
      "Attribute " ++ Text.quoted name ++ " was not installed on SymPy registry S"

/-- A value is no term of the logic. -/
def notTerm (value : String) : Fault := .failure (.notTerm value)

/-- A fault that names an expression. An integer in it that has too many digits is a
fault of its own. -/
def naming (cause : String → Fault) (e : Expression) : Fault :=
  match e.text? with
  | .ok text => cause text
  | .error e => .failure e

end Fault

/-- A failure of the library is a fault of the step that meets it. -/
instance : MonadLift (Except Failure) (Except Fault) := ⟨fun r => r.mapError .failure⟩

end Clausal.Worksheet
