import Clausal.Text.Cased
import Clausal.Text.Letters
import Clausal.Text.Digits
import Clausal.Text.Parts
import Clausal.Worksheet.Sequence

/-!
# What can be done with texts

A text can be put into another case, cut, joined and searched, and it answers questions
about its characters.
-/

namespace Clausal.Worksheet

namespace Wording

def methods : List String :=
  ["capitalize", "casefold", "center", "count", "encode", "endswith", "expandtabs", "find",
    "format", "format_map", "index", "isalnum", "isalpha", "isascii", "isdecimal", "isdigit",
    "isidentifier", "islower", "isnumeric", "isprintable", "isspace", "istitle", "isupper", "join",
    "ljust", "lower", "lstrip", "maketrans", "partition", "removeprefix", "removesuffix",
    "replace", "rfind", "rindex", "rjust", "rpartition", "rsplit", "rstrip", "split",
    "splitlines", "startswith", "strip", "swapcase", "title", "translate", "upper", "zfill"]

/-- Another form of a text, for a name of what makes it. -/
def form? (name : String) (cs : List Char) : Option (List Char) :=
  match name with
  | "upper" => some (Text.raised cs)
  | "lower" => some (Text.lowered cs)
  | "casefold" => some (Text.lowered cs)
  | "capitalize" => some (Text.capitalized cs)
  | "title" => some (Text.titled false cs)
  | "swapcase" => some (Text.swapped cs)
  | _ => none

/-- An answer about all characters of a text. -/
def answer? (name : String) (cs : List Char) : Option Bool :=
  let all (p : Char → Bool) : Bool := !cs.isEmpty && cs.all p
  let cased := cs.any Text.isCased
  match name with
  | "isalnum" => some (all fun c => Text.continuesName c && c ≠ '_')
  | "isalpha" => some (all Text.isLetter)
  | "isdecimal" => some (all Text.isDecimalDigit)
  | "isdigit" => some (all Text.isDecimalDigit)
  | "isnumeric" => some (all Text.isNumeral)
  | "isspace" => some (all Text.isBlank)
  | "isascii" => some (cs.all fun c => c.toNat < 128)
  | "isupper" => some (cased && !cs.any Char.isLower)
  | "islower" => some (cased && !cs.any Char.isUpper)
  | "istitle" => some (cased && Text.titled false cs = cs)
  | "isidentifier" => some (cs.head?.any Text.startsName && cs.all Text.continuesName)
  | _ => none

/-- The characters that are taken away at the ends of a text. -/
def margin? : List Value → Option (Char → Bool)
  | [] => some Text.isBlank
  | [.scalar .null] => some Text.isBlank
  | [.scalar (.text s)] => some s.toList.contains
  | _ => none

/-- A text without the characters at its ends that are to be taken away. -/
def stripped? (name : String) (cs : List Char) (among : Char → Bool) : Option (List Char) :=
  match name with
  | "strip" => some (Text.withoutFront among (Text.withoutEnd among cs))
  | "lstrip" => some (Text.withoutFront among cs)
  | "rstrip" => some (Text.withoutEnd among cs)
  | _ => none

/-- A text with characters beside it up to a width. -/
def widened? (name : String) (cs : List Char) (width : Nat) (fill : Char) : Option (List Char) :=
  let missing := width - cs.length
  let front := missing / 2 + (if missing % 2 = 1 ∧ width % 2 = 1 then 1 else 0)
  match name with
  | "ljust" => some (Text.padded 0 missing fill cs)
  | "rjust" => some (Text.padded missing 0 fill cs)
  | "center" => some (Text.padded front (missing - front) fill cs)
  | "zfill" =>
      match cs with
      | c :: rest =>
          if c = '-' ∨ c = '+' then some (c :: Text.padded missing 0 '0' rest)
          else some (Text.padded missing 0 '0' cs)
      | [] => some (Text.padded missing 0 '0' cs)
  | _ => none

/-- The last place of a part in a text. -/
def lastPlaceOf? (part cs : List Char) : Option Nat :=
  (Text.placeOf? part.reverse cs.reverse).map fun n => cs.length - n - part.length

def ofChars (cs : List Char) : Value := .ofText (String.ofList cs)

/-- A text before, at and after a place where a part stands. -/
def parted (part cs : List Char) (place? : Option Nat) (atEnd : Bool) : Value :=
  match place? with
  | some n => .tuple [ofChars (cs.take n), ofChars part, ofChars (cs.drop (n + part.length))]
  | none => .tuple (if atEnd then [.ofText "", .ofText "", ofChars cs]
      else [ofChars cs, .ofText "", .ofText ""])

/-- What is done with a text and another one. -/
def withText? (name : String) (cs part : List Char) : Option (Except Fault Value) :=
  let found (place? : Option Nat) : Except Fault Value :=
    .ok (.scalar (.int (place?.elim (-1) fun n => n)))
  let placed (place? : Option Nat) : Except Fault Value :=
    place?.elim (.error .noSuchPart) fun n => .ok (.ofNat n)
  match name with
  | "find" => some (found (Text.placeOf? part cs))
  | "index" => some (placed (Text.placeOf? part cs))
  | "rfind" => some (found (lastPlaceOf? part cs))
  | "rindex" => some (placed (lastPlaceOf? part cs))
  | "startswith" => some (.ok (.ofBool (part.isPrefixOf cs)))
  | "endswith" => some (.ok (.ofBool (part.isSuffixOf cs)))
  | "removeprefix" =>
      some (.ok (ofChars (if part.isPrefixOf cs then cs.drop part.length else cs)))
  | "removesuffix" =>
      some (.ok (ofChars
        (if part.isSuffixOf cs then cs.take (cs.length - part.length) else cs)))
  | "count" =>
      some (.ok (.ofNat (if part.isEmpty then cs.length + 1
        else (Text.pieces part none cs).length - 1)))
  | "partition" => some (.ok (parted part cs (Text.placeOf? part cs) false))
  | "rpartition" => some (.ok (parted part cs (lastPlaceOf? part cs) true))
  | "split" => some (.ok (.list ((Text.pieces part none cs).map ofChars)))
  | "rsplit" => some (.ok (.list ((Text.pieces part none cs).map ofChars)))
  | _ => none

def joined (between : String) (v : Value) : Except Fault Value := do
  let items ← v.items
  let texts ← items.zipIdx.mapM fun (item, place) =>
    match item with
    | .scalar (.text s) => .ok s
    | v => .error (.notJoinedText place v.kind)
  .ok (.ofText (between.intercalate texts))

def applied (s name : String) (args : List Value) : Except Fault Value :=
  let cs := s.toList
  match name, args, form? name cs, answer? name cs with
  | _, [], some changed, _ => .ok (ofChars changed)
  | _, [], none, some b => .ok (.ofBool b)
  | name, args, some _, _ => .error (.noArguments ("str." ++ name) args.length)
  | name, args, none, some _ => .error (.noArguments ("str." ++ name) args.length)
  | "join", [v], _, _ => joined s v
  | "split", [], _, _ => .ok (.list ((Text.wordsOf cs).map ofChars))
  | "rsplit", [], _, _ => .ok (.list ((Text.wordsOf cs).map ofChars))
  | "splitlines", [], _, _ =>
      .ok (.list (if cs.isEmpty then [] else (cs.splitOn '\n').map ofChars))
  | "encode", _, _, _ => .ok (.thing "bytes")
  | "format", _, _, _ =>
      if cs.any fun c => c = '\x7b' || c = '\x7d' then .error .inapplicable else .ok (.ofText s)
  | "replace", [.scalar (.text old), .scalar (.text new)], _, _ =>
      .ok (.ofText (new.intercalate ((Text.pieces old.toList none cs).map String.ofList)))
  | name, args, none, none =>
      match (margin? args).bind (stripped? name cs), args with
      | some rest, _ => .ok (ofChars rest)
      | none, [.scalar (.text part)] =>
          (withText? name cs part.toList).getD (.error .inapplicable)
      | none, [v] =>
          match v.integer?.bind fun n => widened? name cs n.toNat ' ' with
          | some wide => .ok (ofChars wide)
          | none => .error .inapplicable
      | none, [v, .scalar (.text fill)] =>
          match v.integer?.bind fun n => widened? name cs n.toNat (fill.toList.headD ' ') with
          | some wide => .ok (ofChars wide)
          | none => .error .inapplicable
      | none, _ => .error .inapplicable

end Wording

end Clausal.Worksheet
