import Clausal.Proofs.Segmentation
import Clausal.Proofs.Reader.Places

/-!
# Texts of words with spaces between them

A space ends every name, and no spelling goes on behind a space. So a text of spellings with
single spaces between them has their lexemes as its tokens, at the places of the spellings,
whichever ones were chosen for the lexemes. Nothing else is read, and therefore two texts with
the same lexemes are the same formula, or both have their error at the same word
(`Word.joined_spec`).
-/

namespace Clausal

/-- A lexeme with one of its spellings. -/
structure Word where
  lexeme : Lexeme
  text : String
  spells : Spells lexeme text.toList []

namespace Word

/-- The text of the words, with single spaces between them. -/
def joined (words : List Word) : String := " ".intercalate (words.map text)

/-- What stands before a word: the words before it, each with a space behind it. -/
def preceding (before : List Word) : List Char :=
  before.flatMap fun word => word.text.toList ++ [' ']

/-- The tokens of words that start at a position. -/
def tokensFrom (pos : Nat) : List Word → List Token
  | [] => []
  | word :: words => ⟨word.lexeme, pos⟩ :: tokensFrom (pos + word.text.toList.length + 1) words

theorem toList_joined_cons_cons (word next : Word) (words : List Word) :
    (joined (word :: next :: words)).toList =
      word.text.toList ++ ' ' :: (joined (next :: words)).toList := by
  rw [joined, List.map_cons, List.map_cons, String.intercalate_cons_cons, String.toList_append,
    String.toList_append, List.append_assoc]
  rfl

/-- A spelling in front of a text that is scanned. -/
theorem scanFrom_of_spells {l : Lexeme} {cs rest : List Char} {pos : Nat} {ts : List Token}
    (spells : Spells l cs rest) (others : scanFrom (pos + cs.length) rest = .ok ts) :
    scanFrom pos (cs ++ rest) = .ok (⟨l, pos⟩ :: ts) := by
  have fits : IsPiece (some l) cs rest := spells
  obtain ⟨c, cs, rfl⟩ := exists_cons_of_isPiece fits
  rw [List.length_cons, Nat.add_comm cs.length, ← Nat.add_assoc] at others
  exact scanFrom_piece fits others

/-- Words with blanks between them are scanned one by one. -/
theorem scanFrom_joined (pos : Nat) (words : List Word) :
    scanFrom pos (joined words).toList = .ok (tokensFrom pos words) := by
  induction words generalizing pos with
  | nil =>
      rw [joined, List.map_nil, String.intercalate_nil, String.toList_empty, scanFrom, tokensFrom]
  | cons word words ih =>
      cases words with
      | nil =>
          have last : scanFrom pos (word.text.toList ++ []) = .ok [⟨word.lexeme, pos⟩] :=
            scanFrom_of_spells word.spells (scanFrom.eq_1 _)
          rw [List.append_nil] at last
          rw [joined, List.map_singleton, String.intercalate_singleton, last, tokensFrom,
            tokensFrom]
      | cons next words =>
          rw [toList_joined_cons_cons]
          generalize (joined (next :: words)).toList = cs at ih ⊢
          have ended : Spells word.lexeme word.text.toList (' ' :: cs) :=
            word.spells.before fun c first => .inl (Option.some.inj first ▸ by decide)
          have space : Ignorable [' '] cs := .blank (by decide)
          refine scanFrom_of_spells ended ?_
          exact (scanFrom_of_ignorable _ space).trans (ih _)

/-- The tokens of words are those that the words spell. -/
theorem map_lexeme_tokensFrom (pos : Nat) (words : List Word) :
    (tokensFrom pos words).map Token.lexeme = words.map lexeme := by
  induction words generalizing pos with
  | nil => rfl
  | cons word words ih => rw [tokensFrom, List.map_cons, List.map_cons, ih]

/-- A token has the place of its word. -/
theorem getElem?_tokensFrom (pos : Nat) (before : List Word) (word : Word) (after : List Word) :
    (tokensFrom pos (before ++ word :: after))[before.length]? =
      some ⟨word.lexeme, pos + (preceding before).length⟩ := by
  induction before generalizing pos with
  | nil => rfl
  | cons earlier before ih =>
      have next : (preceding (earlier :: before)).length =
          earlier.text.toList.length + 1 + (preceding before).length := by
        rw [preceding, List.flatMap_cons, List.length_append, List.length_append, ← preceding]
        rfl
      rw [List.cons_append, tokensFrom, List.length_cons, List.getElem?_cons_succ, ih, next,
        ← Nat.add_assoc, ← Nat.add_assoc]

/-- The text of a word stands in its place. -/
theorem prefix_joined (before : List Word) (word : Word) (after : List Word) :
    preceding before ++ word.text.toList <+: (joined (before ++ word :: after)).toList := by
  induction before with
  | nil =>
      cases after with
      | nil =>
          rw [List.nil_append, joined, List.map_singleton, String.intercalate_singleton]
          exact List.prefix_rfl
      | cons next after =>
          rw [List.nil_append, toList_joined_cons_cons]
          exact List.prefix_append _ _
  | cons earlier before ih =>
      obtain ⟨first, others, split⟩ : ∃ first others, before ++ word :: after = first :: others :=
        List.exists_cons_of_ne_nil (List.append_ne_nil_of_right_ne_nil _ (List.cons_ne_nil _ _))
      rw [split] at ih
      rw [List.cons_append, split, toList_joined_cons_cons, preceding, List.flatMap_cons,
        ← preceding, List.append_assoc, List.append_assoc, List.singleton_append]
      exact (List.prefix_append_right_inj _).mpr ((List.prefix_cons_inj _).mpr ih)

/-- Words with blanks between them have one token each. -/
theorem scan_joined (words : List Word) :
    scan (joined words) = .ok ⟨tokensFrom 0 words, (joined words).length⟩ := by
  rw [scan, scanFrom_joined]
  rfl

/-- Words with single spaces between them have their lexemes as tokens, and each is found where
its word stands. What is read depends on the lexemes only: with other spellings the text is the
same formula, or the same word is refused for the same reason, or the end of the text is. -/
theorem joined_spec (words : List Word) :
    (∃ s, scan (joined words) = .ok s ∧ s.finish = (joined words).length ∧
        s.tokens.map Token.lexeme = words.map lexeme ∧
        ∀ before word after, words = before ++ word :: after →
          s.tokens[before.length]? = some ⟨word.lexeme, (preceding before).length⟩ ∧
            preceding before ++ word.text.toList <+: (joined words).toList) ∧
      ∀ others : List Word, others.map lexeme = words.map lexeme →
        (∃ f, Formula.parse (joined words) = .ok f ∧ Formula.parse (joined others) = .ok f) ∨
          ∃ s t, scan (joined words) = .ok s ∧ scan (joined others) = .ok t ∧
            ∃ (k : Nat) (wanted : Wanted) (found : Option Lexeme) (p q : Nat),
              (s.ended[k]? = some (found, p) ∧
                Formula.parse (joined words) = .error (.parse ⟨wanted, found, p⟩)) ∧
              t.ended[k]? = some (found, q) ∧
                Formula.parse (joined others) = .error (.parse ⟨wanted, found, q⟩) := by
  refine ⟨⟨_, scan_joined words, rfl, map_lexeme_tokensFrom 0 words, ?_⟩, fun others same => ?_⟩
  · rintro before word after rfl
    refine ⟨?_, prefix_joined before word after⟩
    rw [getElem?_tokensFrom, Nat.zero_add]
  · have lexemes : (tokensFrom 0 words).map Token.lexeme =
        (tokensFrom 0 others).map Token.lexeme := by
      rw [map_lexeme_tokensFrom, map_lexeme_tokensFrom, same]
    have scanned := scan_joined words
    have scannedOthers := scan_joined others
    rcases Formula.parse_congr scanned scannedOthers lexemes with accepted | refused
    · exact .inl accepted
    · exact .inr ⟨_, _, scanned, scannedOthers, refused⟩

/-- The command for a conjunction is longer than the sign, so what comes next stands elsewhere.
Where a formula is missing, the error is at that place. -/
theorem joined_spec_wedge :
    ∃ words others : List Word, joined words = "P \\land ]" ∧ joined others = "P ∧ )" ∧
      others.map lexeme = words.map lexeme ∧
      (∃ s, scan "P \\land ]" = .ok s ∧ s.tokens[2]? = some ⟨.closing, 8⟩) ∧
      Formula.parse "P \\land ]" = .error (.parse ⟨.formula, some .closing, 8⟩) ∧
      Formula.parse "P ∧ )" = .error (.parse ⟨.formula, some .closing, 4⟩) := by
  have named : Spells (.ident "P") "P".toList [] := .identifier (by decide) nofun
  have command : Spells (.connective (.junction .and)) ('\\' :: "land".toList) [] :=
    .command (by decide) nofun
  have sign : Spells (.connective (.junction .and)) ['∧'] [] := .sign (by decide)
  have bracket : Spells .closing [']'] [] := .sign (by decide)
  have parenthesis : Spells .closing [')'] [] := .sign (by decide)
  have scannedOther : scan "P ∧ )" = .ok ⟨[⟨.ident "P", 0⟩, ⟨.connective (.junction .and), 2⟩,
      ⟨.closing, 4⟩], 5⟩ := by
    decide +kernel
  have refused : Formula.parse "P \\land ]" =
      .error (.parse ⟨.formula, some .closing, 8⟩) := by
    decide +kernel
  obtain ⟨⟨s, scanned, -, -, places⟩, readings⟩ :=
    joined_spec [⟨_, "P", named⟩, ⟨_, "\\land", command⟩, ⟨_, "]", bracket⟩]
  have eight : (preceding [⟨_, "P", named⟩, ⟨_, "\\land", command⟩]).length = 8 := by
    simp [preceding]
  obtain ⟨place, -⟩ := places [⟨_, "P", named⟩, ⟨_, "\\land", command⟩] _ [] rfl
  rw [eight] at place
  refine ⟨[⟨_, "P", named⟩, ⟨_, "\\land", command⟩, ⟨_, "]", bracket⟩],
    [⟨_, "P", named⟩, ⟨_, "∧", sign⟩, ⟨_, ")", parenthesis⟩], rfl, rfl, rfl,
    ⟨s, scanned, place⟩, refused, ?_⟩
  rcases readings [⟨_, "P", named⟩, ⟨_, "∧", sign⟩, ⟨_, ")", parenthesis⟩] rfl with
    ⟨f, read, -⟩ | ⟨_, t, -, found, k, _, _, _, q, ⟨-, failed⟩, there, failedOther⟩
  · exact nomatch refused.symm.trans read
  · obtain rfl := Except.ok.inj (scannedOther.symm.trans found)
    have same := ReadError.parse.inj (Except.error.inj (refused.symm.trans failed))
    obtain ⟨rfl, rfl, rfl⟩ := ParseError.mk.inj same
    -- There is only one bracket in the other text.
    obtain rfl : q = 4 := by simpa [Scanned.ended] using List.mem_of_getElem? there
    exact failedOther

end Word

end Clausal
