import Clausal.Formula.Reader

/-!
# Steps of the readers

What every reader does at the next token, as one equation for each kind of token that
matters to it. A reader that goes on only at certain lexemes stops where the tokens are
`Unread` by it. Looking ahead for a term is reading one
(`Lookahead.term?_eq_toOption`).
-/

namespace Clausal

variable {α β : Type}

/-- The next token, if there is one, carries none of the lexemes. -/
def Unread (lexemes : List Lexeme) (ts : List Token) : Prop :=
  ∀ t ∈ ts.head?, t.lexeme ∉ lexemes

theorem unread_nil (lexemes : List Lexeme) : Unread lexemes [] := fun _ member => nomatch member

theorem unread_cons {lexemes : List Lexeme} {t : Token} {ts : List Token} :
    Unread lexemes (t :: ts) ↔ t.lexeme ∉ lexemes := by
  simp only [Unread, List.head?_cons, Option.mem_some_iff, forall_eq']

/-- It does not matter what comes after the next token. -/
theorem Unread.append {lexemes : List Lexeme} {t : Token} {ts : List Token}
    (unread : Unread lexemes (t :: ts)) (ext : List Token) : Unread lexemes (t :: ts ++ ext) :=
  unread_cons.mpr (unread_cons.mp unread)

/-- Fewer lexemes are not read either. -/
theorem Unread.mono {lexemes fewer : List Lexeme} {ts : List Token} (unread : Unread lexemes ts)
    (subset : fewer ⊆ lexemes) : Unread fewer ts :=
  fun t member inFewer => unread t member (subset inFewer)

/-- A token is read next, or it is not. -/
theorem starts_or_unread (l : Lexeme) (ts : List Token) :
    (∃ pos rest, ts = ⟨l, pos⟩ :: rest) ∨ Unread [l] ts := by
  cases ts with
  | nil => exact .inr (unread_nil _)
  | cons t ts =>
      by_cases same : t.lexeme = l
      · exact .inl ⟨t.pos, ts, by rw [← same]⟩
      · exact .inr (unread_cons.mpr (by rwa [List.mem_singleton]))

namespace Reader

variable {item : Reader α} {ts : List Token}

/-- A comma is followed by one more item. -/
theorem more_comma (bound pos : Nat) (ts : List Token) :
    more item (bound + 1) (⟨.comma, pos⟩ :: ts) =
      item ts >>= fun x => more item bound x.2 >>= fun y => .ok (x.1 :: y.1, y.2) := rfl

/-- Without a comma there is no further item. -/
theorem more_of_unread (bound : Nat) (stop : Unread [.comma] ts) :
    more item bound ts = .ok ([], ts) := by
  unfold more
  split
  · exact absurd (List.mem_singleton_self _) (unread_cons.mp stop)
  · rfl

theorem more_zero (ts : List Token) : more item 0 ts = .ok ([], ts) := rfl

/-- Items with commas between them are a first one and further ones. -/
theorem separated_eq (ts : List Token) :
    separated item ts =
      item ts >>= fun x => more item x.2.length x.2 >>= fun y => .ok (x.1 :: y.1, y.2) := rfl

/-- Arguments are items with commas between them, up to the closing bracket. -/
theorem arguments_of_unread (other : Unread [.closing] ts) :
    arguments item ts =
      separated item ts >>= fun x => closing x.2 >>= fun y => .ok (x.1, y.2) := by
  unfold arguments
  split
  · exact absurd (List.mem_singleton_self _) (unread_cons.mp other)
  · rfl

/-- Reads a name, with an argument list if brackets follow it. Terms and predicates are
read in this way and differ in what they make of the parts. -/
def application (args : Reader (List Term)) (bare : String → β)
    (applied : String → List Term → β) : Reader β := fun ts => do
  let (name, ts) ← identifier ts
  match ts with
  | ⟨.opening, _⟩ :: ts =>
      let (args, ts) ← args ts
      .ok (applied name args, ts)
  | ts => .ok (bare name, ts)

/-- A term is a name that may have terms as arguments. -/
theorem term_succ (bound : Nat) :
    term (bound + 1) = application (arguments (term bound)) .sym Term.applied := rfl

/-- A predicate is a name that may have terms as arguments. -/
theorem predicate_eq :
    predicate = application (fun ts => arguments (term ts.length) ts) (.pred · []) .pred := rfl

section Application

variable (args : Reader (List Term)) (bare : String → β) (applied : String → List Term → β)

/-- A name with an opening bracket behind it has arguments. -/
theorem application_opening (name : String) (pos pos' : Nat) (ts : List Token) :
    application args bare applied (⟨.ident name, pos⟩ :: ⟨.opening, pos'⟩ :: ts) =
      args ts >>= fun x => .ok (applied name x.1, x.2) := rfl

/-- A name without an opening bracket behind it stands alone. -/
theorem application_of_unread (name : String) (pos : Nat) (stop : Unread [.opening] ts) :
    application args bare applied (⟨.ident name, pos⟩ :: ts) = .ok (bare name, ts) := by
  change (match ts with
    | ⟨.opening, _⟩ :: ts => _
    | ts => _) = _
  split
  · exact absurd (List.mem_singleton_self _) (unread_cons.mp stop)
  · rfl

/-- Tokens that do not start with an identifier are refused. -/
theorem application_cases (ts : List Token) :
    (∃ name pos rest, ts = ⟨.ident name, pos⟩ :: rest) ∨
      application args bare applied ts = .error ⟨.identifier, ts.head?⟩ := by
  rcases ts with _ | ⟨⟨lexeme, pos⟩, ts⟩
  · exact .inr rfl
  · cases lexeme with
    | ident name => exact .inl ⟨name, pos, ts, rfl⟩
    | _ => exact .inr rfl

end Application

end Reader

namespace Lookahead

open Reader

/-- Looking ahead for the end of an argument list is reading it. -/
theorem more?_eq_toOption {item : Reader α} {item? : List Token → Option (α × List Token)}
    (same : ∀ ts, item? ts = (item ts).toOption) (bound : Nat) (ts : List Token) :
    more? item? bound ts =
      (more item bound ts >>= fun x => closing x.2 >>= fun y => .ok (x.1, y.2)).toOption := by
  induction bound generalizing ts with
  | zero =>
      rw [more_zero]
      rcases ts with _ | ⟨⟨lexeme, pos⟩, ts⟩
      · rfl
      · cases lexeme <;> rfl
  | succ bound ih =>
      rcases ts with _ | ⟨⟨lexeme, pos⟩, ts⟩
      · rfl
      · cases lexeme with
        | comma =>
            rw [more_comma, more?, same]
            cases item ts with
            | error r => rfl
            | ok x =>
                obtain ⟨a, rest⟩ := x
                change (more? item? bound rest).map _ = Except.toOption
                  ((more item bound rest >>= fun y => .ok (a :: y.1, y.2)) >>= fun x =>
                    closing x.2 >>= fun y => .ok (x.1, y.2))
                rw [ih]
                cases more item bound rest with
                | error r => rfl
                | ok y =>
                    change Option.map _ (Except.toOption (closing y.2 >>= _)) =
                      Except.toOption (closing y.2 >>= _)
                    cases closing y.2 <;> rfl
        | _ => rfl

/-- The look-ahead reads a name with arguments, of which there is one at least. -/
theorem term?_opening (bound : Nat) (name : String) (pos pos' : Nat) {ts : List Token}
    (nonempty : Unread [.closing] ts) :
    term? (bound + 1) (⟨.ident name, pos⟩ :: ⟨.opening, pos'⟩ :: ts) =
      match term? bound ts with
      | some (arg, ts) => (more? (term? bound) ts.length ts).map fun x =>
          (.app name (arg :: x.1), x.2)
      | none => none := by
  rcases ts with _ | ⟨⟨lexeme, pos''⟩, ts⟩
  · rfl
  · cases lexeme with
    | closing => exact absurd (List.mem_singleton_self _) (unread_cons.mp nonempty)
    | _ => rfl

/-- The look-ahead reads a name without an opening bracket behind it as a symbol. -/
theorem term?_of_unread (bound : Nat) (name : String) (pos : Nat) {ts : List Token}
    (stop : Unread [.opening] ts) :
    term? (bound + 1) (⟨.ident name, pos⟩ :: ts) = some (.sym name, ts) := by
  rcases ts with _ | ⟨⟨lexeme, pos'⟩, ts⟩
  · rfl
  · cases lexeme with
    | opening => exact absurd (List.mem_singleton_self _) (unread_cons.mp stop)
    | _ => rfl

/-- Looking ahead for a term is reading one. -/
theorem term?_eq_toOption (bound : Nat) (ts : List Token) :
    term? bound ts = (Reader.term bound ts).toOption := by
  induction bound generalizing ts with
  | zero => rcases ts with _ | ⟨_, _⟩ <;> rfl
  | succ bound ih =>
      rcases ts with _ | ⟨⟨lexeme, pos⟩, ts⟩
      · rfl
      · cases lexeme with
        | ident name =>
            rcases starts_or_unread .opening ts with ⟨pos', ts, rfl⟩ | stop
            · rcases starts_or_unread .closing ts with ⟨pos'', ts, rfl⟩ | nonempty
              · rfl
              · rw [term?_opening bound name pos pos' nonempty, term_succ, application_opening,
                  arguments_of_unread nonempty, separated_eq, ih]
                cases term bound ts with
                | error r => rfl
                | ok x =>
                    obtain ⟨arg, rest⟩ := x
                    change (more? (term? bound) rest.length rest).map _ = Except.toOption
                      (((more (term bound) rest.length rest >>= fun y => .ok (arg :: y.1, y.2))
                        >>= fun x => closing x.2 >>= fun y => .ok (x.1, y.2)) >>= _)
                    rw [more?_eq_toOption ih]
                    cases more (term bound) rest.length rest with
                    | error r => rfl
                    | ok y =>
                        change Option.map _ (Except.toOption (closing y.2 >>= _)) =
                          Except.toOption ((closing y.2 >>= _) >>= _)
                        cases closing y.2 <;> rfl
            · rw [term?_of_unread bound name pos stop, term_succ,
                application_of_unread _ _ _ name pos stop]
              rfl
        | _ => rfl

end Lookahead

namespace Reader

variable {ts : List Token}

/-- After a term and the sign of a relation the other side is read, and in every other
case a predicate. -/
theorem atom_eq (ts : List Token) :
    atom ts =
      match term ts.length ts with
      | .ok (lhs, ⟨.relation r, _⟩ :: rest) =>
          term rest.length rest >>= fun x => .ok (.relation r lhs x.1, x.2)
      | _ => predicate ts := by
  unfold atom
  rw [Lookahead.term?_eq_toOption]
  cases term ts.length ts with
  | error r => rfl
  | ok x =>
      obtain ⟨lhs, rest⟩ := x
      rcases rest with _ | ⟨⟨lexeme, pos⟩, rest⟩
      · rfl
      · cases lexeme <;> rfl

/-- A term with the sign of a relation behind it is the left side of the relation. -/
theorem atom_relation {lhs : Term} {r : Relation} {pos : Nat} {rest : List Token}
    (left : term ts.length ts = .ok (lhs, ⟨.relation r, pos⟩ :: rest)) :
    atom ts = term rest.length rest >>= fun x => .ok (.relation r lhs x.1, x.2) := by
  rw [atom_eq, left]

/-- What starts with a term that no sign of a relation follows is read as a predicate. -/
theorem atom_predicate {lhs : Term} {rest : List Token}
    (left : term ts.length ts = .ok (lhs, rest))
    (other : Unread [.relation .eq, .relation .ne] rest) : atom ts = predicate ts := by
  rw [atom_eq, left]
  rcases rest with _ | ⟨⟨lexeme, pos⟩, rest⟩
  · rfl
  · cases lexeme with
    | relation r => exact absurd (by cases r <;> simp) (unread_cons.mp other)
    | _ => rfl

variable {c : Connective} {operand : Reader Formula}

/-- A connective of a level is followed by one more operand, and both are folded to the left. -/
theorem chainRest_connective (bound : Nat) (f : Formula) (pos : Nat) (ts : List Token) :
    chainRest c operand (bound + 1) f (⟨.connective c, pos⟩ :: ts) =
      operand ts >>= fun x => chainRest c operand bound (.binary c f x.1) x.2 := by
  change (if c = c then _ else _) = _
  rw [if_pos rfl]

/-- Without the connective of its level a chain ends. -/
theorem chainRest_of_unread (bound : Nat) (f : Formula) (stop : Unread [.connective c] ts) :
    chainRest c operand bound f ts = .ok (f, ts) := by
  unfold chainRest
  split
  · refine if_neg fun same => unread_cons.mp stop ?_
    rw [same]
    exact List.mem_singleton_self _
  · rfl

/-- A chain is one operand and what follows it. -/
theorem chain_eq (ts : List Token) :
    chain c operand ts = operand ts >>= fun x => chainRest c operand x.2.length x.1 x.2 := rfl

/-- Without a dot nothing is passed over. -/
theorem skipDot_of_unread (plain : Unread [.dot] ts) : skipDot ts = ts := by
  unfold skipDot
  split
  · exact absurd (List.mem_singleton_self _) (unread_cons.mp plain)
  · rfl

/-- A negation has an operand. -/
theorem operand_neg (bound pos : Nat) (ts : List Token) :
    Reader.operand (bound + 1) (⟨.neg, pos⟩ :: ts) =
      Reader.operand bound ts >>= fun x => .ok (.neg x.1, x.2) := rfl

/-- A quantifier has variables with commas between them, perhaps a dot, and an operand. -/
theorem operand_quantifier (bound : Nat) (q : Quantifier) (pos : Nat) (ts : List Token) :
    Reader.operand (bound + 1) (⟨.quantifier q, pos⟩ :: ts) =
      separated identifier ts >>= fun x =>
        Reader.operand bound (skipDot x.2) >>= fun y => .ok (.quantAll q x.1 y.1, y.2) := rfl

/-- A formula in brackets is an operand. -/
theorem operand_opening (bound pos : Nat) (ts : List Token) :
    Reader.operand (bound + 1) (⟨.opening, pos⟩ :: ts) =
      operators (Reader.operand bound) ts >>= fun x => closing x.2 >>= fun y => .ok (x.1, y.2) :=
  rfl

/-- What starts with a name is an atom. -/
theorem operand_ident (bound : Nat) (name : String) (pos : Nat) (ts : List Token) :
    Reader.operand (bound + 1) (⟨.ident name, pos⟩ :: ts) =
      atom (⟨.ident name, pos⟩ :: ts) >>= fun x => .ok (.atom x.1, x.2) := rfl

end Reader

end Clausal
