import Clausal.Proofs.Reader.Soundness

/-!
# Looking ahead and reading

The arguments of a term are read by one loop, looked for by another and read as the arguments of a
predicate by a third. All of them go the same way through the tokens, however the brackets are
nested or broken off. Looking ahead ends where reading a term ends, and if no relation follows
there, a predicate with the same name and arguments is read up to the same place
(`Reader.lookahead_spec`).

The bounds on the nesting are no part of this: a term is the same with every bound that is not less
than the number of tokens (`Reader.term_eq_of_length_le`).
-/

namespace Clausal

namespace Lookahead

variable {bound : Nat} {ts rest : List Token} {t : Term}

/-- The look-ahead finds a term exactly where the reader does. -/
theorem term?_eq_some_iff :
    term? bound ts = some (t, rest) ↔ Reader.term bound ts = .ok (t, rest) := by
  rw [term?_eq_toOption]
  cases Reader.term bound ts <;> simp [Except.toOption]

/-- The look-ahead finds no term exactly where the reader has an error. -/
theorem term?_eq_none_iff : term? bound ts = none ↔ ∃ r, Reader.term bound ts = .error r := by
  rw [term?_eq_toOption]
  cases Reader.term bound ts <;> simp [Except.toOption]

end Lookahead

namespace Reader

variable {α β : Type} {item item' : Reader α} {ts : List Token}

section

variable {n : Nat} (shrinks : ∀ us a rest, item us = .ok (a, rest) → rest.length ≤ us.length)
  (same : ∀ us : List Token, us.length ≤ n → item us = item' us)
include shrinks same

/-- Readers that agree on few tokens agree on what is left of them. -/
theorem more_congr (bound : Nat) (bounded : ts.length ≤ n) :
    more item bound ts = more item' bound ts := by
  induction bound generalizing ts with
  | zero => rfl
  | succ bound ih =>
      rcases starts_or_unread .comma ts with ⟨pos, ts, rfl⟩ | stop
      · rw [List.length_cons] at bounded
        rw [more_comma, more_comma, ← same ts (by omega)]
        cases read : item ts with
        | error r => rfl
        | ok x =>
            obtain ⟨a, rest⟩ := x
            have shorter := shrinks ts a rest read
            change (more item bound rest >>= _) = more item' bound rest >>= _
            rw [ih (by omega)]
      · rw [more_of_unread (bound + 1) stop, more_of_unread (bound + 1) stop]

/-- Items with commas between them depend on how fewer tokens are read. -/
theorem separated_congr (bounded : ts.length ≤ n) : separated item ts = separated item' ts := by
  rw [separated_eq, separated_eq, ← same ts bounded]
  cases read : item ts with
  | error r => rfl
  | ok x =>
      obtain ⟨a, rest⟩ := x
      have shorter := shrinks ts a rest read
      change (more item rest.length rest >>= _) = more item' rest.length rest >>= _
      rw [more_congr shrinks same rest.length (by omega)]

/-- Arguments depend on how fewer tokens are read. -/
theorem arguments_congr (bounded : ts.length ≤ n) : arguments item ts = arguments item' ts := by
  rcases starts_or_unread .closing ts with ⟨pos, ts, rfl⟩ | nonempty
  · rfl
  · rw [arguments_of_unread nonempty, arguments_of_unread nonempty,
      separated_congr shrinks same bounded]

end

section Application

variable {args args' : Reader (List Term)} {bare : String → β} {applied : String → List Term → β}

/-- A name with arguments depends on how the tokens behind the bracket are read. -/
theorem application_congr (same : ∀ us : List Token, us.length < ts.length → args us = args' us) :
    application args bare applied ts = application args' bare applied ts := by
  rcases ts with _ | ⟨⟨lexeme, pos⟩, ts⟩
  · rfl
  · cases lexeme with
    | ident name =>
        rcases starts_or_unread .opening ts with ⟨pos', ts, rfl⟩ | stop
        · rw [application_opening, application_opening, same ts]
          rw [List.length_cons, List.length_cons]
          omega
        · rw [application_of_unread args bare applied name pos stop,
            application_of_unread args' bare applied name pos stop]
    | _ => rfl

end Application

/-- Arguments are read in the same way with any bounds for which terms are. -/
theorem arguments_term_congr {bound bound' : Nat}
    (same : ∀ us : List Token, us.length ≤ ts.length → term bound us = term bound' us) :
    arguments (term bound) ts = arguments (term bound') ts := by
  refine arguments_congr (fun us a rest read => ?_) same le_rfl
  exact (read ▸ taken_term bound us).length_le

/-- It does not matter by how much a bound exceeds the number of tokens. -/
theorem term_eq_of_length_le {bound bound' : Nat} (enough : ts.length ≤ bound)
    (enough' : ts.length ≤ bound') : term bound ts = term bound' ts := by
  induction bound generalizing bound' ts with
  | zero =>
      obtain rfl := List.eq_nil_of_length_eq_zero (Nat.le_zero.mp enough)
      cases bound' <;> rfl
  | succ bound ih =>
      rcases ts with _ | ⟨t, ts⟩
      · cases bound' <;> rfl
      · rw [List.length_cons] at enough enough'
        obtain ⟨bound', rfl⟩ := Nat.exists_eq_succ_of_ne_zero (n := bound') (by omega)
        rw [term_succ, term_succ]
        refine application_congr fun us shorter => arguments_term_congr fun vs shorter' => ?_
        rw [List.length_cons] at shorter
        exact ih (by omega) (by omega)

/-- Reads a name and its arguments. There are none if no brackets follow the name. -/
def parts : Reader (String × List Term) :=
  application (fun ts => arguments (term ts.length) ts) (·, []) Prod.mk

/-- What is made of a name and its arguments does not change how they are read. -/
theorem application_eq_mapped (args : Reader (List Term)) {bare : String → β}
    {applied : String → List Term → β} (alone : ∀ name, bare name = applied name [])
    (ts : List Token) : application args bare applied ts =
      application args (·, []) Prod.mk ts >>= fun x => .ok (applied x.1.1 x.1.2, x.2) := by
  rcases ts with _ | ⟨⟨lexeme, pos⟩, ts⟩
  · rfl
  · cases lexeme with
    | ident name =>
        rcases starts_or_unread .opening ts with ⟨pos', ts, rfl⟩ | stop
        · rw [application_opening, application_opening]
          cases args ts <;> rfl
        · rw [application_of_unread args bare applied name pos stop,
            application_of_unread args _ _ name pos stop, alone]
          rfl
    | _ => rfl

/-- A predicate is read off its name and its arguments. -/
theorem predicate_eq_parts (ts : List Token) :
    predicate ts = parts ts >>= fun x => .ok (.pred x.1.1 x.1.2, x.2) :=
  application_eq_mapped _ (fun _ => rfl) ts

/-- A term is read off its name and its arguments. -/
theorem term_eq_parts (ts : List Token) :
    term ts.length ts = parts ts >>= fun x => .ok (Term.applied x.1.1 x.1.2, x.2) := by
  rcases ts with _ | ⟨t, ts⟩
  · rfl
  · rw [List.length_cons, term_succ]
    refine (application_congr fun us shorter => ?_).trans
      (application_eq_mapped _ (fun _ => rfl) (t :: ts))
    rw [List.length_cons] at shorter
    exact arguments_term_congr fun vs shorter' => term_eq_of_length_le (by omega) shorter'

/-- A predicate is refused as a term is, and the parts of a term are those of the predicate. -/
theorem predicate_of_term (ts : List Token) : match term ts.length ts with
    | .error r => predicate ts = .error r
    | .ok (t, rest) => ∃ name args,
        t = Term.applied name args ∧ predicate ts = .ok (.pred name args, rest) := by
  rw [term_eq_parts, predicate_eq_parts]
  cases parts ts with
  | error r => rfl
  | ok x => exact ⟨x.1.1, x.1.2, rfl, rfl⟩

/-- A term starts with its name, so reading it goes on by a token at least. -/
theorem exists_drop_of_term {bound i : Nat} {tokens rest : List Token} {t : Term}
    (read : term bound (tokens.drop i) = .ok (t, rest)) :
    ∃ j, i < j ∧ j ≤ tokens.length ∧ rest = tokens.drop j := by
  obtain ⟨used, split, spelled⟩ := taken_ok_iff.mp (read ▸ taken_term bound (tokens.drop i))
  obtain ⟨name, ls, starts⟩ := spelled.starts
  obtain ⟨first, used, rfl, _⟩ := List.map_eq_cons_iff.mp starts
  have counted := congrArg List.length split
  rw [List.length_drop, List.length_append, List.length_cons] at counted
  refine ⟨i + (first :: used).length, ?_, ?_, ?_⟩
  · rw [List.length_cons]
    omega
  · rw [List.length_cons]
    omega
  · rw [← List.drop_drop, split, List.drop_left]

/-- The tokens from a place on, with any bounds on the nesting that are not less than their number.
Looking ahead finds a term exactly if the same term is read up to the same place, and finds none
exactly if reading one is refused. The place is behind the first token and within the list. If what
is found is not the left side of a relation, the atom is the predicate that starts where the term
does; it has the name and the arguments of the term and ends where the term does. If nothing is
found, the predicate is refused at the same token and for the same reason as the term. -/
theorem lookahead_spec (tokens : List Token) (i : Nat) :
    (∀ bound bound', tokens.length ≤ i + bound → tokens.length ≤ i + bound' →
      (∀ t rest, Lookahead.term? bound (tokens.drop i) = some (t, rest) ↔
        term bound' (tokens.drop i) = .ok (t, rest)) ∧
      (Lookahead.term? bound (tokens.drop i) = none ↔
        ∃ r, term bound' (tokens.drop i) = .error r)) ∧
    (∀ t rest, Lookahead.term? (tokens.drop i).length (tokens.drop i) = some (t, rest) →
      (∃ j, i < j ∧ j ≤ tokens.length ∧ rest = tokens.drop j) ∧
      (Unread [.relation .eq, .relation .ne] rest →
        ∃ name args, t = Term.applied name args ∧
          atom (tokens.drop i) = predicate (tokens.drop i) ∧
          predicate (tokens.drop i) = .ok (.pred name args, rest))) ∧
    ∀ r, term (tokens.drop i).length (tokens.drop i) = .error r →
      atom (tokens.drop i) = .error r := by
  refine ⟨fun bound bound' enough enough' => ?_, fun t rest found => ?_, fun r refused => ?_⟩
  · have same : term bound (tokens.drop i) = term bound' (tokens.drop i) := by
      apply term_eq_of_length_le <;> rw [List.length_drop] <;> omega
    rw [← same]
    exact ⟨fun t rest => Lookahead.term?_eq_some_iff, Lookahead.term?_eq_none_iff⟩
  · have read := Lookahead.term?_eq_some_iff.mp found
    have parts := predicate_of_term (tokens.drop i)
    rw [read] at parts
    obtain ⟨name, args, same, predicated⟩ := parts
    refine ⟨exists_drop_of_term read, fun other => ⟨name, args, same, ?_, predicated⟩⟩
    exact atom_predicate read other
  · have parts := predicate_of_term (tokens.drop i)
    rw [refused] at parts
    rw [atom_eq, refused]
    exact parts

/-- Brackets that are broken off are refused at the end, although a term starts in them. -/
example : Lookahead.term? 6 [⟨.ident "f", 0⟩, ⟨.opening, 1⟩, ⟨.ident "x", 2⟩, ⟨.comma, 3⟩] = none ∧
    atom [⟨.ident "f", 0⟩, ⟨.opening, 1⟩, ⟨.ident "x", 2⟩, ⟨.comma, 3⟩] =
      .error ⟨.identifier, none⟩ := by
  decide

end Reader

end Clausal
