import Clausal.Proofs.Reader.Refusal

/-!
# Tokens at other places

No reader looks at the positions of its tokens (`Reader.Placeless`). When tokens are moved, it
takes the same ones off and returns the same, or refuses the same one for the same reason. So the
outcome for a text is known from its lexemes, apart from the position in an error, which is that
of the token with the same number (`Formula.parse_congr`).
-/

namespace Clausal

variable {α β : Type}

/-- The token at another place. -/
def Token.moved (g : Nat → Nat) (t : Token) : Token := ⟨t.lexeme, g t.pos⟩

def Refusal.moved (g : Nat → Nat) (r : Refusal) : Refusal :=
  ⟨r.wanted, r.found.map (Token.moved g)⟩

/-- The outcome of a reader with all tokens at other places. -/
def movedOutcome (g : Nat → Nat) :
    Except Refusal (α × List Token) → Except Refusal (α × List Token)
  | .ok (a, rest) => .ok (a, rest.map (Token.moved g))
  | .error r => .error (r.moved g)

/-- The reader does not look at positions. -/
def Reader.Placeless (p : Reader α) : Prop :=
  ∀ g ts, p (ts.map (Token.moved g)) = movedOutcome g (p ts)

variable {g : Nat → Nat} {ts : List Token}

/-- Readers one after another. -/
theorem bind_movedOutcome {outcome : Except Refusal (α × List Token)}
    {next next' : α × List Token → Except Refusal (β × List Token)}
    (follows : ∀ a rest, next' (a, rest.map (Token.moved g)) = movedOutcome g (next (a, rest))) :
    (movedOutcome g outcome >>= next') = movedOutcome g (outcome >>= next) := by
  cases outcome with
  | error r => rfl
  | ok x => exact follows x.1 x.2

/-- A result may be changed without a look at the tokens. -/
theorem mapped_movedOutcome (outcome : Except Refusal (α × List Token)) (h : α → β) :
    (movedOutcome g outcome >>= fun x => .ok (h x.1, x.2)) =
      movedOutcome g (outcome >>= fun x => .ok (h x.1, x.2)) :=
  bind_movedOutcome fun _ _ => rfl

/-- Which tokens come next does not depend on their places. -/
theorem Unread.moved {lexemes : List Lexeme} (unread : Unread lexemes ts) :
    Unread lexemes (ts.map (Token.moved g)) := by
  cases ts with
  | nil => exact unread
  | cons t ts =>
      have next : t.lexeme ∉ lexemes := unread_cons.mp unread
      exact unread_cons.mpr next

namespace Reader

variable {item : Reader α}

/-- Names are read regardless of their places. -/
theorem placeless_identifier : Placeless identifier := by
  intro g ts
  rcases ts with _ | ⟨⟨lexeme, pos⟩, ts⟩
  · rfl
  · cases lexeme <;> rfl

theorem placeless_closing : Placeless closing := by
  intro g ts
  rcases ts with _ | ⟨⟨lexeme, pos⟩, ts⟩
  · rfl
  · cases lexeme <;> rfl

theorem placeless_more (placeless : Placeless item) (bound : Nat) :
    Placeless (more item bound) := by
  intro g ts
  induction bound generalizing ts with
  | zero => rfl
  | succ bound ih =>
      rcases starts_or_unread .comma ts with ⟨pos, ts, rfl⟩ | stop
      · change more item (bound + 1) (⟨.comma, g pos⟩ :: ts.map (Token.moved g)) = _
        rw [more_comma, more_comma, placeless g ts]
        refine bind_movedOutcome fun a rest => ?_
        dsimp only
        rw [ih rest]
        exact mapped_movedOutcome _ _
      · rw [more_of_unread (bound + 1) stop, more_of_unread (bound + 1) stop.moved]
        rfl

/-- Items with commas between them are read regardless of places, if one item is. -/
theorem placeless_separated (placeless : Placeless item) : Placeless (separated item) := by
  intro g ts
  rw [separated_eq, separated_eq, placeless g ts]
  refine bind_movedOutcome fun a rest => ?_
  dsimp only
  rw [List.length_map, placeless_more placeless rest.length g rest]
  exact mapped_movedOutcome _ _

/-- Arguments in brackets are read regardless of places, if one is. -/
theorem placeless_arguments (placeless : Placeless item) : Placeless (arguments item) := by
  intro g ts
  rcases starts_or_unread .closing ts with ⟨pos, ts, rfl⟩ | nonempty
  · rfl
  · rw [arguments_of_unread nonempty, arguments_of_unread nonempty.moved,
      placeless_separated placeless g ts]
    refine bind_movedOutcome fun as rest => ?_
    dsimp only
    rw [placeless_closing g rest]
    exact mapped_movedOutcome _ fun _ => as

/-- A name with arguments is read regardless of places, if its arguments are. -/
theorem placeless_application {args : Reader (List Term)} (placeless : Placeless args)
    (bare : String → β) (applied : String → List Term → β) :
    Placeless (application args bare applied) := by
  intro g ts
  rcases ts with _ | ⟨⟨lexeme, pos⟩, ts⟩
  · rfl
  · cases lexeme with
    | ident name =>
        rcases starts_or_unread .opening ts with ⟨pos', ts, rfl⟩ | stop
        · change application args bare applied
            (⟨.ident name, g pos⟩ :: ⟨.opening, g pos'⟩ :: ts.map (Token.moved g)) = _
          rw [application_opening, application_opening, placeless g ts]
          exact mapped_movedOutcome _ _
        · change application args bare applied (⟨.ident name, g pos⟩ :: ts.map (Token.moved g)) = _
          rw [application_of_unread args bare applied name pos stop,
            application_of_unread args bare applied name (g pos) stop.moved]
          rfl
    | _ => rfl

/-- Terms are read regardless of the places of their tokens. -/
theorem placeless_term (bound : Nat) : Placeless (term bound) := by
  induction bound with
  | zero =>
      intro g ts
      cases ts <;> rfl
  | succ bound ih => exact placeless_application (placeless_arguments ih) _ _

/-- Predicates are read regardless of the places of their tokens. -/
theorem placeless_predicate : Placeless predicate := by
  rw [predicate_eq]
  refine placeless_application (fun g ts => ?_) _ _
  rw [List.length_map]
  exact placeless_arguments (placeless_term ts.length) g ts

/-- Atoms are read regardless of the places of their tokens. -/
theorem placeless_atom : Placeless atom := by
  intro g ts
  rw [atom_eq, atom_eq, List.length_map, placeless_term ts.length g ts, placeless_predicate g ts]
  cases term ts.length ts with
  | error r => rfl
  | ok x =>
      obtain ⟨lhs, rest⟩ := x
      rcases rest with _ | ⟨⟨lexeme, pos⟩, rest⟩
      · rfl
      · cases lexeme with
        | relation r =>
            change (term (rest.map (Token.moved g)).length (rest.map (Token.moved g)) >>= _) = _
            rw [List.length_map, placeless_term rest.length g rest]
            exact mapped_movedOutcome _ _
        | _ => rfl

variable {operand : Reader Formula}

/-- The rest of a chain is read regardless of places, if its operands are. -/
theorem placeless_chainRest (placeless : Placeless operand) (c : Connective) (bound : Nat)
    (f : Formula) : Placeless (chainRest c operand bound f) := by
  intro g ts
  induction bound generalizing f ts with
  | zero => rfl
  | succ bound ih =>
      rcases starts_or_unread (.connective c) ts with ⟨pos, ts, rfl⟩ | stop
      · change chainRest c operand (bound + 1) f
          (⟨.connective c, g pos⟩ :: ts.map (Token.moved g)) = _
        rw [chainRest_connective, chainRest_connective, placeless g ts]
        exact bind_movedOutcome fun h rest => ih (.binary c f h) rest
      · rw [chainRest_of_unread (bound + 1) f stop, chainRest_of_unread (bound + 1) f stop.moved]
        rfl

/-- Chains are read regardless of places, if their operands are. -/
theorem placeless_chain (placeless : Placeless operand) (c : Connective) :
    Placeless (chain c operand) := by
  intro g ts
  rw [chain_eq, chain_eq, placeless g ts]
  refine bind_movedOutcome fun f rest => ?_
  dsimp only
  rw [List.length_map]
  exact placeless_chainRest placeless c rest.length f g rest

/-- All levels of operators are read regardless of places, if the operands are. -/
theorem placeless_operators (placeless : Placeless operand) : Placeless (operators operand) :=
  placeless_chain (placeless_chain (placeless_chain (placeless_chain placeless _) _) _) _

/-- A dot is passed over wherever it stands. -/
theorem skipDot_moved (g : Nat → Nat) (ts : List Token) :
    skipDot (ts.map (Token.moved g)) = (skipDot ts).map (Token.moved g) := by
  rcases starts_or_unread .dot ts with ⟨pos, ts, rfl⟩ | plain
  · rfl
  · rw [skipDot_of_unread plain, skipDot_of_unread plain.moved]

/-- Operands are read regardless of the places of their tokens. -/
theorem placeless_operand (bound : Nat) : Placeless (Reader.operand bound) := by
  induction bound with
  | zero =>
      intro g ts
      cases ts <;> rfl
  | succ bound ih =>
      intro g ts
      rcases ts with _ | ⟨⟨lexeme, pos⟩, ts⟩
      · rfl
      · rw [List.map_cons, Token.moved]
        cases lexeme with
        | neg =>
            rw [operand_neg, operand_neg, ih g ts]
            exact mapped_movedOutcome _ _
        | quantifier q =>
            rw [operand_quantifier, operand_quantifier,
              placeless_separated placeless_identifier g ts]
            refine bind_movedOutcome fun names rest => ?_
            dsimp only
            rw [skipDot_moved, ih g (skipDot rest)]
            exact mapped_movedOutcome _ _
        | opening =>
            rw [operand_opening, operand_opening, placeless_operators ih g ts]
            refine bind_movedOutcome fun f rest => ?_
            dsimp only
            rw [placeless_closing g rest]
            exact mapped_movedOutcome _ fun _ => f
        | ident name =>
            rw [operand_ident, operand_ident]
            have moved := placeless_atom g (⟨.ident name, pos⟩ :: ts)
            rw [List.map_cons, Token.moved] at moved
            rw [moved]
            exact mapped_movedOutcome _ _
        | _ => rfl

/-- Formulas are read regardless of the places of their tokens. -/
theorem placeless_formula : Placeless formula := by
  intro g ts
  rw [formula, formula, List.length_map]
  exact placeless_operators (placeless_operand ts.length) g ts

/-- Tokens at other places are read as the same formula or refused at the same one of them. -/
theorem complete_moved (g : Nat → Nat) (ts : List Token) :
    complete (ts.map (Token.moved g)) = (complete ts).mapError (Refusal.moved g) := by
  rw [complete, complete, placeless_formula g ts]
  cases formula ts with
  | error r => rfl
  | ok x =>
      obtain ⟨f, rest⟩ := x
      cases rest <;> rfl

end Reader

/-- The lexemes as tokens that stand where they are in the list. -/
def enumerated (ls : List Lexeme) : List Token := ls.zipIdx.map fun (l, i) => ⟨l, i⟩

/-- Tokens that are numbered are the same tokens. -/
theorem map_lexeme_enumerated (ls : List Lexeme) : (enumerated ls).map Token.lexeme = ls := by
  rw [enumerated, List.map_map]
  exact List.zipIdx_map_fst 0 ls

/-- Tokens are their lexemes, moved to their positions. -/
theorem exists_moved (ts : List Token) :
    ∃ g, (enumerated (ts.map Token.lexeme)).map (Token.moved g) = ts := by
  refine ⟨fun i : Nat => (ts[i]?.map Token.pos).getD 0, List.ext_getElem? fun i => ?_⟩
  rw [List.getElem?_map, enumerated, List.getElem?_map, List.getElem?_zipIdx, List.getElem?_map,
    Nat.zero_add]
  cases found : ts[i]? with
  | none => rfl
  | some t =>
      have here : (ts[i]?.map Token.pos).getD 0 = t.pos := by
        rw [found]
        rfl
      exact congrArg (fun pos => some (⟨t.lexeme, pos⟩ : Token)) here

/-- The lexemes of a text decide which of its tokens is refused, and why. -/
theorem Formula.parse_of_enumerated {text : String} {s : Scanned} (scanned : scan text = .ok s)
    {r : Refusal} {used rest : List Token}
    (refused : Reader.complete (enumerated (s.tokens.map Token.lexeme)) = .error r)
    (split : enumerated (s.tokens.map Token.lexeme) = used ++ rest)
    (here : r.found = rest.head?) :
    ∃ pos, parse text = .error (.parse ⟨r.wanted, rest.head?.map Token.lexeme, pos⟩) ∧
      s.ended[used.length]? = some (rest.head?.map Token.lexeme, pos) := by
  obtain ⟨g, moved⟩ := exists_moved s.tokens
  have outcome := Reader.complete_moved g (enumerated (s.tokens.map Token.lexeme))
  rw [moved, refused] at outcome
  rw [split, List.map_append] at moved
  have place := Scanned.getElem?_ended moved.symm
  rw [List.length_map, List.head?_map, Option.map_map] at place
  refine ⟨_, ?_, place⟩
  rw [parse_of_scan scanned, outcome, ← here]
  obtain ⟨wanted, found⟩ := r
  cases found <;> rfl

/-- Texts with the same lexemes are the same formula, or both are refused at the token with the
same number and for the same reason. -/
theorem Formula.parse_congr {text other : String} {s t : Scanned} (scanned : scan text = .ok s)
    (scannedOther : scan other = .ok t)
    (same : s.tokens.map Token.lexeme = t.tokens.map Token.lexeme) :
    (∃ f, parse text = .ok f ∧ parse other = .ok f) ∨
      ∃ (k : Nat) (wanted : Wanted) (found : Option Lexeme) (p q : Nat),
        (s.ended[k]? = some (found, p) ∧ parse text = .error (.parse ⟨wanted, found, p⟩)) ∧
          t.ended[k]? = some (found, q) ∧ parse other = .error (.parse ⟨wanted, found, q⟩) := by
  cases outcome : Reader.complete (enumerated (s.tokens.map Token.lexeme)) with
  | ok f =>
      have spelled := Reader.complete_eq_ok_iff.mp outcome
      rw [map_lexeme_enumerated] at spelled
      have accepted := Reader.complete_eq_ok_iff.mpr spelled
      have acceptedOther := Reader.complete_eq_ok_iff.mpr (same ▸ spelled)
      exact .inl ⟨f, parse_eq_ok_iff.mpr ⟨s, scanned, accepted⟩,
        parse_eq_ok_iff.mpr ⟨t, scannedOther, acceptedOther⟩⟩
  | error r =>
      obtain ⟨used, rest, _, _, split, here, _⟩ := Reader.complete_error outcome
      obtain ⟨p, refused, place⟩ := parse_of_enumerated scanned outcome split here
      rw [same] at outcome split
      obtain ⟨q, refusedOther, placeOther⟩ := parse_of_enumerated scannedOther outcome split here
      exact .inr ⟨used.length, r.wanted, _, p, q, ⟨place, refused⟩, placeOther, refusedOther⟩

end Clausal
