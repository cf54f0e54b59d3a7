import Clausal.Proofs.Reader.Lookahead

/-!
# More tokens

How a reader fares when tokens are added at the end. A reader that leaves a token, or that
refuses one, does the same whatever follows; only a reader that came to the end can fare
differently, and then its outcome lies in the added tokens (`Continued`). So a refused
token is refused in every text that starts with the same tokens
(`Reader.complete_append_refused`), and was refused before it if it is not one of those
added (`Reader.refused_or_mem_of_complete_append`).
-/

namespace Clausal

open Grammar

variable {α β : Type} {ts ext : List Token}

/-- An outcome that is reached on the tokens, whatever it is. -/
abbrev Within (ts : List Token) (outcome : Except Refusal (α × List Token)) : Prop :=
  Taken (fun _ _ => True) ts outcome

/-- What a reader takes or refuses is part of its tokens, whatever it spells. -/
theorem Taken.within {spells : List Lexeme → α → Prop}
    {outcome : Except Refusal (α × List Token)} (taken : Taken spells ts outcome) :
    Within ts outcome :=
  taken.imp fun _ _ _ => trivial

/-- Without tokens there is nothing to be left over. -/
theorem not_within_nil_ok (a : α) (t : Token) (rest : List Token) :
    ¬Within [] (.ok (a, t :: rest)) := by
  intro within
  exact Nat.not_succ_le_zero _ within.length_le

/-- Without tokens there is none to be refused. -/
theorem not_within_nil_error (w : Wanted) (t : Token) :
    ¬Within [] (.error ⟨w, some t⟩ : Except Refusal (α × List Token)) := by
  intro within
  obtain ⟨used, rest, _, _, split, found, _⟩ := taken_error_iff.mp within
  obtain ⟨rfl, rfl⟩ := List.append_eq_nil_iff.mp split.symm
  exact nomatch found

/-- A result may be changed without touching the tokens. -/
theorem Within.mapped {outcome : Except Refusal (α × List Token)} (within : Within ts outcome)
    (g : α → β) : Within ts (outcome >>= fun x => .ok (g x.1, x.2)) :=
  within.bind fun _ _ _ _ => .done trivial

/-- The outcomes without and with more tokens at the end: they agree, or the first one is
reached at the end and the other one among the new tokens. -/
inductive Continued (ext : List Token) :
    Except Refusal (α × List Token) → Except Refusal (α × List Token) → Prop where
  | left (a : α) (t : Token) (rest : List Token) :
      Continued ext (.ok (a, t :: rest)) (.ok (a, t :: rest ++ ext))
  | refused (wanted : Wanted) (t : Token) :
      Continued ext (.error ⟨wanted, some t⟩) (.error ⟨wanted, some t⟩)
  | atEnd {outcome outcome' : Except Refusal (α × List Token)} (here : Within [] outcome)
      (there : Within ext outcome') : Continued ext outcome outcome'

namespace Continued

/-- What was read is read as well when more tokens follow, which are left over. -/
theorem done (a : α) (rest : List Token) :
    Continued ext (.ok (a, rest)) (.ok (a, rest ++ ext)) := by
  cases rest with
  | nil => exact .atEnd (.done trivial) (.done trivial)
  | cons t rest => exact .left a t rest

/-- What comes to the end continues among the new tokens. -/
theorem within {outcome outcome' : Except Refusal (α × List Token)}
    (continued : Continued ext outcome outcome') (here : Within [] outcome) :
    Within ext outcome' := by
  cases continued with
  | left a t rest => exact absurd here (not_within_nil_ok a t rest)
  | refused wanted t => exact absurd here (not_within_nil_error wanted t)
  | atEnd _ there => exact there

theorem eq_of_left {a : α} {t : Token} {rest : List Token}
    {outcome' : Except Refusal (α × List Token)}
    (continued : Continued ext (.ok (a, t :: rest)) outcome') :
    outcome' = .ok (a, t :: rest ++ ext) := by
  cases continued with
  | left => rfl
  | atEnd here _ => exact absurd here (not_within_nil_ok a t rest)

/-- If a token was refused, it still is when more tokens follow. -/
theorem eq_of_refused {wanted : Wanted} {t : Token} {outcome' : Except Refusal (α × List Token)}
    (continued : Continued ext (.error ⟨wanted, some t⟩) outcome') :
    outcome' = .error ⟨wanted, some t⟩ := by
  cases continued with
  | refused => rfl
  | atEnd here _ => exact absurd here (not_within_nil_error wanted t)

/-- Readers one after another. Those that follow have to stay within their tokens. -/
theorem bind {outcome outcome' : Except Refusal (α × List Token)}
    {next next' : α × List Token → Except Refusal (β × List Token)}
    (first : Continued ext outcome outcome') (inner : ∀ a rest, Within rest (next (a, rest)))
    (inner' : ∀ a rest, Within rest (next' (a, rest)))
    (second : ∀ a t rest, outcome = .ok (a, t :: rest) →
      Continued ext (next (a, t :: rest)) (next' (a, t :: rest ++ ext))) :
    Continued ext (outcome >>= next) (outcome' >>= next') := by
  cases first with
  | left a t rest => exact second a t rest rfl
  | refused wanted t => exact .refused wanted t
  | atEnd here there =>
      exact .atEnd (here.bind fun _ rest a _ => inner a rest)
        (there.bind fun _ rest a _ => inner' a rest)

/-- What is read may be changed afterwards in both runs. -/
theorem mapped {outcome outcome' : Except Refusal (α × List Token)}
    (continued : Continued ext outcome outcome') (g : α → β) :
    Continued ext (outcome >>= fun x => .ok (g x.1, x.2))
      (outcome' >>= fun x => .ok (g x.1, x.2)) :=
  continued.bind (fun _ _ => .done trivial) (fun _ _ => .done trivial)
    fun a t rest _ => .done (g a) (t :: rest)

end Continued

/-- Two readers of which the second continues the first, on tokens within the bounds. -/
structure Steady (bound bound' : Nat) (p p' : Reader α) : Prop where
  within : ∀ ts, Within ts (p ts)
  within' : ∀ ts, Within ts (p' ts)
  continued : ∀ ts ext, ts.length ≤ bound → (ts ++ ext).length ≤ bound' →
    Continued ext (p ts) (p' (ts ++ ext))

/-- What follows a steady reader reads fewer tokens. -/
theorem Steady.bind {p p' : Reader α} {bound bound' : Nat} (steady : Steady bound bound' p p')
    {next next' : α × List Token → Except Refusal (β × List Token)}
    (inner : ∀ a rest, Within rest (next (a, rest)))
    (inner' : ∀ a rest, Within rest (next' (a, rest))) (bounded : ts.length ≤ bound)
    (bounded' : (ts ++ ext).length ≤ bound')
    (second : ∀ a t rest, (t :: rest).length ≤ ts.length →
      (t :: rest ++ ext).length ≤ (ts ++ ext).length →
        Continued ext (next (a, t :: rest)) (next' (a, t :: rest ++ ext))) :
    Continued ext (p ts >>= next) (p' (ts ++ ext) >>= next') := by
  refine (steady.continued ts ext bounded bounded').bind inner inner' fun a t rest found => ?_
  have shorter := (found ▸ steady.within ts).length_le
  refine second a t rest shorter ?_
  rw [List.length_append, List.length_append]
  omega

namespace Reader

variable {item item' : Reader α} {n n' : Nat}

/-- A name that was read or refused stays so when more tokens follow. -/
theorem continued_identifier (ts ext : List Token) :
    Continued ext (identifier ts) (identifier (ts ++ ext)) := by
  rcases ts with _ | ⟨⟨lexeme, pos⟩, ts⟩
  · exact .atEnd (taken_identifier []).within (taken_identifier ext).within
  · cases lexeme with
    | ident name => exact .done name ts
    | _ => exact .refused _ _

theorem continued_closing (ts ext : List Token) :
    Continued ext (closing ts) (closing (ts ++ ext)) := by
  rcases ts with _ | ⟨⟨lexeme, pos⟩, ts⟩
  · exact .atEnd (taken_closing []).within (taken_closing ext).within
  · cases lexeme with
    | closing => exact .done () ts
    | _ => exact .refused _ _

/-- Names are read in the same way whatever follows. -/
theorem steady_identifier (n n' : Nat) : Steady n n' identifier identifier where
  within ts := (taken_identifier ts).within
  within' ts := (taken_identifier ts).within
  continued ts ext _ _ := continued_identifier ts ext

/-- Further items are read in the same way up to where the tokens ended. -/
theorem continued_more (steady : Steady n n' item item') (bound bound' : Nat)
    (ts ext : List Token) (enough : ts.length ≤ bound) (enough' : (ts ++ ext).length ≤ bound')
    (bounded : ts.length ≤ n) (bounded' : (ts ++ ext).length ≤ n') :
    Continued ext (more item bound ts) (more item' bound' (ts ++ ext)) := by
  induction bound generalizing bound' ts with
  | zero =>
      obtain rfl := List.eq_nil_of_length_eq_zero (Nat.le_zero.mp enough)
      exact .atEnd (.done trivial) (taken_more steady.within' bound' ext).within
  | succ bound ih =>
      rcases ts with _ | ⟨t, ts⟩
      · exact .atEnd (taken_more steady.within _ []).within
          (taken_more steady.within' bound' ext).within
      · rcases starts_or_unread .comma (t :: ts) with ⟨pos, ts, same⟩ | stop
        · obtain ⟨rfl, rfl⟩ := List.cons.inj same
          rw [List.cons_append, List.length_cons] at enough' bounded'
          rw [List.length_cons] at enough bounded
          obtain ⟨bound', rfl⟩ := Nat.exists_eq_succ_of_ne_zero (n := bound') (by omega)
          rw [List.cons_append, more_comma, more_comma]
          refine steady.bind (fun a rest => (taken_more steady.within bound rest).within.mapped _)
            (fun a rest => (taken_more steady.within' bound' rest).within.mapped _)
            (by omega) (by omega) fun a t rest shorter shorter' => ?_
          exact (ih bound' (t :: rest) (by omega) (by omega) (by omega) (by omega)).mapped _
        · rw [more_of_unread (bound + 1) stop, more_of_unread bound' (stop.append ext)]
          exact .left [] t ts

/-- Items with commas between them are read in the same way up to where the tokens ended. -/
theorem continued_separated (steady : Steady n n' item item') (ts ext : List Token)
    (bounded : ts.length ≤ n) (bounded' : (ts ++ ext).length ≤ n') :
    Continued ext (separated item ts) (separated item' (ts ++ ext)) := by
  rw [separated_eq, separated_eq]
  refine steady.bind (fun a rest => (taken_more steady.within _ rest).within.mapped _)
    (fun a rest => (taken_more steady.within' _ rest).within.mapped _) bounded bounded'
    fun a t rest shorter shorter' => ?_
  exact (continued_more steady _ _ (t :: rest) ext le_rfl le_rfl (shorter.trans bounded)
    (shorter'.trans bounded')).mapped _

/-- Items with commas between them are read in the same way whatever follows, if one item is. -/
theorem steady_separated (steady : Steady n n' item item') :
    Steady n n' (separated item) (separated item') where
  within ts := (taken_separated steady.within ts).within
  within' ts := (taken_separated steady.within' ts).within
  continued ts ext := continued_separated steady ts ext

/-- Arguments are read in the same way up to where the tokens ended. -/
theorem continued_arguments (steady : Steady n n' item item') (ts ext : List Token)
    (bounded : ts.length ≤ n) (bounded' : (ts ++ ext).length ≤ n') :
    Continued ext (arguments item ts) (arguments item' (ts ++ ext)) := by
  rcases ts with _ | ⟨t, ts⟩
  · exact .atEnd (taken_arguments steady.within []).within
      (taken_arguments steady.within' ext).within
  · rcases starts_or_unread .closing (t :: ts) with ⟨pos, ts, same⟩ | nonempty
    · obtain ⟨rfl, rfl⟩ := List.cons.inj same
      exact .done [] ts
    · rw [arguments_of_unread nonempty, arguments_of_unread (nonempty.append ext)]
      refine (steady_separated steady).bind
        (fun as rest => (taken_closing rest).within.mapped fun _ => as)
        (fun as rest => (taken_closing rest).within.mapped fun _ => as) bounded bounded'
        fun as t rest _ _ => ?_
      exact (continued_closing (t :: rest) ext).mapped fun _ => as

section Application

variable {args args' : Reader (List Term)} {bare : String → β}
  {applied : String → List Term → β}

/-- What follows the name of an application lies within the tokens that follow it. -/
theorem within_application_name (within : ∀ ts, Within ts (args ts)) (name : String) (pos : Nat)
    (ts : List Token) : Within ts (application args bare applied (⟨.ident name, pos⟩ :: ts)) := by
  rcases starts_or_unread .opening ts with ⟨pos', ts, rfl⟩ | stop
  · rw [application_opening]
    exact .cons _ ((within ts).mapped _)
  · rw [application_of_unread args bare applied name pos stop]
    exact .done trivial

/-- A name with or without arguments is taken from the tokens. -/
theorem within_application (within : ∀ ts, Within ts (args ts)) (ts : List Token) :
    Within ts (application args bare applied ts) := by
  rcases application_cases args bare applied ts with ⟨name, pos, ts, rfl⟩ | refused
  · exact .cons _ (within_application_name within name pos ts)
  · rw [refused]
    exact taken_error_iff.mpr ⟨[], ts, [], bare "", rfl, rfl, nofun, trivial⟩

/-- A name with or without arguments is read in the same way up to where the tokens ended. -/
theorem continued_application (within : ∀ ts, Within ts (args ts))
    (within' : ∀ ts, Within ts (args' ts)) (ts ext : List Token)
    (continued : ∀ us, us.length < ts.length → Continued ext (args us) (args' (us ++ ext))) :
    Continued ext (application args bare applied ts)
      (application args' bare applied (ts ++ ext)) := by
  rcases ts with _ | ⟨⟨lexeme, pos⟩, ts⟩
  · exact .atEnd (within_application within []) (within_application within' ext)
  · cases lexeme with
    | ident name =>
        rcases ts with _ | ⟨t, ts⟩
        · exact .atEnd (.done trivial) (within_application_name within' name pos ext)
        · rcases starts_or_unread .opening (t :: ts) with ⟨pos', ts, same⟩ | stop
          · obtain ⟨rfl, rfl⟩ := List.cons.inj same
            rw [List.cons_append, List.cons_append, application_opening, application_opening]
            exact (continued ts (by rw [List.length_cons, List.length_cons]; omega)).mapped _
          · rw [List.cons_append, application_of_unread args bare applied name pos stop,
              application_of_unread args' bare applied name pos (stop.append ext)]
            exact .left _ t ts
    | _ => exact .refused _ _

end Application

/-- Terms are read in the same way whatever follows. -/
theorem steady_term (bound bound' : Nat) : Steady bound bound' (term bound) (term bound') where
  within ts := (taken_term bound ts).within
  within' ts := (taken_term bound' ts).within
  continued ts ext bounded bounded' := by
    induction bound generalizing bound' ts ext with
    | zero =>
        obtain rfl := List.eq_nil_of_length_eq_zero (Nat.le_zero.mp bounded)
        exact .atEnd (taken_term 0 []).within (taken_term bound' ext).within
    | succ bound ih =>
        rcases ts with _ | ⟨t, ts⟩
        · exact .atEnd (taken_term _ []).within (taken_term bound' ext).within
        · rw [List.cons_append, List.length_cons] at bounded'
          obtain ⟨bound', rfl⟩ := Nat.exists_eq_succ_of_ne_zero (n := bound') (by omega)
          have steady : Steady bound bound' (term bound) (term bound') :=
            ⟨fun ts => (taken_term bound ts).within, fun ts => (taken_term bound' ts).within,
              fun ts ext bounded bounded' => ih bound' ts ext bounded bounded'⟩
          rw [term_succ, term_succ]
          refine continued_application (fun us => (taken_arguments (taken_term bound) us).within)
            (fun us => (taken_arguments (taken_term bound') us).within) (t :: ts) ext
            fun us shorter => continued_arguments steady us ext ?_ ?_
          · rw [List.length_cons] at bounded shorter
            omega
          · rw [List.length_cons] at shorter
            rw [List.length_append] at bounded' ⊢
            omega

/-- A term is read in the same way up to where the tokens ended. -/
theorem continued_term (ts ext : List Token) :
    Continued ext (term ts.length ts) (term (ts ++ ext).length (ts ++ ext)) :=
  (steady_term _ _).continued ts ext le_rfl le_rfl

/-- A predicate is read in the same way up to where the tokens ended. -/
theorem continued_predicate (ts ext : List Token) :
    Continued ext (predicate ts) (predicate (ts ++ ext)) := by
  rw [predicate_eq]
  exact continued_application (fun us => (taken_arguments (taken_term us.length) us).within)
    (fun us => (taken_arguments (taken_term us.length) us).within) ts ext
    fun us _ => continued_arguments (steady_term _ _) us ext le_rfl le_rfl

/-- Where a term comes to the end, a predicate does. -/
theorem within_nil_predicate (atEnd : Within [] (term ts.length ts)) :
    Within [] (predicate ts) := by
  have parts := predicate_of_term ts
  generalize term ts.length ts = outcome at atEnd parts
  cases outcome with
  | error r =>
      rw [parts]
      exact atEnd.mapped fun _ => Atom.pred "" []
  | ok x =>
      obtain ⟨name, args, _, read⟩ := parts
      rw [read]
      exact atEnd.mapped fun _ => Atom.pred name args

/-- Where the left side of a relation comes to the end, the atom does. -/
theorem within_nil_atom (atEnd : Within [] (term ts.length ts)) : Within [] (atom ts) := by
  have ended := within_nil_predicate atEnd
  rw [atom_eq]
  generalize term ts.length ts = outcome at atEnd ⊢
  split
  · exact absurd atEnd (not_within_nil_ok _ _ _)
  · exact ended

/-- An atom is read in the same way up to where the tokens ended. -/
theorem continued_atom (ts ext : List Token) : Continued ext (atom ts) (atom (ts ++ ext)) := by
  have left := continued_term ts ext
  have predicates := continued_predicate ts ext
  have alone : Within [] (term ts.length ts) → Within [] (predicate ts) ∧ Within [] (atom ts) :=
    fun atEnd => ⟨within_nil_predicate atEnd, within_nil_atom atEnd⟩
  rw [atom_eq ts] at alone ⊢
  rw [atom_eq (ts ++ ext)]
  generalize term ts.length ts = outcome at left alone ⊢
  generalize term (ts ++ ext).length (ts ++ ext) = outcome' at left ⊢
  cases left with
  | left lhs t rest =>
      obtain ⟨lexeme, pos⟩ := t
      cases lexeme with
      | relation r => exact (continued_term rest ext).mapped _
      | _ => exact predicates
  | refused wanted t => exact predicates
  | atEnd here there =>
      obtain ⟨ended, first⟩ := alone here
      refine .atEnd first ?_
      split
      · next lhs r pos rest =>
          obtain ⟨used, split, _⟩ := taken_ok_iff.mp there
          rw [split]
          exact .append used (.cons _ ((taken_term rest.length rest).within.mapped _))
      · exact predicates.within ended

variable {operand operand' : Reader Formula}

/-- The rest of a chain is taken from the tokens. -/
theorem within_chainRest (c : Connective) (within : ∀ ts, Within ts (operand ts)) (bound : Nat)
    (f : Formula) (ts : List Token) : Within ts (chainRest c operand bound f ts) :=
  (taken_chainRest within bound f ts).within

/-- The rest of a chain is read in the same way up to where the tokens ended. -/
theorem continued_chainRest {c : Connective} (steady : Steady n n' operand operand')
    (bound bound' : Nat) (f : Formula) (ts ext : List Token) (enough : ts.length ≤ bound)
    (enough' : (ts ++ ext).length ≤ bound') (bounded : ts.length ≤ n)
    (bounded' : (ts ++ ext).length ≤ n') :
    Continued ext (chainRest c operand bound f ts)
      (chainRest c operand' bound' f (ts ++ ext)) := by
  induction bound generalizing bound' f ts with
  | zero =>
      obtain rfl := List.eq_nil_of_length_eq_zero (Nat.le_zero.mp enough)
      exact .atEnd (.done trivial) (within_chainRest c steady.within' bound' f ext)
  | succ bound ih =>
      rcases ts with _ | ⟨t, ts⟩
      · exact .atEnd (.done trivial) (within_chainRest c steady.within' bound' f ext)
      · rcases starts_or_unread (.connective c) (t :: ts) with ⟨pos, ts, same⟩ | stop
        · obtain ⟨rfl, rfl⟩ := List.cons.inj same
          rw [List.cons_append, List.length_cons] at enough' bounded'
          rw [List.length_cons] at enough bounded
          obtain ⟨bound', rfl⟩ := Nat.exists_eq_succ_of_ne_zero (n := bound') (by omega)
          rw [List.cons_append, chainRest_connective, chainRest_connective]
          refine steady.bind (fun g rest => within_chainRest c steady.within bound _ rest)
            (fun g rest => within_chainRest c steady.within' bound' _ rest) (by omega) (by omega)
            fun g t rest shorter shorter' => ?_
          exact ih bound' _ (t :: rest) (by omega) (by omega) (by omega) (by omega)
        · rw [chainRest_of_unread (bound + 1) f stop,
            chainRest_of_unread bound' f (stop.append ext)]
          exact .left f t ts

/-- Chains are read in the same way whatever follows, if their operands are. -/
theorem steady_chain (c : Connective) (steady : Steady n n' operand operand') :
    Steady n n' (chain c operand) (chain c operand') where
  within ts := (taken_chain c steady.within ts).within
  within' ts := (taken_chain c steady.within' ts).within
  continued ts ext bounded bounded' := by
    rw [chain_eq, chain_eq]
    refine steady.bind (fun f rest => within_chainRest c steady.within _ f rest)
      (fun f rest => within_chainRest c steady.within' _ f rest) bounded bounded'
      fun f t rest shorter shorter' => ?_
    exact continued_chainRest steady _ _ f (t :: rest) ext le_rfl le_rfl (shorter.trans bounded)
      (shorter'.trans bounded')

/-- All levels of operators are read in the same way whatever follows, if the operands are. -/
theorem steady_operators (steady : Steady n n' operand operand') :
    Steady n n' (operators operand) (operators operand') :=
  steady_chain _ (steady_chain _ (steady_chain _ (steady_chain _ steady)))

/-- A dot may be passed over before anything is taken. -/
theorem within_skipDot {outcome : List Token → Except Refusal (α × List Token)}
    (within : ∀ ts, Within ts (outcome ts)) (ts : List Token) :
    Within ts (outcome (skipDot ts)) := by
  rcases starts_or_unread .dot ts with ⟨pos, ts, rfl⟩ | plain
  · exact .cons _ (within ts)
  · rw [skipDot_of_unread plain]
    exact within ts

/-- Operands are read in the same way whatever follows, with any bounds that suffice. -/
theorem steady_operand (bound bound' : Nat) :
    Steady bound bound' (Reader.operand bound) (Reader.operand bound') where
  within ts := (taken_operand bound ts).within
  within' ts := (taken_operand bound' ts).within
  continued ts ext bounded bounded' := by
    induction bound generalizing bound' ts ext with
    | zero =>
        obtain rfl := List.eq_nil_of_length_eq_zero (Nat.le_zero.mp bounded)
        exact .atEnd (taken_operand 0 []).within (taken_operand bound' ext).within
    | succ bound ih =>
        rcases ts with _ | ⟨⟨lexeme, pos⟩, ts⟩
        · exact .atEnd (taken_operand _ []).within (taken_operand bound' ext).within
        · rw [List.cons_append, List.length_cons] at bounded'
          rw [List.length_cons] at bounded
          obtain ⟨bound', rfl⟩ := Nat.exists_eq_succ_of_ne_zero (n := bound') (by omega)
          have steady : Steady bound bound' (Reader.operand bound) (Reader.operand bound') :=
            ⟨fun ts => (taken_operand bound ts).within,
              fun ts => (taken_operand bound' ts).within,
              fun ts ext bounded bounded' => ih bound' ts ext bounded bounded'⟩
          rw [List.cons_append]
          cases lexeme with
          | neg =>
              rw [operand_neg, operand_neg]
              exact (steady.continued ts ext (by omega) (by omega)).mapped _
          | quantifier q =>
              rw [operand_quantifier, operand_quantifier]
              refine (steady_separated (steady_identifier bound bound')).bind
                (fun names => within_skipDot fun ts =>
                  (steady.within ts).mapped (Formula.quantAll q names))
                (fun names => within_skipDot fun ts =>
                  (steady.within' ts).mapped (Formula.quantAll q names))
                (by omega) (by omega) fun names t rest shorter shorter' => ?_
              have scope : Continued ext (Reader.operand bound (skipDot (t :: rest)))
                  (Reader.operand bound' (skipDot (t :: rest ++ ext))) := by
                rcases starts_or_unread .dot (t :: rest) with ⟨pos', rest, same⟩ | plain
                · obtain ⟨rfl, rfl⟩ := List.cons.inj same
                  rw [List.cons_append, List.length_cons] at shorter'
                  rw [List.length_cons] at shorter
                  exact steady.continued rest ext (by omega) (by omega)
                · rw [skipDot_of_unread plain, skipDot_of_unread (plain.append ext)]
                  exact steady.continued (t :: rest) ext (by omega) (by omega)
              exact scope.mapped _
          | opening =>
              rw [operand_opening, operand_opening]
              refine (steady_operators steady).bind
                (fun f rest => (taken_closing rest).within.mapped fun _ => f)
                (fun f rest => (taken_closing rest).within.mapped fun _ => f)
                (by omega) (by omega) fun f t rest _ _ => ?_
              exact (continued_closing (t :: rest) ext).mapped fun _ => f
          | ident name =>
              rw [operand_ident, operand_ident]
              exact (continued_atom (⟨.ident name, pos⟩ :: ts) ext).mapped _
          | _ => exact .refused _ _

/-- A formula is read in the same way up to where the tokens ended. -/
theorem continued_formula (ts ext : List Token) :
    Continued ext (formula ts) (formula (ts ++ ext)) :=
  (steady_operators (steady_operand _ _)).continued ts ext le_rfl le_rfl

/-- A token that is refused is refused whatever follows it. -/
theorem complete_append_refused {wanted : Wanted} {t : Token}
    (refused : complete ts = .error ⟨wanted, some t⟩) (ext : List Token) :
    complete (ts ++ ext) = .error ⟨wanted, some t⟩ := by
  have continued := continued_formula ts ext
  unfold complete at refused ⊢
  cases found : formula ts with
  | error r =>
      rw [found] at refused continued
      obtain rfl := Except.error.inj refused
      rw [continued.eq_of_refused]
      rfl
  | ok x =>
      obtain ⟨f, rest⟩ := x
      rw [found] at refused continued
      cases rest with
      | nil => exact nomatch refused
      | cons t' rest =>
          obtain ⟨rfl, same⟩ := Refusal.mk.inj (Except.error.inj refused)
          rw [continued.eq_of_left, ← same]
          rfl

/-- A token that is refused is refused without the tokens at the end, or is one of them. -/
theorem refused_or_mem_of_complete_append {wanted : Wanted} {t : Token}
    (refused : complete (ts ++ ext) = .error ⟨wanted, some t⟩) :
    complete ts = .error ⟨wanted, some t⟩ ∨ t ∈ ext := by
  have continued := continued_formula ts ext
  unfold complete at refused ⊢
  generalize formula ts = outcome at continued ⊢
  generalize formula (ts ++ ext) = outcome' at continued refused
  cases continued with
  | left f t' rest => exact .inl refused
  | refused wanted' t' => exact .inl refused
  | atEnd _ there =>
      refine .inr ?_
      cases outcome' with
      | error r =>
          obtain rfl := Except.error.inj refused
          obtain ⟨used, rest, _, _, split, found, _⟩ := taken_error_iff.mp there
          rw [split]
          exact List.mem_append_right _ (List.mem_of_mem_head? found.symm)
      | ok x =>
          obtain ⟨f, rest⟩ := x
          obtain ⟨used, split, _⟩ := taken_ok_iff.mp there
          cases rest with
          | nil => exact nomatch refused
          | cons t' rest =>
              obtain ⟨_, same⟩ := Refusal.mk.inj (Except.error.inj refused)
              rw [split, ← Option.some.inj same]
              exact List.mem_append_right _ List.mem_cons_self

end Reader

end Clausal
