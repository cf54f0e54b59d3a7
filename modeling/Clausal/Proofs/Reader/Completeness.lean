import Clausal.Proofs.Reader.Grammar
import Clausal.Proofs.Reader.Steps

/-!
# What readers accept

Whatever the grammar derives is read as the grammar says, up to the first token that
cannot continue it (`Reads`). The bound of a reader is no obstacle as soon as it is not
less than the number of lexemes. A reader is greedy, and the lexemes at which it would go
on are listed for each of them; the grammar never puts one of these behind a part that the
reader takes off.
-/

namespace Clausal

open Grammar

variable {α : Type}

/-- The reader takes the lexemes off as a spelling of the result, whichever tokens carry
them, if none of the given lexemes follows. -/
def Reads (p : Reader α) (stops : List Lexeme) (ls : List Lexeme) (a : α) : Prop :=
  ∀ ts rest : List Token, ts.map Token.lexeme = ls → Unread stops rest →
    p (ts ++ rest) = .ok (a, rest)

theorem unread_append {lexemes ls : List Lexeme} {ts rest : List Token}
    (carried : ts.map Token.lexeme = ls) (start : ∀ l ∈ ls.head?, l ∉ lexemes)
    (unread : ls = [] → Unread lexemes rest) : Unread lexemes (ts ++ rest) := by
  cases ts with
  | nil => exact unread carried.symm
  | cons t ts =>
      refine unread_cons.mpr (start t.lexeme ?_)
      rw [← carried]
      rfl

/-- What starts an operand is read by no list of variables or arguments. -/
theorem Grammar.SpellsOperand.unread {ls : List Lexeme} {f : Formula} {ts : List Token}
    (spelled : SpellsOperand ls f) (carried : ts.map Token.lexeme = ls) (rest : List Token) :
    Unread [.comma, .dot, .closing] (ts ++ rest) := by
  obtain ⟨l, ms, rfl, other⟩ := spelled.starts
  refine unread_append carried ?_ fun empty => nomatch empty
  intro l' member
  rwa [← Option.some.inj member]

/-- A bound for all tokens is one for those that are read. -/
theorem length_le_of_carried {ls : List Lexeme} {ts : List Token}
    (carried : ts.map Token.lexeme = ls) (rest : List Token) : ls.length ≤ (ts ++ rest).length := by
  rw [← carried, List.length_map, List.length_append]
  exact Nat.le_add_right _ _

/-- Further items start with their separator. -/
theorem Grammar.Further.unread {item : List Lexeme → α → Prop} {separator : Lexeme}
    {lexemes ls : List Lexeme} {as : List α} {ts rest : List Token}
    (further : Further separator item ls as) (carried : ts.map Token.lexeme = ls)
    (other : separator ∉ lexemes) (unread : Unread lexemes rest) :
    Unread lexemes (ts ++ rest) := by
  refine unread_append carried ?_ fun _ => unread
  cases further with
  | none => exact fun _ member => nomatch member
  | some first rest =>
      intro l member
      rwa [← Option.some.inj member]

namespace Reader

variable {item : Reader α} {spells : List Lexeme → α → Prop} {stops ls : List Lexeme}

/-- A name is read off its token. -/
theorem reads_identifier {name : String} (spelled : SpellsName ls name) :
    Reads identifier [] ls name := by
  intro ts rest carried _
  cases spelled with
  | ident name =>
      obtain ⟨⟨_, pos⟩, ts, rfl, rfl, none⟩ := List.map_eq_cons_iff.mp carried
      rw [List.map_eq_nil_iff.mp none]
      rfl

/-- Further items are read up to a token that is no comma. -/
theorem reads_more {as : List α} (further : Further .comma spells ls as)
    (reads : ∀ ms a, spells ms a → Reads item stops ms a) (other : .comma ∉ stops)
    {bound : Nat} (bounded : ls.length ≤ bound) :
    Reads (more item bound) (.comma :: stops) ls as := by
  induction further generalizing bound with
  | none =>
      intro ts rest carried unread
      rw [List.map_eq_nil_iff.mp carried]
      exact more_of_unread bound (unread.mono (List.cons_subset_cons _ (List.nil_subset _)))
  | @some ls ms a as first further ih =>
      intro ts rest carried unread
      obtain ⟨⟨_, pos⟩, ts, rfl, rfl, items⟩ := List.map_eq_cons_iff.mp carried
      obtain ⟨ts, us, rfl, here, there⟩ := List.map_eq_append_iff.mp items
      rw [List.length_cons, List.length_append] at bounded
      obtain ⟨bound, rfl⟩ := Nat.exists_eq_succ_of_ne_zero (n := bound) (by omega)
      have follows := further.unread there other (unread.mono (List.subset_cons_self _ _))
      have taken := reads ls a first ts (us ++ rest) here follows
      have enough : ms.length ≤ bound := by omega
      have left := ih enough us rest there unread
      change more item (bound + 1) (⟨.comma, pos⟩ :: (ts ++ us ++ rest)) = _
      rw [more_comma, List.append_assoc, taken]
      change (more item bound (us ++ rest) >>= _) = _
      rw [left]
      rfl

/-- Items with commas between them are read up to a token that is no comma. -/
theorem reads_separated {as : List α} (separated : Separated spells ls as)
    (reads : ∀ ms a, spells ms a → Reads item stops ms a) (other : .comma ∉ stops) :
    Reads (Reader.separated item) (.comma :: stops) ls as := by
  intro ts rest carried unread
  cases separated with
  | @intro ls ms a as first further =>
      obtain ⟨ts, us, rfl, here, there⟩ := List.map_eq_append_iff.mp carried
      have follows := further.unread there other (unread.mono (List.subset_cons_self _ _))
      have taken := reads ls a first ts (us ++ rest) here follows
      have bounded := length_le_of_carried there rest
      have left := reads_more further reads other bounded us rest there unread
      rw [separated_eq, List.append_assoc, taken]
      change (more item (us ++ rest).length (us ++ rest) >>= _) = _
      rw [left]
      rfl

/-- Arguments are read up to their closing bracket. -/
theorem reads_arguments {args : List Term} {item : Reader Term}
    {spells : List Lexeme → Term → Prop} (arguments : Arguments spells ls args)
    (reads : ∀ ms t, spells ms t → SpellsTerm ms t ∧ Reads item [.opening] ms t) :
    Reads (Reader.arguments item) [] ls args := by
  intro ts rest carried _
  cases arguments with
  | none =>
      obtain ⟨⟨_, pos⟩, ts, rfl, rfl, none⟩ := List.map_eq_cons_iff.mp carried
      rw [List.map_eq_nil_iff.mp none]
      rfl
  | @some ls args items =>
      obtain ⟨ts, us, rfl, here, there⟩ := List.map_eq_append_iff.mp carried
      obtain ⟨⟨_, pos⟩, us, rfl, rfl, none⟩ := List.map_eq_cons_iff.mp there
      obtain rfl := List.map_eq_nil_iff.mp none
      have nonempty : Unread [.closing] (ts ++ (⟨.closing, pos⟩ :: rest)) := by
        obtain ⟨name, ms, rfl⟩ : ∃ name ms, ls = .ident name :: ms := by
          cases items with
          | intro first further =>
              obtain ⟨name, ms, rfl⟩ := (reads _ _ first).1.starts
              exact ⟨name, _, rfl⟩
        refine unread_append here ?_ fun empty => nomatch empty
        intro l member
        rw [← Option.some.inj member]
        simp
      have taken := reads_separated items (fun ms t spelled => (reads ms t spelled).2) (by decide)
        ts (⟨.closing, pos⟩ :: rest) here (unread_cons.mpr (by simp))
      rw [List.append_assoc]
      change Reader.arguments item (ts ++ (⟨.closing, pos⟩ :: rest)) = _
      rw [arguments_of_unread nonempty, taken]
      rfl

section Application

variable {β : Type} {args : Reader (List Term)} {bare : String → β}
  {applied : String → List Term → β}

/-- A name without arguments is read, if no bracket follows. -/
theorem reads_bare (name : String) :
    Reads (application args bare applied) [.opening] [.ident name] (bare name) := by
  intro ts rest carried unread
  obtain ⟨⟨_, pos⟩, ts, rfl, rfl, none⟩ := List.map_eq_cons_iff.mp carried
  obtain rfl := List.map_eq_nil_iff.mp none
  exact application_of_unread args bare applied name pos unread

/-- It suffices that the argument list is read where it stands. -/
theorem reads_applied (name : String) {as : List Term} {ts rest : List Token}
    (carried : ts.map Token.lexeme = .ident name :: .opening :: ls)
    (reads : ∀ us, us.map Token.lexeme = ls → args (us ++ rest) = .ok (as, rest)) :
    application args bare applied (ts ++ rest) = .ok (applied name as, rest) := by
  obtain ⟨⟨_, pos⟩, ts, rfl, rfl, bracketed⟩ := List.map_eq_cons_iff.mp carried
  obtain ⟨⟨_, pos'⟩, ts, rfl, rfl, here⟩ := List.map_eq_cons_iff.mp bracketed
  change application args bare applied
    (⟨.ident name, pos⟩ :: ⟨.opening, pos'⟩ :: (ts ++ rest)) = _
  rw [application_opening, reads ts here]
  rfl

end Application

/-- A term is read with any bound that is not less than its length. -/
theorem reads_term {t : Term} (spelled : SpellsTerm ls t) :
    ∀ bound, ls.length ≤ bound → Reads (term bound) [.opening] ls t := by
  induction spelled using SpellsTerm.induction with
  | symbol name =>
      intro bound bounded
      obtain ⟨bound, rfl⟩ := Nat.exists_eq_succ_of_ne_zero (n := bound) (Nat.ne_of_gt bounded)
      exact reads_bare name
  | application name ls args _ arguments =>
      intro bound bounded ts rest carried _
      rw [List.length_cons, List.length_cons] at bounded
      obtain ⟨bound, rfl⟩ := Nat.exists_eq_succ_of_ne_zero (n := bound) (by omega)
      have read : Arguments (fun ms t => SpellsTerm ms t ∧ Reads (term bound) [.opening] ms t)
          ls args := by
        refine arguments.imp fun ms t inside ⟨spelled, reads⟩ => ⟨spelled, reads bound ?_⟩
        exact inside.length_le.trans (by omega)
      refine reads_applied name carried fun us here => ?_
      exact reads_arguments read (fun _ _ both => both) us rest here fun _ _ => List.not_mem_nil

/-- The lexemes that a reader of atoms would go on with. -/
def afterAtom : List Lexeme := [.opening, .relation .eq, .relation .ne]

/-- A predicate with arguments is read up to its closing bracket. -/
theorem reads_predicate {args : List Term} {name : String}
    (arguments : Arguments SpellsTerm ls args) :
    Reads predicate [] (.ident name :: .opening :: ls) (.pred name args) := by
  intro ts rest carried _
  rw [predicate_eq]
  refine reads_applied name carried fun us here => ?_
  have read : Arguments (fun ms t => SpellsTerm ms t ∧
      Reads (term (us ++ rest).length) [.opening] ms t) ls args := by
    refine arguments.imp fun ms t inside spelled => ⟨spelled, reads_term spelled _ ?_⟩
    exact inside.length_le.trans (length_le_of_carried here rest)
  exact reads_arguments read (fun _ _ both => both) us rest here fun _ _ => List.not_mem_nil

/-- If no relation follows a term, a predicate is read. -/
theorem atom_of_term {t : Term} {ts rest : List Token}
    (spelled : SpellsTerm (ts.map Token.lexeme) t) (unread : Unread afterAtom rest) :
    atom (ts ++ rest) = predicate (ts ++ rest) := by
  have taken := reads_term spelled _ (length_le_of_carried rfl rest) ts rest rfl
    (unread.mono (by decide))
  exact atom_predicate taken (unread.mono (by decide))

/-- An atom is read, if no bracket and no sign of a relation follows. -/
theorem reads_atom {a : Atom} (spelled : SpellsAtom ls a) : Reads atom afterAtom ls a := by
  intro ts rest carried unread
  cases spelled with
  | @relation r ls ms lhs rhs left right =>
      obtain ⟨ts, us, rfl, here, there⟩ := List.map_eq_append_iff.mp carried
      obtain ⟨⟨_, pos⟩, us, rfl, rfl, behind⟩ := List.map_eq_cons_iff.mp there
      have lhsTaken := reads_term left _
        (length_le_of_carried here (⟨.relation r, pos⟩ :: (us ++ rest)))
        ts (⟨.relation r, pos⟩ :: (us ++ rest)) here (unread_cons.mpr (by simp))
      have rhsTaken := reads_term right _ (length_le_of_carried behind rest)
        us rest behind (unread.mono (by decide))
      rw [List.append_assoc]
      change atom (ts ++ ⟨.relation r, pos⟩ :: (us ++ rest)) = _
      rw [atom_relation lhsTaken, rhsTaken]
      rfl
  | proposition name =>
      rw [atom_of_term (carried ▸ SpellsTerm.symbol name) unread]
      rw [predicate_eq]
      exact reads_bare name ts rest carried (unread.mono (by decide))
  | predicate name arguments =>
      rw [atom_of_term (carried ▸ SpellsTerm.application name arguments) unread]
      exact reads_predicate arguments ts rest carried fun _ _ => List.not_mem_nil

variable {operand : Reader Formula} {spellsOperand : List Lexeme → Formula → Prop}

/-- The rest of a chain is read up to a token that is not its connective. -/
theorem reads_chainRest {c : Connective} {gs : List Formula}
    (further : Further (.connective c) spellsOperand ls gs)
    (reads : ∀ ms g, spellsOperand ms g → Reads operand stops ms g)
    (other : .connective c ∉ stops) (f : Formula) {bound : Nat} (bounded : ls.length ≤ bound) :
    Reads (chainRest c operand bound f) (.connective c :: stops) ls (gs.foldl (.binary c) f) := by
  induction further generalizing f bound with
  | none =>
      intro ts rest carried unread
      rw [List.map_eq_nil_iff.mp carried]
      exact chainRest_of_unread bound f
        (unread.mono (List.cons_subset_cons _ (List.nil_subset _)))
  | @some ls ms g gs first further ih =>
      intro ts rest carried unread
      obtain ⟨⟨_, pos⟩, ts, rfl, rfl, operands⟩ := List.map_eq_cons_iff.mp carried
      obtain ⟨ts, us, rfl, here, there⟩ := List.map_eq_append_iff.mp operands
      rw [List.length_cons, List.length_append] at bounded
      obtain ⟨bound, rfl⟩ := Nat.exists_eq_succ_of_ne_zero (n := bound) (by omega)
      have follows := further.unread there other (unread.mono (List.subset_cons_self _ _))
      have taken := reads ls g first ts (us ++ rest) here follows
      have enough : ms.length ≤ bound := by omega
      have left := ih (.binary c f g) enough us rest there unread
      change chainRest c operand (bound + 1) f (⟨.connective c, pos⟩ :: (ts ++ us ++ rest)) = _
      rw [chainRest_connective, List.append_assoc, taken]
      exact left

/-- A chain is read up to a token that is not its connective. -/
theorem reads_chain {c : Connective} {f : Formula} (level : Level c spellsOperand ls f)
    (reads : ∀ ms g, spellsOperand ms g → Reads operand stops ms g)
    (other : .connective c ∉ stops) : Reads (chain c operand) (.connective c :: stops) ls f := by
  intro ts rest carried unread
  cases level with
  | @fold ls ms f gs first further =>
      obtain ⟨ts, us, rfl, here, there⟩ := List.map_eq_append_iff.mp carried
      have follows := further.unread there other (unread.mono (List.subset_cons_self _ _))
      have taken := reads ls f first ts (us ++ rest) here follows
      have bounded := length_le_of_carried there rest
      rw [chain_eq, List.append_assoc, taken]
      exact reads_chainRest further reads other f bounded us rest there unread

/-- The lexemes that a reader of formulas would go on with. -/
def afterFormula : List Lexeme := looseToTight.map .connective ++ afterAtom

/-- All levels of operators are read up to a token that continues none of them. -/
theorem reads_operators {f : Formula} (levels : Levels spellsOperand ls f)
    (reads : ∀ ms g, spellsOperand ms g → Reads operand afterAtom ms g) :
    Reads (operators operand) afterFormula ls f := by
  refine reads_chain levels (fun ms g implies => ?_) (by decide)
  refine reads_chain implies (fun ms g or => ?_) (by decide)
  refine reads_chain or (fun ms g and => ?_) (by decide)
  exact reads_chain and reads (by decide)

/-- A dot in front of the scope of a quantifier is left out, and ends the variables. -/
theorem skipDot_append {ls : List Lexeme} {ds ts : List Token} (dotted : ls = [] ∨ ls = [.dot])
    (dots : ds.map Token.lexeme = ls) (fresh : Unread [.comma, .dot, .closing] ts) :
    Unread [.comma] (ds ++ ts) ∧ skipDot (ds ++ ts) = ts := by
  rcases dotted with rfl | rfl
  · rw [List.map_eq_nil_iff.mp dots]
    exact ⟨fresh.mono (by decide), skipDot_of_unread (fresh.mono (by decide))⟩
  · obtain ⟨⟨_, pos⟩, ds, rfl, rfl, none⟩ := List.map_eq_cons_iff.mp dots
    rw [List.map_eq_nil_iff.mp none]
    exact ⟨unread_cons.mpr (by simp), rfl⟩

/-- An operand is read with any bound that is not less than its length. -/
theorem reads_operand {f : Formula} (spelled : SpellsOperand ls f) :
    ∀ bound, ls.length ≤ bound → Reads (Reader.operand bound) afterAtom ls f := by
  induction spelled using SpellsOperand.induction with
  | neg ls f argument ih =>
      intro bound bounded ts rest carried unread
      rw [List.length_cons] at bounded
      obtain ⟨bound, rfl⟩ := Nat.exists_eq_succ_of_ne_zero (n := bound) (by omega)
      obtain ⟨⟨_, pos⟩, ts, rfl, rfl, here⟩ := List.map_eq_cons_iff.mp carried
      change Reader.operand (bound + 1) (⟨.neg, pos⟩ :: (ts ++ rest)) = _
      rw [operand_neg, ih bound (by omega) ts rest here unread]
      rfl
  | quant q ls dot ms names f quantified dotted scope ih =>
      intro bound bounded ts rest carried unread
      rw [List.length_cons, List.length_append, List.length_append] at bounded
      obtain ⟨bound, rfl⟩ := Nat.exists_eq_succ_of_ne_zero (n := bound) (by omega)
      obtain ⟨⟨_, pos⟩, ts, rfl, rfl, binding⟩ := List.map_eq_cons_iff.mp carried
      obtain ⟨ts, us, rfl, here, there⟩ := List.map_eq_append_iff.mp binding
      obtain ⟨ds, us, rfl, dots, behind⟩ := List.map_eq_append_iff.mp there
      have left := ih bound (by omega) us rest behind unread
      obtain ⟨ends, skipped⟩ := skipDot_append dotted dots (scope.unread behind rest)
      rw [← List.append_assoc] at ends skipped
      have taken := reads_separated quantified (fun _ _ => reads_identifier) List.not_mem_nil ts
        (ds ++ us ++ rest) here ends
      change Reader.operand (bound + 1) (⟨.quantifier q, pos⟩ :: (ts ++ (ds ++ us) ++ rest)) = _
      rw [operand_quantifier, List.append_assoc, taken]
      change (Reader.operand bound (skipDot (ds ++ us ++ rest)) >>= _) = _
      rw [skipped, left]
      rfl
  | group ls f inner ih =>
      intro bound bounded ts rest carried _
      rw [List.length_cons, List.length_append] at bounded
      obtain ⟨bound, rfl⟩ := Nat.exists_eq_succ_of_ne_zero (n := bound) (by omega)
      obtain ⟨⟨_, pos⟩, ts, rfl, rfl, bracketed⟩ := List.map_eq_cons_iff.mp carried
      obtain ⟨ts, us, rfl, here, there⟩ := List.map_eq_append_iff.mp bracketed
      obtain ⟨⟨_, pos'⟩, us, rfl, rfl, none⟩ := List.map_eq_cons_iff.mp there
      obtain rfl := List.map_eq_nil_iff.mp none
      have read : Levels (Reads (Reader.operand bound) afterAtom) ls f :=
        Levels.imp ih fun ms g inside ⟨_, reads⟩ => reads bound (inside.length_le.trans (by omega))
      have taken := reads_operators read (fun _ _ reads => reads) ts (⟨.closing, pos'⟩ :: rest)
        here (unread_cons.mpr (by simp [afterFormula, afterAtom]))
      change Reader.operand (bound + 1) (⟨.opening, pos⟩ :: (ts ++ [⟨.closing, pos'⟩] ++ rest)) = _
      rw [operand_opening, List.append_assoc]
      change (operators _ (ts ++ ⟨.closing, pos'⟩ :: rest) >>= _) = _
      rw [taken]
      rfl
  | atom ls a atomic =>
      intro bound bounded ts rest carried unread
      obtain ⟨name, ms, rfl⟩ := atomic.starts
      obtain ⟨bound, rfl⟩ := Nat.exists_eq_succ_of_ne_zero (n := bound) (by
        rw [List.length_cons] at bounded; omega)
      have taken := reads_atom atomic ts rest carried unread
      obtain ⟨⟨_, pos⟩, ts, rfl, rfl, here⟩ := List.map_eq_cons_iff.mp carried
      change Reader.operand (bound + 1) (⟨.ident name, pos⟩ :: (ts ++ rest)) = _
      change atom (⟨.ident name, pos⟩ :: (ts ++ rest)) = _ at taken
      rw [operand_ident, taken]
      rfl

/-- A formula that is followed by nothing which could continue it is read. -/
theorem reads_formula {f : Formula} (spelled : SpellsFormula ls f) :
    Reads formula afterFormula ls f := by
  intro ts rest carried unread
  have read : Levels (Reads (Reader.operand (ts ++ rest).length) afterAtom) ls f := by
    refine Levels.imp spelled fun ms g inside spelled => reads_operand spelled _ ?_
    exact inside.length_le.trans (length_le_of_carried carried rest)
  exact reads_operators read (fun _ _ reads => reads) ts rest carried unread

/-- All tokens of a formula are read as the formula. -/
theorem complete_of_spellsFormula {f : Formula} {ts : List Token}
    (spelled : SpellsFormula (ts.map Token.lexeme) f) : complete ts = .ok f := by
  have taken := reads_formula spelled ts [] rfl (unread_nil _)
  rw [List.append_nil] at taken
  unfold complete
  rw [taken]
  rfl

end Reader

end Clausal
