import Mathlib.Data.List.Nodup
import Mathlib.Data.Option.Basic
import Clausal.Proofs.Reader.Correctness
import Clausal.Proofs.Scanner

/-!
# Where a text is refused

An error points at the first place where a text stops to be the start of any formula. What
stands before it can be continued to tokens that are accepted, and together with what is
found there it cannot (`Formula.viable_before_error`). The end of a text counts as a place of
its own, so the error may also be that the text ends too early.
-/

namespace Clausal

open Grammar

/-- Some tokens that are accepted start like this. -/
def Viable (marks : List (Option Lexeme)) : Prop :=
  ∃ s f, Formula.ofScanned s = .ok f ∧ marks <+: s.ended.map Prod.fst

namespace Scanned

variable {s : Scanned} {used rest : List Token}

/-- What stands behind the first tokens. -/
theorem getElem?_ended (split : s.tokens = used ++ rest) :
    s.ended[used.length]? =
      some (rest.head?.map Token.lexeme, (rest.head?.map Token.pos).getD s.finish) := by
  rw [ended, split, List.map_append, List.append_assoc, List.getElem?_append_right (by simp),
    List.length_map, Nat.sub_self]
  cases rest <;> rfl

/-- The first marks are those of the tokens that were read. -/
theorem take_ended (split : s.tokens = used ++ rest) :
    (s.ended.take used.length).map Prod.fst = (used.map Token.lexeme).map some := by
  rw [ended, split, List.map_append, List.append_assoc, List.take_left' (List.length_map _),
    List.map_map, List.map_map]
  rfl

/-- No token of a text occurs twice, since their places differ. -/
theorem nodup_tokens {text : String} (scanned : scan text = .ok s) : s.tokens.Nodup := by
  have inOrder := (List.pairwise_append.mp (pairwise_pos_of_scan scanned)).1
  exact List.Nodup.of_map Token.pos (inOrder.imp Nat.ne_of_lt)

/-- No two places of a text have the same position. -/
theorem eq_of_getElem?_ended {text : String} (scanned : scan text = .ok s) {i j : Nat}
    {a b : Option Lexeme × Nat} (first : s.ended[i]? = some a) (second : s.ended[j]? = some b)
    (same : a.2 = b.2) : i = j := by
  have distinct : (s.ended.map Prod.snd).Nodup := by
    rw [map_snd_ended]
    exact (pairwise_pos_of_scan scanned).imp Nat.ne_of_lt
  have inside : i < (s.ended.map Prod.snd).length := by
    rw [List.length_map]
    exact (List.getElem?_eq_some_iff.mp first).1
  refine (List.getElem?_inj inside distinct).mp ?_
  rw [List.getElem?_map, List.getElem?_map, first, second, Option.map_some, Option.map_some, same]

end Scanned

/-- Marks are viable if they can be continued to those of a formula. -/
theorem viable_iff {marks : List (Option Lexeme)} :
    Viable marks ↔
      ∃ ls f, (SpellsFormula ls f ∧ f.Callable) ∧ marks <+: ls.map some ++ [none] := by
  constructor
  · rintro ⟨s, f, accepted, starts⟩
    rw [s.map_fst_ended] at starts
    exact ⟨_, f, Formula.ofScanned_eq_ok_iff.mp accepted, starts⟩
  · rintro ⟨ls, f, accepted, starts⟩
    refine ⟨⟨ls.map (Token.mk · 0), 0⟩, f, Formula.ofScanned_eq_ok_iff.mpr ?_, ?_⟩
    · rwa [map_lexeme_map_mk]
    · rwa [Scanned.map_fst_ended, map_lexeme_map_mk]

/-- Lexemes start a text that is accepted exactly if some lexemes after them complete a
formula. -/
theorem viable_map_some {ls : List Lexeme} :
    Viable (ls.map some) ↔ ∃ more f, SpellsFormula (ls ++ more) f ∧ f.Callable := by
  rw [viable_iff]
  constructor
  · rintro ⟨ms, f, spelled, starts⟩
    rcases List.prefix_concat_iff.mp starts with whole | inside
    · have last : none ∈ ls.map some := whole ▸ List.mem_append_right _ List.mem_cons_self
      exact absurd last (by simp)
    · obtain ⟨more, rfl⟩ :=
        (List.prefix_map_iff_of_injective (Option.some_injective Lexeme)).mp inside
      exact ⟨more, f, spelled⟩
  · rintro ⟨more, f, spelled⟩
    refine ⟨ls ++ more, f, spelled, ?_⟩
    rw [List.map_append, List.append_assoc]
    exact List.prefix_append _ _

/-- Lexemes before the end make a text that is accepted exactly if they spell a formula. -/
theorem viable_map_some_end {ls : List Lexeme} :
    Viable (ls.map some ++ [none]) ↔ ∃ f, SpellsFormula ls f ∧ f.Callable := by
  rw [viable_iff]
  constructor
  · rintro ⟨ms, f, spelled, starts⟩
    rcases List.prefix_concat_iff.mp starts with whole | inside
    · have same := List.map_injective_iff.mpr (Option.some_injective Lexeme)
        (List.append_inj_left' whole rfl)
      exact ⟨f, same ▸ spelled⟩
    · have last := inside.subset (List.mem_append_right _ List.mem_cons_self)
      exact absurd last (by simp)
  · rintro ⟨f, spelled⟩
    exact ⟨ls, f, spelled, List.prefix_rfl⟩

/-- No formula starts with a token that is refused after what stands before it. The token may
not occur again: it could be the later one that is refused. -/
theorem Reader.not_viable_of_refused {used rest : List Token} {t : Token} {wanted : Wanted}
    (refused : complete (used ++ t :: rest) = .error ⟨wanted, some t⟩) (once : t ∉ rest) :
    ¬Viable (((used ++ [t]).map Token.lexeme).map some) := by
  rw [List.append_cons] at refused
  have first : complete (used ++ [t]) = .error ⟨wanted, some t⟩ :=
    (refused_or_mem_of_complete_append refused).resolve_right once
  intro viable
  obtain ⟨more, f, spelled, _⟩ := viable_map_some.mp viable
  exact not_spellsFormula_of_refused first more f spelled

namespace Formula

/-- The error of a text points at the one place with its position, and there the text stops
to be the start of a text that is accepted. -/
theorem viable_before_error {text : String} {e : ParseError}
    (failed : parse text = .error (.parse e)) :
    ∃ s k, scan text = .ok s ∧ s.ended[k]? = some (e.found, e.pos) ∧
      (∀ i mark, s.ended[i]? = some mark → mark.2 = e.pos → i = k) ∧
      Viable ((s.ended.take k).map Prod.fst) ∧ ¬Viable ((s.ended.take (k + 1)).map Prod.fst) := by
  obtain ⟨s, ⟨wanted, found⟩, scanned, refused, rfl⟩ := parse_eq_error_iff.mp failed
  obtain ⟨used, rest, more, f, split, here, nameless, spelled⟩ := Reader.complete_error refused
  obtain rfl : found = rest.head? := here
  have place := Scanned.getElem?_ended split
  refine ⟨s, used.length, scanned, place, ?unique, ?before, ?after⟩
  case unique =>
    exact fun i mark found same => Scanned.eq_of_getElem?_ended scanned found place same
  case before =>
    rw [Scanned.take_ended split]
    have callable : f.Callable := by
      refine callable_of_lawful (fun name member => ?_) spelled
      rcases List.mem_append.mp member with before | completed
      · refine null_not_mem_of_scan scanned name ?_
        rw [split, List.map_append]
        exact List.mem_append_left _ before
      · rw [nameless name completed]
        exact List.not_mem_nil
    exact viable_map_some.mpr ⟨more, f, spelled, callable⟩
  case after =>
    -- Either the end is refused, or the first token that was not taken.
    rw [List.take_add_one, place, List.map_append, Scanned.take_ended split]
    cases rest with
    | nil =>
        rw [split, List.append_nil] at refused
        intro viable
        obtain ⟨g, whole, _⟩ := viable_map_some_end.mp viable
        rw [Reader.complete_of_spellsFormula whole] at refused
        exact nomatch refused
    | cons t rest =>
        have distinct := Scanned.nodup_tokens scanned
        rw [split] at refused distinct
        have once : t ∉ rest := (List.nodup_cons.mp (List.nodup_append.mp distinct).2.1).1
        have refusedHere := Reader.not_viable_of_refused refused once
        rwa [List.map_append, List.map_append] at refusedHere

/-- An argument is missing. The tokens are read ahead as a term and then again as a predicate;
the error points at the sign that no argument starts with. -/
theorem viable_before_error_comma :
    parse "f(x, = y)" = .error (.parse ⟨.identifier, some (.relation .eq), 5⟩) ∧
      Viable [some (.ident "f"), some .opening, some (.ident "x"), some .comma] ∧
      ¬Viable [some (.ident "f"), some .opening, some (.ident "x"), some .comma,
        some (.relation .eq)] := by
  have failed : parse "f(x, = y)" =
      .error (.parse ⟨.identifier, some (.relation .eq), 5⟩) := by
    decide +kernel
  obtain ⟨s, k, scanned, place, unique, before, after⟩ := viable_before_error failed
  have found : scan "f(x, = y)" = .ok ⟨[⟨.ident "f", 0⟩, ⟨.opening, 1⟩, ⟨.ident "x", 2⟩,
      ⟨.comma, 3⟩, ⟨.relation .eq, 5⟩, ⟨.ident "y", 7⟩, ⟨.closing, 8⟩], 9⟩ := by
    decide +kernel
  obtain rfl := Except.ok.inj (scanned.symm.trans found)
  obtain rfl := unique 4 (some (.relation .eq), 5) rfl rfl
  exact ⟨failed, before, after⟩

end Formula

end Clausal
