import Clausal.Token.Basic

/-!
# Nesting of tokens

How deep a formula is nested can be told from its tokens before it is read: every
open bracket counts, and so does every negation and quantifier whose operand has
not ended. The tokens of a text are split where they get too deep, and both
parts together are all of them (`append_splitAtDepth`).
-/

namespace Clausal

/-- The nesting after some tokens: the depth, the depth at the start of the
operand of a connective, and the same for every bracket around it. -/
structure Nesting where
  depth : Nat
  start : Nat
  outer : List Nat
  deriving DecidableEq

namespace Nesting

/-- The nesting before the first token. -/
def flat : Nesting := ⟨0, 0, []⟩

/-- The nesting after one more token. A closing bracket ends the operand that it
belongs to, and with it all operators in front of that. -/
def after (n : Nesting) : Lexeme → Nesting
  | .neg => { n with depth := n.depth + 1 }
  | .quantifier _ => { n with depth := n.depth + 1 }
  | .connective _ => { n with depth := n.start }
  | .opening => ⟨n.depth + 1, n.depth + 1, n.start :: n.outer⟩
  | .closing =>
      let start := n.outer.headD 0
      ⟨start, start, n.outer.tail⟩
  | _ => n

/-- Splits tokens before the first one that is deeper than a limit. -/
def split (limit : Nat) (n : Nesting) : List Token → List Token × List Token
  | [] => ([], [])
  | t :: ts =>
      let n := n.after t.lexeme
      if limit < n.depth then ([], t :: ts)
      else
        let (shallow, rest) := split limit n ts
        (t :: shallow, rest)

theorem append_split (limit : Nat) (n : Nesting) (ts : List Token) :
    (n.split limit ts).1 ++ (n.split limit ts).2 = ts := by
  induction ts generalizing n with
  | nil => rfl
  | cons t ts ih =>
      simp only [split]
      split
      · rfl
      · simp [ih]

/-- Tokens that a limit allows to be open at once are nowhere too deep. -/
theorem split_snd_eq_nil {limit : Nat} {n : Nesting} {ts : List Token} {deepest : Nat}
    (depth : n.depth ≤ deepest) (start : n.start ≤ deepest) (outer : ∀ d ∈ n.outer, d ≤ deepest)
    (room : deepest + ts.length ≤ limit) : (n.split limit ts).2 = [] := by
  induction ts generalizing n deepest with
  | nil => rfl
  | cons t ts ih =>
      rw [List.length_cons] at room
      have first : n.outer.headD 0 ≤ deepest := by
        cases outer' : n.outer with
        | nil => exact Nat.zero_le _
        | cons d ds => exact outer d (outer' ▸ List.mem_cons_self)
      have later : (n.after t.lexeme).depth ≤ deepest + 1 ∧
          (n.after t.lexeme).start ≤ deepest + 1 ∧
          ∀ d ∈ (n.after t.lexeme).outer, d ≤ deepest + 1 := by
        have wider (d : Nat) (member : d ∈ n.outer) : d ≤ deepest + 1 :=
          Nat.le_succ_of_le (outer d member)
        cases t.lexeme with
        | neg | quantifier _ =>
            exact ⟨Nat.succ_le_succ depth, Nat.le_succ_of_le start, wider⟩
        | connective _ => exact ⟨Nat.le_succ_of_le start, Nat.le_succ_of_le start, wider⟩
        | opening =>
            refine ⟨Nat.succ_le_succ depth, Nat.succ_le_succ depth, ?_⟩
            exact List.forall_mem_cons.mpr ⟨Nat.le_succ_of_le start, wider⟩
        | closing =>
            refine ⟨Nat.le_succ_of_le first, Nat.le_succ_of_le first, fun d member => ?_⟩
            exact wider d (List.mem_of_mem_tail member)
        | _ => exact ⟨Nat.le_succ_of_le depth, Nat.le_succ_of_le start, wider⟩
      obtain ⟨depth, start, outer⟩ := later
      have shallow : ¬limit < (n.after t.lexeme).depth := by omega
      rw [split]
      dsimp only
      rw [if_neg shallow]
      exact ih depth start outer (by omega)

end Nesting

/-- The tokens of a text before the first one that is nested deeper than a
limit, and the others. -/
def splitAtDepth (limit : Nat) (ts : List Token) : List Token × List Token :=
  Nesting.flat.split limit ts

/-- No token is lost when tokens are split. -/
theorem append_splitAtDepth (limit : Nat) (ts : List Token) :
    (splitAtDepth limit ts).1 ++ (splitAtDepth limit ts).2 = ts :=
  Nesting.append_split limit .flat ts

/-- A limit of at least the number of tokens is never reached. -/
theorem splitAtDepth_snd_eq_nil {limit : Nat} {ts : List Token} (room : ts.length ≤ limit) :
    (splitAtDepth limit ts).2 = [] := by
  refine Nesting.split_snd_eq_nil (Nat.le_refl 0) (Nat.le_refl 0) nofun ?_
  rwa [Nat.zero_add]

/-- Tokens that are nowhere too deep are kept as they are. -/
theorem splitAtDepth_fst_eq_self {limit : Nat} {ts : List Token}
    (shallow : (splitAtDepth limit ts).2 = []) : (splitAtDepth limit ts).1 = ts := by
  have all := append_splitAtDepth limit ts
  rwa [shallow, List.append_nil] at all

end Clausal
