import Clausal.Proofs.Scanner
import Clausal.Proofs.Stages
import Clausal.Proofs.Reader.Spellable

/-!
# Names stay identifiers

A formula whose names are identifiers keeps such names on its way through the passes. Fresh
names are identifiers (`isIdentifier_mintVariable`, `isIdentifier_mint`), terms put in for
symbols can be spelled where they stand (`Formula.Spellable.subst`), and a witness that is an
application has arguments (`Formula.Spellable.skolemize`). So every form of a formula that
can be spelled can be spelled itself (`NormalForms.Staged.spellable`).
-/

namespace Clausal

variable {named : String → Prop}

theorem isIdentifier_append {stem tail : String} (head : isIdentifier stem = true)
    (parts : ∀ c ∈ tail.toList, isIdentifierPart c = true) :
    isIdentifier (stem ++ tail) = true := by
  obtain ⟨c, cs, spelled, start, others⟩ := isIdentifier_iff.mp head
  refine isIdentifier_iff.mpr ⟨c, cs ++ tail.toList, ?_, start, ?_⟩
  · rw [String.toList_append, spelled, List.cons_append]
  · exact List.forall_mem_append.mpr ⟨others, parts⟩

/-- Digits can stand in an identifier, though not at its start. -/
theorem isIdentifierPart_of_isDigit {c : Char} (digit : c.isDigit = true) :
    isIdentifierPart c = true := by
  rw [isIdentifierPart, Char.isAlphanum, digit, Bool.or_true, Bool.true_or, Bool.true_or]

/-- The digits of a number continue an identifier. A sign would not. -/
theorem isIdentifier_numbered {stem : String} (head : isIdentifier stem = true) {n : Int}
    (nonneg : 0 ≤ n) : isIdentifier (numbered stem n) = true := by
  obtain ⟨n, rfl⟩ := Int.eq_ofNat_of_zero_le nonneg
  refine isIdentifier_append head fun c member => isIdentifierPart_of_isDigit ?_
  have digits : (Int.repr n).toList = Nat.toDigits 10 n := Nat.toList_repr
  rw [digits] at member
  exact Nat.isDigit_of_mem_toDigits (by decide) (by decide) member

/-- A fresh name with an identifier as its stem is an identifier, as long as its number counts
up from a number that is not negative. -/
theorem isIdentifier_mint {stem : String} (head : isIdentifier stem = true) {counter : Int}
    (nonneg : 0 ≤ counter) (used : List String) :
    isIdentifier (mint stem counter used).name = true ∧ 0 ≤ (mint stem counter used).counter := by
  have above : 0 ≤ nextUnused stem used counter :=
    nonneg.trans (nextUnused_spec stem used counter).1.le
  exact ⟨isIdentifier_numbered head above, above⟩

/-- What is left of the name of a variable is an identifier. -/
theorem isIdentifier_variableStem (name : String) : isIdentifier (variableStem name) = true := by
  rw [variableStem]
  have letters : ∀ c ∈ name.toList.filter Char.isAlpha, c.isAlpha = true :=
    fun _ member => (List.mem_filter.mp member).2
  cases kept : name.toList.filter Char.isAlpha with
  | nil => decide
  | cons c cs =>
      rw [kept] at letters
      obtain ⟨first, others⟩ := List.forall_mem_cons.mp letters
      refine isIdentifier_iff.mpr ⟨c, cs, String.toList_ofList, ?_, fun d member => ?_⟩
      · rw [isIdentifierStart, first, Bool.true_or]
      · exact isIdentifierPart_of_isAlpha (others d member)

/-- The new variable for any old one is an identifier. -/
theorem isIdentifier_mintVariable (name : String) (used : List String) :
    isIdentifier (mintVariable name used).name = true :=
  (isIdentifier_mint (isIdentifier_variableStem name) le_rfl used).1

/-- All terms that are put in can be spelled. -/
def Substitution.Spellable (named : String → Prop) (s : Substitution) : Prop :=
  ∀ entry ∈ s, entry.2.Spellable named

/-- A symbol is replaced by a spellable term or stays as it is. -/
theorem Substitution.Spellable.apply {s : Substitution} (entries : s.Spellable named) {x : String}
    (head : named x) : (s.apply x).Spellable named :=
  apply_of_forall (P := fun t => t.Spellable named) head entries

/-- Fewer replacements are spellable as well. -/
theorem Substitution.Spellable.erase {s : Substitution} (entries : s.Spellable named)
    (x : String) : (s.erase x).Spellable named :=
  fun entry member => entries entry (List.mem_filter.mp member).1

namespace Term

variable {s : Substitution}

mutual

/-- Spellable terms stay so when symbols are replaced by spellable terms. -/
theorem Spellable.subst (entries : s.Spellable named) :
    {t : Term} → t.Spellable named → (t.subst s).Spellable named
  | .sym _, head => entries.apply head
  | .app _ [], ⟨_, nonempty, _⟩ => absurd rfl nonempty
  | .app _ (_ :: _), ⟨head, _, parts⟩ =>
      ⟨head, List.cons_ne_nil _ _, SpellableList.subst entries parts⟩

theorem SpellableList.subst (entries : s.Spellable named) :
    {ts : List Term} → SpellableList named ts → SpellableList named (Term.substList s ts)
  | [], _ => trivial
  | _ :: _, ⟨first, rest⟩ => ⟨Spellable.subst entries first, SpellableList.subst entries rest⟩

end

end Term

/-- Spellable atoms stay so when symbols are replaced by spellable terms. -/
theorem Atom.Spellable.subst {s : Substitution} (entries : s.Spellable named) {a : Atom}
    (spellable : a.Spellable named) : (a.subst s).Spellable named := by
  cases a with
  | pred name args =>
      refine ⟨spellable.1, fun t member => ?_⟩
      obtain ⟨u, inside, rfl⟩ := List.mem_map.mp member
      exact (spellable.2 u inside).subst entries
  | relation r lhs rhs => exact ⟨spellable.1.subst entries, spellable.2.subst entries⟩

namespace Formula

/-- Spellable formulas stay so when symbols are replaced by spellable terms. -/
theorem Spellable.subst {f : Formula} (spellable : f.Spellable named) {s : Substitution}
    (entries : s.Spellable named) : (f.subst s).Spellable named := by
  induction f generalizing s with
  | atom a => exact Atom.Spellable.subst entries spellable
  | neg f ih => exact ih spellable entries
  | binary c f g ihf ihg => exact ⟨ihf spellable.1 entries, ihg spellable.2 entries⟩
  | quant q x f ih => exact ⟨spellable.1, ih spellable.2 (entries.erase x)⟩

/-- A formula can be spelled if its atoms and its bound variables can. -/
theorem spellable_iff {f : Formula} :
    f.Spellable named ↔
      (∀ a ∈ f.atoms, a.Spellable named) ∧ ∀ x ∈ f.boundNames, named x := by
  induction f with
  | atom a => simp [Spellable, atoms, boundNames]
  | neg f ih => exact ih
  | binary c f g ihf ihg =>
      rw [Spellable, ihf, ihg, atoms, boundNames, List.forall_mem_append, List.forall_mem_append]
      exact and_and_and_comm
  | quant q x f ih =>
      rw [Spellable, ih, atoms, boundNames, List.forall_mem_cons]
      exact and_left_comm

/-- Taking arrows out of a formula brings no new names into it. -/
theorem Spellable.withoutArrows {f : Formula} (spellable : f.Spellable named) :
    f.withoutArrows.Spellable named := by
  rw [spellable_iff] at spellable ⊢
  simpa only [collects_atoms.mem_withoutArrows, collects_boundNames.mem_withoutArrows]
    using spellable

/-- Moving negations inwards brings no new names into a formula. -/
theorem Spellable.nnf {f : Formula} (spellable : f.Spellable named) (negated : Bool) :
    (f.nnf negated).Spellable named := by
  rw [spellable_iff] at spellable ⊢
  simpa only [collects_atoms.mem_nnf, collects_boundNames.mem_nnf] using spellable

/-- Renaming puts identifiers in for bound variables, whatever these are. -/
theorem Spellable.renameApart {f : Formula} (spellable : f.Spellable (isIdentifier · = true))
    {env : Substitution} (entries : env.Spellable (isIdentifier · = true)) (used : List String) :
    (f.renameApart env used).1.Spellable (isIdentifier · = true) := by
  induction f generalizing env used with
  | atom a => exact Atom.Spellable.subst entries spellable
  | neg f ih => exact ih spellable entries used
  | binary c f g ihf ihg => exact ⟨ihf spellable.1 entries used, ihg spellable.2 entries _⟩
  | quant q x f ih =>
      have fresh := isIdentifier_mintVariable x used
      have extended : Substitution.Spellable (isIdentifier · = true)
          ((x, .sym (mintVariable x used).name) :: env) :=
        List.forall_mem_cons.mpr ⟨fresh, entries⟩
      exact ⟨fresh, ih spellable.2 extended _⟩

/-- The new names of bound variables are identifiers. -/
theorem Spellable.apart {f : Formula} (spellable : f.Spellable (isIdentifier · = true)) :
    f.apart.Spellable (isIdentifier · = true) :=
  spellable.renameApart (List.forall_mem_nil _) f.names

/-- Without its quantifiers a spellable formula is spellable. -/
theorem Spellable.bare {f : Formula} (spellable : f.Spellable named) :
    f.bare.Spellable named := by
  induction f with
  | atom a => exact spellable
  | neg f ih => exact ih spellable
  | binary c f g ihf ihg => exact ⟨ihf spellable.1, ihg spellable.2⟩
  | quant q x f ih => exact ih spellable.2

/-- The quantifiers of a spellable formula have lawful variables. -/
theorem Spellable.binders {f : Formula} (spellable : f.Spellable named) :
    ∀ b ∈ f.binders, named b.name := by
  intro b member
  have bound : b.name ∈ f.boundNames := by
    rw [← map_name_binders]
    exact List.mem_map_of_mem member
  exact (spellable_iff.mp spellable).2 b.name bound

/-- A prefix with lawful variables keeps a formula spellable. -/
theorem Spellable.quantify {f : Formula} (spellable : f.Spellable named) {p : Prefix}
    (heads : ∀ b ∈ p, named b.name) : (f.quantify p).Spellable named := by
  induction p with
  | nil => exact spellable
  | cons b p ih =>
      obtain ⟨head, others⟩ := List.forall_mem_cons.mp heads
      exact ⟨head, ih others⟩

/-- Distribution brings no new names into a formula. -/
theorem Spellable.normalForm {outer : Junction} {f g : Formula} (spellable : f.Spellable named)
    (tree : f.IsLiteralTree) (found : f.normalForm outer = .ok g) : g.Spellable named :=
  (normalForm_iff (fun _ _ _ => Iff.rfl) tree found).mpr spellable

end Formula

namespace Skolemized.State

/-- The matrix and the witnesses can be spelled, the universal variables are identifiers, and
the counters will give numbers without a sign. -/
structure Spellable (s : State) : Prop where
  matrix : s.result.matrix.Spellable (isIdentifier · = true)
  mapping : Substitution.Spellable (isIdentifier · = true) s.result.mapping
  universals : ∀ x ∈ s.result.universals, isIdentifier x = true
  constants : 0 ≤ s.constants
  functions : 0 ≤ s.functions

/-- A witness whose name is an identifier keeps the state spellable. -/
theorem Spellable.witnessed {s : State} (spellable : s.Spellable) (x : String) {name : String}
    (head : isIdentifier name = true) {constants functions : Int} (counted : 0 ≤ constants)
    (numbered : 0 ≤ functions) : (s.witnessed x name constants functions).Spellable := by
  have witness : (Term.applied name (s.result.universals.map .sym)).Spellable
      (isIdentifier · = true) := by
    refine Term.spellable_applied head fun t member => ?_
    obtain ⟨y, universal, rfl⟩ := List.mem_map.mp member
    exact spellable.universals y universal
  exact {
    matrix := spellable.matrix.subst (List.forall_mem_singleton.mpr witness)
    mapping := List.forall_mem_append.mpr
      ⟨spellable.mapping, List.forall_mem_singleton.mpr witness⟩
    universals := spellable.universals
    constants := counted
    functions := numbered }

/-- Removing one quantifier keeps the state as it should be. -/
theorem Spellable.step {s : State} (spellable : s.Spellable) {b : Binder}
    (head : isIdentifier b.name = true) : (s.step b).Spellable := by
  obtain ⟨q, x⟩ := b
  cases q with
  | all =>
      refine ⟨spellable.matrix, spellable.mapping, ?_, spellable.constants, spellable.functions⟩
      exact List.forall_mem_append.mpr
        ⟨spellable.universals, List.forall_mem_singleton.mpr head⟩
  | ex =>
      by_cases leading : s.result.universals = []
      · have stem : isIdentifier constantStem = true := by decide
        have fresh := isIdentifier_mint stem spellable.constants s.used
        rw [step_ex_constant leading]
        exact spellable.witnessed x fresh.1 fresh.2 spellable.functions
      · have stem : isIdentifier functionStem = true := by decide
        have fresh := isIdentifier_mint stem spellable.functions s.used
        rw [step_ex_function leading]
        exact spellable.witnessed x fresh.1 spellable.constants fresh.2

/-- All steps keep the state spellable, if the variables of the prefix are identifiers. -/
theorem Spellable.run {s : State} (spellable : s.Spellable) {p : Prefix}
    (heads : ∀ b ∈ p, isIdentifier b.name = true) : (s.run p).Spellable := by
  induction p generalizing s with
  | nil => exact spellable
  | cons b p ih =>
      obtain ⟨head, others⟩ := List.forall_mem_cons.mp heads
      exact ih (spellable.step head) others

end Skolemized.State

/-- A formula stays spellable with witnesses, and so do the witnesses. -/
theorem Formula.Spellable.skolemize {matrix : Formula}
    (spellable : matrix.Spellable (isIdentifier · = true)) {p : Prefix}
    (heads : ∀ b ∈ p, isIdentifier b.name = true) :
    (skolemize p matrix).matrix.Spellable (isIdentifier · = true) ∧
      Substitution.Spellable (isIdentifier · = true) (skolemize p matrix).mapping := by
  have start : (Skolemized.State.start p matrix).Spellable :=
    ⟨spellable, List.forall_mem_nil _, List.forall_mem_nil _, le_rfl, le_rfl⟩
  have finish := start.run heads
  exact ⟨finish.matrix, finish.mapping⟩

namespace NormalForms

/-- Every form and every witness can be spelled, and the prefix binds identifiers. -/
structure Spellable (r : NormalForms) : Prop where
  given : r.given.Spellable (isIdentifier · = true)
  arrowless : r.arrowless.Spellable (isIdentifier · = true)
  nnf : r.nnf.Spellable (isIdentifier · = true)
  apart : r.apart.Spellable (isIdentifier · = true)
  binders : ∀ b ∈ r.binders, isIdentifier b.name = true
  matrix : r.matrix.Spellable (isIdentifier · = true)
  cnf : r.cnf.Spellable (isIdentifier · = true)
  dnf : r.dnf.Spellable (isIdentifier · = true)
  skolem : r.skolem.matrix.Spellable (isIdentifier · = true)
  mapping : Substitution.Spellable (isIdentifier · = true) r.skolem.mapping
  skolemCnf : r.skolemCnf.Spellable (isIdentifier · = true)

/-- All forms of a formula that can be spelled can be spelled. -/
theorem Staged.spellable {r : NormalForms} (staged : r.Staged)
    (given : r.given.Spellable (isIdentifier · = true)) : r.Spellable := by
  have arrowless := staged.arrowless ▸ given.withoutArrows
  have nnf := staged.nnf ▸ arrowless.nnf false
  have apart := staged.apart ▸ nnf.apart
  have binders := staged.binders_eq ▸ apart.binders
  have matrix := staged.matrix_eq ▸ apart.bare
  obtain ⟨skolem, mapping⟩ := staged.skolem ▸ matrix.skolemize binders
  exact {
    given, arrowless, nnf, apart, binders, matrix, skolem, mapping
    cnf := matrix.normalForm staged.isLiteralTree_matrix staged.cnf
    dnf := matrix.normalForm staged.isLiteralTree_matrix staged.dnf
    skolemCnf := skolem.normalForm staged.isLiteralTree_skolem staged.skolemCnf }

end NormalForms

end Clausal
