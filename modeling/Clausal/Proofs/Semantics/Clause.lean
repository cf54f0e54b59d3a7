import Clausal.Clause.Basic
import Clausal.Proofs.Semantics.Distribution
import Clausal.Proofs.Semantics.Valuation

/-!
# The meaning of clauses

A list of clauses is true when every clause holds a true literal. Whenever the
clauses of a formula can be listed, they hold its atoms in order
(`Formula.atoms_of_clauses`) and are true exactly if the formula is, wherever the
truth of its atoms comes from (`Formula.truth_iff_of_clauses`). The clauses of a
formula can be listed exactly if it is in conjunctive normal form
(`Formula.exists_clauses_iff`).
-/

universe u

namespace Clausal

variable {D : Type u} {M : Structure D} {v : Assignment D}

def Literal.Holds (M : Structure D) (v : Assignment D) (l : Literal) : Prop :=
  l.toFormula.Holds M v

/-- A clause is true when one of its literals is. -/
def Clause.Holds (M : Structure D) (v : Assignment D) (c : Clause) : Prop :=
  ∃ l ∈ c, l.Holds M v

/-- A list of clauses is true when all of them are. -/
def ClausesHold (M : Structure D) (v : Assignment D) (cs : List Clause) : Prop :=
  ∀ c ∈ cs, Clause.Holds M v c

def Literal.HoldsAt (t : Valuation) (l : Literal) : Prop := l.toFormula.HoldsAt t

def Clause.HoldsAt (t : Valuation) (c : Clause) : Prop := ∃ l ∈ c, l.HoldsAt t

/-- The truth of a list of clauses when only the truth values of atoms are known. -/
def ClausesHoldAt (t : Valuation) (cs : List Clause) : Prop := ∀ c ∈ cs, Clause.HoldsAt t c

namespace Formula

/-- The literals of a disjunction are those of its parts, in order. -/
theorem literals_or {f g : Formula} {c : Clause} :
    (or f g).literals = .ok c ↔
      ∃ left right, f.literals = .ok left ∧ g.literals = .ok right ∧ c = left ++ right := by
  rw [literals]
  exact bind_eq_ok_iff

/-- The clauses of a conjunction are those of its parts, in order. -/
theorem clauses_and {f g : Formula} {cs : List Clause} :
    (and f g).clauses = .ok cs ↔
      ∃ left right, f.clauses = .ok left ∧ g.clauses = .ok right ∧ cs = left ++ right := by
  rw [clauses]
  exact bind_eq_ok_iff

/-- A formula without a conjunction at its top is a single clause. -/
theorem clauses_of_not_and {f : Formula} (top : ∀ a b, f ≠ and a b) {cs : List Clause} :
    f.clauses = .ok cs ↔ ∃ c, f.literals = .ok c ∧ cs = [c] := by
  rw [clauses]
  · cases f.literals with
    | error e => simp [bind, Except.bind]
    | ok c => simp [bind, Except.bind, eq_comm]
  · exact top

/-- Induction over a formula whose literals can be listed. -/
theorem literals_induction {motive : (f : Formula) → (c : Clause) → f.literals = .ok c → Prop}
    (positive : ∀ a, motive (.atom a) [⟨a, false⟩] rfl)
    (negative : ∀ a, motive (.neg (.atom a)) [⟨a, true⟩] rfl)
    (either : ∀ f g left right (first : f.literals = .ok left) (second : g.literals = .ok right),
      motive f left first → motive g right second →
        motive (or f g) (left ++ right) (literals_or.mpr ⟨left, right, first, second, rfl⟩))
    {f : Formula} {c : Clause} (listed : f.literals = .ok c) : motive f c listed := by
  induction f generalizing c with
  | atom a =>
      obtain rfl := Except.ok.inj listed
      exact positive a
  | neg f ih =>
      cases f with
      | atom a =>
          obtain rfl := Except.ok.inj listed
          exact negative a
      | _ => cases listed
  | binary k f g ihf ihg =>
      rcases k with (_ | _) | _ | _
      · cases listed
      · obtain ⟨left, right, first, second, rfl⟩ := literals_or.mp listed
        exact either f g left right first second (ihf first) (ihg second)
      · cases listed
      · cases listed
  | quant q x f ih => cases listed

/-- Induction over a formula whose clauses can be listed. -/
theorem clauses_induction {motive : (f : Formula) → (cs : List Clause) → f.clauses = .ok cs → Prop}
    (single : ∀ f c (listed : f.clauses = .ok [c]), f.literals = .ok c → motive f [c] listed)
    (both : ∀ f g left right (first : f.clauses = .ok left) (second : g.clauses = .ok right),
      motive f left first → motive g right second →
        motive (and f g) (left ++ right) (clauses_and.mpr ⟨left, right, first, second, rfl⟩))
    {f : Formula} {cs : List Clause} (listed : f.clauses = .ok cs) : motive f cs listed := by
  have alone {f : Formula} {cs : List Clause} (top : ∀ a b, f ≠ and a b)
      (listed : f.clauses = .ok cs) : motive f cs listed := by
    obtain ⟨c, found, rfl⟩ := (clauses_of_not_and top).mp listed
    exact single f c listed found
  induction f generalizing cs with
  | atom a => exact alone (fun _ _ => Formula.noConfusion) listed
  | neg f ih => exact alone (fun _ _ => Formula.noConfusion) listed
  | binary k f g ihf ihg =>
      by_cases conjunction : k = .junction .and
      · subst conjunction
        obtain ⟨left, right, first, second, rfl⟩ := clauses_and.mp listed
        exact both f g left right first second (ihf first) (ihg second)
      · exact alone (fun a b same => conjunction (Formula.binary.inj same).1) listed
  | quant q x f ih => exact alone (fun _ _ => Formula.noConfusion) listed

/-- The literals of a formula hold its atoms in order. -/
theorem atoms_of_literals (f : Formula) {c : Clause} (listed : f.literals = .ok c) :
    f.atoms = c.map Literal.atom := by
  induction listed using literals_induction with
  | positive a => rfl
  | negative a => rfl
  | either f g left right first second ihf ihg =>
      rw [atoms, ihf, ihg, List.map_append]

/-- The clauses of a formula hold its atoms in order. -/
theorem atoms_of_clauses (f : Formula) {cs : List Clause} (listed : f.clauses = .ok cs) :
    f.atoms = cs.flatten.map Literal.atom := by
  induction listed using clauses_induction with
  | single f c listed found => rw [List.flatten_singleton, f.atoms_of_literals found]
  | both f g left right first second ihf ihg =>
      rw [atoms, ihf, ihg, List.flatten_append, List.map_append]

section

variable (truth : Formula → Prop)
  (joined : ∀ j f g, truth (junction j f g) ↔ j.Holds (truth f) (truth g))
include joined

/-- If the literals of a formula can be listed, one of them is true exactly if the
formula is. -/
theorem truth_iff_of_literals {f : Formula} {c : Clause} (listed : f.literals = .ok c) :
    truth f ↔ ∃ l ∈ c, truth l.toFormula := by
  induction listed using literals_induction with
  | positive a => simp only [List.mem_singleton, exists_eq_left, Literal.toFormula,
      Bool.false_eq_true, ↓reduceIte]
  | negative a => simp only [List.mem_singleton, exists_eq_left, Literal.toFormula, ↓reduceIte]
  | either f g left right first second ihf ihg =>
      rw [joined, Junction.Holds, ihf, ihg]
      simp only [List.mem_append, or_and_right, exists_or]

/-- If the clauses of a formula can be listed, they are true exactly if the formula
is. -/
theorem truth_iff_of_clauses {f : Formula} {cs : List Clause} (listed : f.clauses = .ok cs) :
    truth f ↔ ∀ c ∈ cs, ∃ l ∈ c, truth l.toFormula := by
  induction listed using clauses_induction with
  | single f c listed found =>
      simp only [List.mem_singleton, forall_eq]
      exact truth_iff_of_literals truth joined found
  | both f g left right first second ihf ihg =>
      rw [joined, Junction.Holds, ihf, ihg]
      exact List.forall_mem_append.symm

end

/-- A formula holds exactly if all its clauses do. -/
theorem holds_iff_of_clauses (f : Formula) {cs : List Clause} (listed : f.clauses = .ok cs) :
    f.Holds M v ↔ ClausesHold M v cs :=
  truth_iff_of_clauses (fun g => g.Holds M v) (fun _ _ _ => Iff.rfl) listed

/-- A formula is true at a valuation exactly if all its clauses are. -/
theorem holdsAt_iff_of_clauses (t : Valuation) {f : Formula} {cs : List Clause}
    (listed : f.clauses = .ok cs) : f.HoldsAt t ↔ ClausesHoldAt t cs :=
  truth_iff_of_clauses (HoldsAt t) (fun _ _ _ => Iff.rfl) listed

/-- A disjunction of literals has literals. -/
theorem exists_literals {f : Formula} (joined : Joined .or f) : ∃ c, f.literals = .ok c := by
  induction joined with
  | atom a => exact ⟨_, rfl⟩
  | literal a => exact ⟨_, rfl⟩
  | join _ _ ihf ihg =>
      obtain ⟨left, first⟩ := ihf
      obtain ⟨right, second⟩ := ihg
      exact ⟨left ++ right, literals_or.mpr ⟨left, right, first, second, rfl⟩⟩

/-- A conjunctive form has clauses. -/
theorem exists_clauses {f : Formula} (distributed : Distributed .and f) :
    ∃ cs, f.clauses = .ok cs := by
  induction distributed with
  | inner joined =>
      obtain ⟨c, found⟩ := exists_literals joined
      refine ⟨[c], (clauses_of_not_and ?_).mpr ⟨c, found, rfl⟩⟩
      rintro a b rfl
      cases joined
  | outer _ _ ihf ihg =>
      obtain ⟨left, first⟩ := ihf
      obtain ⟨right, second⟩ := ihg
      exact ⟨left ++ right, clauses_and.mpr ⟨left, right, first, second, rfl⟩⟩

/-- What has literals is a disjunction of literals. -/
theorem joined_of_literals {f : Formula} {c : Clause} (listed : f.literals = .ok c) :
    Joined .or f := by
  induction listed using literals_induction with
  | positive a => exact .atom a
  | negative a => exact .literal a
  | either f g left right first second ihf ihg => exact .join ihf ihg

/-- The clauses of a formula can be listed exactly if it has its disjunctions under
its conjunctions. -/
theorem exists_clauses_iff {f : Formula} :
    (∃ cs, f.clauses = .ok cs) ↔ Distributed .and f := by
  constructor
  · rintro ⟨cs, listed⟩
    induction listed using clauses_induction with
    | single f c listed found => exact .inner (joined_of_literals found)
    | both f g left right first second ihf ihg => exact .outer ihf ihg
  · exact exists_clauses

end Formula

end Clausal
