import Clausal.Proofs.Semantics.Valuation
import Clausal.Proofs.Stages

/-!
# Conjunctive and disjunctive normal forms and their clauses

Literals under junctions have a conjunctive and a disjunctive normal form. Both have the same truth
value as the formula whatever the truth values of its atoms are, and both are made of its literals
(`Formula.normalForms_spec`). The clauses of the conjunctive one can be listed without the form: a
disjunction has every clause of its left side joined with every clause of its right side
(`Formula.clauses_cnf`).
-/

universe u

namespace Clausal.Formula

/-- The literals under the junctions at the top of a formula, from left to right. -/
def leaves : Formula → List Literal
  | .atom a => [⟨a, false⟩]
  | .neg (.atom a) => [⟨a, true⟩]
  | .binary (.junction _) f g => f.leaves ++ g.leaves
  | _ => []

/-- Literals with one junction between them are a tree of literals. -/
theorem Joined.isLiteralTree {j : Junction} {f : Formula} (joined : Joined j f) :
    f.IsLiteralTree := by
  induction joined with
  | atom a => trivial
  | literal a => trivial
  | join _ _ ihf ihg => exact ⟨ihf, ihg⟩

/-- A distributed form is a tree of literals. -/
theorem Distributed.isLiteralTree {outer : Junction} {f : Formula}
    (distributed : Distributed outer f) : f.IsLiteralTree := by
  induction distributed with
  | inner joined => exact joined.isLiteralTree
  | outer _ _ ihf ihg => exact ⟨ihf, ihg⟩

/-- The second formula is a normal form of the first one: it has no outer junction below an inner
one and is made of literals, the same that the first one is made of, and both have the same truth
value for all truth values of atoms, and so in all structures. -/
structure NormalFormOf (outer : Junction) (f g : Formula) : Prop where
  distributed : Distributed outer g
  value : ∀ t, g.HoldsAt t ↔ f.HoldsAt t
  equivalent : Equivalent.{u} g f
  literal : ∀ l, l ∈ g.leaves ↔ l ∈ f.leaves

/-- The normal form that is found has all the properties of one. -/
theorem normalFormOf_of_normalForm {outer : Junction} {f g : Formula} (tree : f.IsLiteralTree)
    (found : f.normalForm outer = .ok g) : NormalFormOf.{u} outer f g := by
  have distributed := distributed_normalForm tree found
  have value (t : Valuation) : g.HoldsAt t ↔ f.HoldsAt t :=
    iff_of_eq (value_normalForm (HoldsAt t) Junction.distributive_holds (fun _ _ _ => rfl)
      tree found)
  have literal (l : Literal) : l ∈ g.leaves ↔ l ∈ f.leaves :=
    iff_of_eq (value_normalForm (fun h => l ∈ h.leaves) distributive_or
      (fun _ _ _ => propext List.mem_append) tree found)
  have equivalent := equivalent_of_holdsAt.{u} distributed.isLiteralTree.boundNames_eq_nil
    tree.boundNames_eq_nil value
  exact ⟨distributed, value, equivalent, literal⟩

/-- Literals under junctions have a conjunctive and a disjunctive normal form. -/
theorem normalForms_spec {f : Formula} (tree : f.IsLiteralTree) :
    ∃ c d, f.cnf? = .ok c ∧ f.dnf? = .ok d ∧
      NormalFormOf.{u} .and f c ∧ NormalFormOf.{u} .or f d := by
  obtain ⟨c, conjunctive⟩ := exists_normalForm .and tree
  obtain ⟨d, disjunctive⟩ := exists_normalForm .or tree
  exact ⟨c, d, cnf?_of_cnf conjunctive, dnf?_of_dnf disjunctive,
    normalFormOf_of_normalForm tree conjunctive, normalFormOf_of_normalForm tree disjunctive⟩

/-- Neither form is the formula, which has a disjunction below a conjunction below a disjunction. -/
theorem normalForms_spec_nested :
    NormalFormOf.{0} .and
        (.or (.and (.atom (.pred "P" []))
          (.or (.neg (.atom (.pred "Q" []))) (.atom (.pred "R" [])))) (.atom (.pred "S" [])))
        (.and (.or (.atom (.pred "P" [])) (.atom (.pred "S" [])))
          (.or (.or (.neg (.atom (.pred "Q" []))) (.atom (.pred "R" []))) (.atom (.pred "S" [])))) ∧
      NormalFormOf.{0} .or
        (.or (.and (.atom (.pred "P" []))
          (.or (.neg (.atom (.pred "Q" []))) (.atom (.pred "R" [])))) (.atom (.pred "S" [])))
        (.or (.or (.and (.atom (.pred "P" [])) (.neg (.atom (.pred "Q" []))))
          (.and (.atom (.pred "P" [])) (.atom (.pred "R" [])))) (.atom (.pred "S" []))) := by
  let f : Formula := .or (.and (.atom (.pred "P" []))
    (.or (.neg (.atom (.pred "Q" []))) (.atom (.pred "R" [])))) (.atom (.pred "S" []))
  have tree : f.IsLiteralTree := ⟨⟨trivial, trivial, trivial⟩, trivial⟩
  obtain ⟨c, d, conjunctive, disjunctive, asConjunction, asDisjunction⟩ := normalForms_spec tree
  obtain rfl := Except.ok.inj conjunctive
  obtain rfl := Except.ok.inj disjunctive
  exact ⟨asConjunction, asDisjunction⟩

/-- The clauses of a conjunction are those of its left side and then those of its right side. A
disjunction has a clause for each pair of clauses of its sides: for the first clause of the right
side and each of the left side in their order, then for the second one of the right side. -/
def crossClauses : Formula → List Clause
  | .atom a => [[⟨a, false⟩]]
  | .neg (.atom a) => [[⟨a, true⟩]]
  | .binary (.junction .and) f g => f.crossClauses ++ g.crossClauses
  | .binary (.junction .or) f g =>
      g.crossClauses.flatMap fun d => f.crossClauses.map fun c => c ++ d
  | _ => []

/-- A formula whose literals can be listed is not split. -/
theorem whole_of_literals {f : Formula} {c : Clause} (listed : f.literals = .ok c) :
    f.Whole .and := by
  rintro a b rfl
  cases listed

/-- A single clause goes to the end of every clause. -/
theorem clauses_distributeLeft {f g : Formula} {cs : List Clause} {d : Clause}
    (left : f.clauses = .ok cs) (right : g.literals = .ok d) :
    (distributeLeft .and g f).clauses = .ok (cs.map fun c => c ++ d) := by
  induction left using clauses_induction with
  | single f c _ found =>
      have joined : (or f g).literals = .ok (c ++ d) :=
        literals_or.mpr ⟨c, d, found, right, rfl⟩
      rw [distributeLeft_whole g (whole_of_literals found)]
      exact (clauses_of_not_and (fun _ _ same => by cases same)).mpr ⟨c ++ d, joined, rfl⟩
  | both f₁ f₂ cs₁ cs₂ _ _ first second =>
      rw [distributeLeft_outer, List.map_append]
      exact clauses_and.mpr ⟨_, _, first, second, rfl⟩

/-- Two formulas distributed over each other have a clause for each pair of their clauses. -/
theorem clauses_distribute {f g : Formula} {cs ds : List Clause} (left : f.clauses = .ok cs)
    (right : g.clauses = .ok ds) :
    (distribute .and f g).clauses = .ok (ds.flatMap fun d => cs.map fun c => c ++ d) := by
  induction right using clauses_induction with
  | single g d _ found =>
      rw [distribute_whole f (whole_of_literals found), List.flatMap_singleton]
      exact clauses_distributeLeft left found
  | both g₁ g₂ ds₁ ds₂ _ _ first second =>
      rw [distribute_outer, List.flatMap_append]
      exact clauses_and.mpr ⟨_, _, first, second, rfl⟩

/-- The clauses of the conjunctive form are the combinations of clauses of the parts. -/
theorem Normalizes.clauses {f g : Formula} (normalizes : Normalizes .and f g) :
    g.clauses = .ok f.crossClauses := by
  induction normalizes with
  | atom a => rfl
  | literal a => rfl
  | outer _ _ ihf ihg => exact clauses_and.mpr ⟨_, _, ihf, ihg, rfl⟩
  | inner _ _ ihf ihg => exact clauses_distribute ihf ihg

/-- Of literals under junctions the conjunctive normal form can be listed, and the clauses are those
of the formula with none lost, merged or put elsewhere. -/
theorem clauses_cnf {f : Formula} (tree : f.IsLiteralTree) :
    f.cnf?.bind clauses? = .ok f.crossClauses := by
  obtain ⟨g, found⟩ := exists_normalForm .and tree
  have listed := (normalizes_of_normalForm tree found).clauses
  rw [cnf?_of_cnf found]
  exact clauses?_of_clauses listed

/-- Two clauses on either side, of which the last one has two literals itself. -/
theorem clauses_cnf_pairs :
    (Formula.or (.and (.atom (.pred "P" [])) (.neg (.atom (.pred "Q" []))))
        (.and (.atom (.pred "R" []))
          (.or (.atom (.relation .eq (.sym "x") (.sym "y"))) (.atom (.pred "S" []))))).cnf?.bind
        clauses? =
      .ok [[⟨.pred "P" [], false⟩, ⟨.pred "R" [], false⟩],
        [⟨.pred "Q" [], true⟩, ⟨.pred "R" [], false⟩],
        [⟨.pred "P" [], false⟩, ⟨.relation .eq (.sym "x") (.sym "y"), false⟩,
          ⟨.pred "S" [], false⟩],
        [⟨.pred "Q" [], true⟩, ⟨.relation .eq (.sym "x") (.sym "y"), false⟩,
          ⟨.pred "S" [], false⟩]] :=
  clauses_cnf ⟨⟨trivial, trivial⟩, trivial, trivial, trivial⟩

end Clausal.Formula
