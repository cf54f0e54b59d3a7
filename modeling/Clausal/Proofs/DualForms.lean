import Clausal.Proofs.DistributedForms

/-!
# Dual normal forms

Negating a tree of literals turns every junction into its dual and keeps the order of the operands.
So distribution with one outer junction becomes distribution with the other one
(`Formula.nnf_distribute`), step by step (`Formula.Normalizes.dual`): the disjunctive normal form of
the negation is the negated conjunctive normal form, and the other way round
(`Formula.normalForms_dual`).
-/

namespace Clausal.Formula

variable {outer j : Junction} {f g : Formula}

/-- A negation is not split at one junction if the formula is not split at the other. A negation of
a negation would be, so this is about negation normal forms only. -/
theorem IsNNF.whole_nnf (normal : f.IsNNF) (whole : f.Whole j) : (f.nnf true).Whole j.dual := by
  intro a b top
  induction f, normal using IsNNF.induction with
  | atom a => cases top
  | literal a => cases top
  | junction k f g left right _ _ =>
      have dual : k.dual = j.dual := Connective.junction.inj (Formula.binary.inj top).1
      have same : k = j := by rw [← k.dual_dual, dual, j.dual_dual]
      exact whole f g (same ▸ rfl)
  | quant q x f scope _ => cases top

/-- Negating what is distributed over the left part distributes the other junction. -/
theorem nnf_distributeLeft (left : f.IsNNF) :
    (distributeLeft outer g f).nnf true = distributeLeft outer.dual (g.nnf true) (f.nnf true) := by
  induction f using induction_outer outer with
  | split a b iha ihb =>
      calc (distributeLeft outer g (junction outer a b)).nnf true
        _ = junction outer.dual ((distributeLeft outer g a).nnf true)
            ((distributeLeft outer g b).nnf true) := by rw [distributeLeft_outer]; rfl
        _ = distributeLeft outer.dual (g.nnf true)
            (junction outer.dual (a.nnf true) (b.nnf true)) := by
          rw [iha left.1, ihb left.2, distributeLeft_outer]
  | whole f whole =>
      rw [distributeLeft_whole g whole, distributeLeft_whole _ (left.whole_nnf whole)]
      rfl

/-- Negating what is distributed is distributing the negations with the junctions exchanged. -/
theorem nnf_distribute (left : f.IsNNF) (right : g.IsNNF) :
    (distribute outer f g).nnf true = distribute outer.dual (f.nnf true) (g.nnf true) := by
  induction g using induction_outer outer with
  | split a b iha ihb =>
      calc (distribute outer f (junction outer a b)).nnf true
        _ = junction outer.dual ((distribute outer f a).nnf true)
            ((distribute outer f b).nnf true) := by rw [distribute_outer]; rfl
        _ = distribute outer.dual (f.nnf true)
            (junction outer.dual (a.nnf true) (b.nnf true)) := by
          rw [iha right.1, ihb right.2, distribute_outer]
  | whole g whole =>
      rw [distribute_whole f whole, distribute_whole _ (right.whole_nnf whole)]
      exact nnf_distributeLeft left

/-- A normal form is in negation normal form. -/
theorem Normalizes.isNNF (normalizes : Normalizes outer f g) : g.IsNNF := by
  have found := normalizes.normalForm
  have distributed := distributed_normalForm (isLiteralTree_of_normalForm found) found
  exact (isLiteralTree_iff.mp distributed.isLiteralTree).1

/-- Every step towards a normal form has its dual in the negation. -/
theorem Normalizes.dual (normalizes : Normalizes outer f g) :
    Normalizes outer.dual (f.nnf true) (g.nnf true) := by
  induction normalizes with
  | atom a => exact .literal a
  | literal a => exact .atom a
  | outer _ _ ihf ihg => exact .outer ihf ihg
  | inner left right ihf ihg =>
      rw [nnf_distribute left.isNNF right.isNNF]
      exact .inner ihf ihg

/-- The negation of one normal form is the other normal form of the negation. -/
theorem normalForm_dual (tree : f.IsLiteralTree) (found : f.normalForm outer = .ok g) :
    (f.nnf true).normalForm outer.dual = .ok (g.nnf true) :=
  (normalizes_of_normalForm tree found).dual.normalForm

/-- Literals under junctions have both normal forms, and so has their negation. Each normal form of
the negation is the negation of the other one of the formula, as a tree. -/
theorem normalForms_dual (tree : f.IsLiteralTree) :
    ∃ c d, f.cnf? = .ok c ∧ f.dnf? = .ok d ∧
      (f.nnf true).dnf? = .ok (c.nnf true) ∧ (f.nnf true).cnf? = .ok (d.nnf true) := by
  obtain ⟨c, conjunctive⟩ := exists_normalForm .and tree
  obtain ⟨d, disjunctive⟩ := exists_normalForm .or tree
  exact ⟨c, d, cnf?_of_cnf conjunctive, dnf?_of_dnf disjunctive,
    dnf?_of_dnf (normalForm_dual tree conjunctive), cnf?_of_cnf (normalForm_dual tree disjunctive)⟩

/-- Both sides of the disjunction are split, so the order of the four conjunctions shows which side
is split first. -/
theorem normalForms_dual_pairs :
    (Formula.nnf true (.or (.and (.atom (.pred "P" [])) (.atom (.pred "Q" [])))
        (.and (.atom (.pred "R" [])) (.neg (.atom (.pred "S" [])))))).dnf? =
      .ok (.or
        (.or (.and (.neg (.atom (.pred "P" []))) (.neg (.atom (.pred "R" []))))
          (.and (.neg (.atom (.pred "Q" []))) (.neg (.atom (.pred "R" [])))))
        (.or (.and (.neg (.atom (.pred "P" []))) (.atom (.pred "S" [])))
          (.and (.neg (.atom (.pred "Q" []))) (.atom (.pred "S" []))))) ∧
    (Formula.nnf true (.or (.and (.atom (.pred "P" [])) (.atom (.pred "Q" [])))
        (.and (.atom (.pred "R" [])) (.neg (.atom (.pred "S" [])))))).cnf? =
      .ok (.and (.or (.neg (.atom (.pred "P" []))) (.neg (.atom (.pred "Q" []))))
        (.or (.neg (.atom (.pred "R" []))) (.atom (.pred "S" [])))) := by
  let f : Formula := .or (.and (.atom (.pred "P" [])) (.atom (.pred "Q" [])))
    (.and (.atom (.pred "R" [])) (.neg (.atom (.pred "S" []))))
  have tree : f.IsLiteralTree := ⟨⟨trivial, trivial⟩, trivial, trivial⟩
  obtain ⟨c, d, conjunctive, disjunctive, ofConjunctive, ofDisjunctive⟩ := normalForms_dual tree
  obtain rfl := Except.ok.inj conjunctive
  obtain rfl := Except.ok.inj disjunctive
  exact ⟨ofConjunctive, ofDisjunctive⟩

end Clausal.Formula
