import Clausal.Proofs.Stages

/-!
# Formulas standardized apart

Standardizing apart does nothing but give new names to bound variables, whatever the formula
(`Formula.apart_spec`). The new names are minted one after the other, so they are all different,
and none of them was a name of the formula before (`Formula.boundNames_apart`).
-/

namespace Clausal.Formula

/-- A formula without values from outside can be standardized apart. The result is the formula with
other names for bound variables: free symbols, functions, predicates, connectives and kinds of
quantifiers are the same at the same places, and every bound occurrence belongs to the same
quantifier. -/
theorem apart_spec (f : Formula) :
    f.apart.nameless [] = f.nameless [] ∧ (f.foreignValues = [] → f.apart? = .ok f.apart) :=
  ⟨f.alphaEquivalent_apart, apart?_of_foreignValues_eq_nil⟩

/-- The bound variables of a formula standardized apart are the fresh names minted for the old ones
in their order, with all names of the formula in use from the start. No two of them are the same,
and none is a name of the formula, a free symbol or a function name of the result. -/
theorem boundNames_apart (f : Formula) :
    (f.foreignValues = [] → f.apart? = .ok f.apart) ∧
      f.apart.boundNames = (mintVariables f.boundNames f.names).1 ∧
      f.apart.boundNames.Nodup ∧
      ∀ x ∈ f.apart.boundNames, x ∉ f.names ∧ x ∉ f.apart.free ∧ x ∉ f.apart.functions := by
  have minted := f.mintVariables_boundNames [] f.names
  have rectified := f.bindersApart_apart.rectified
  refine ⟨apart?_of_foreignValues_eq_nil, ?_, rectified.nodup, ?_⟩
  · exact (congrArg Prod.fst minted).symm
  · intro x bound
    have new : x ∉ f.names :=
      ((f.renameApart_spec [] f.names (Covers.of_names f)).minted x bound).2
    refine ⟨new, rectified.inside x bound, fun function => new ?_⟩
    rw [functions_apart] at function
    exact f.functions_subset_names function

/-- Four quantifiers whose variables all give the stem `x`. One has no letters in its name, and two
are the same. -/
theorem boundNames_apart_stems :
    ∃ g, (Formula.and
        (.quant .all "x" (.and (.atom (.pred "P" [.sym "x"]))
          (.quant .ex "x_1" (.atom (.pred "R" [.sym "x_1", .app "f" [.sym "x"]])))))
        (.or (.quant .ex "_7" (.atom (.pred "R" [.sym "_7", .sym "x2"])))
          (.quant .all "x" (.atom (.pred "P" [.sym "x"]))))).apart? = .ok g ∧
      g.boundNames = ["x1", "x3", "x4", "x5"] := by
  refine ⟨_, (boundNames_apart _).1 rfl, ?_⟩
  rw [(boundNames_apart _).2.1]
  decide +kernel

end Clausal.Formula
