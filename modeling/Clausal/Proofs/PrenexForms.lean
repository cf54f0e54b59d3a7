import Clausal.Proofs.Semantics.Prenex

/-!
# Prenex forms of arbitrary formulas

Pulling quantifiers brings parts of a formula into negation normal form as it meets them
(`Formula.Pulls`). It ends on every formula, and the prenex form is that of the negation normal form
of the whole (`Formula.prenex_spec`).

Of a rectified formula one expects an equivalent prenex form, but the equivalences stand in the way:
their sides are doubled on the way to negation normal form, quantifiers included, and then the two
quantifiers of one variable are pulled over each other. So the prenex form of a rectified formula
binds different variables exactly if no quantifier stands below an equivalence, and then it is
equivalent to the formula (`Formula.prenex_of_rectified`). Otherwise it need not be
(`Formula.not_equivalent_prenex_iff`).
-/

universe u

namespace Clausal.Formula

/-- No quantifier stands below an equivalence. -/
def IffsUnquantified : Formula → Prop
  | .atom _ => True
  | .neg f => f.IffsUnquantified
  | .binary .iff f g => f.boundNames = [] ∧ g.boundNames = []
  | .binary _ f g => f.IffsUnquantified ∧ g.IffsUnquantified
  | .quant _ _ f => f.IffsUnquantified

/-- The quantifiers are pulled from the outside to the inside, and the result of every part is put
together from those of its operands. A negation of something else than an atom, an implication or an
equivalence is brought into negation normal form when it is met, and the recursion goes on with
that. -/
inductive Pulls : Formula → Prefix → Formula → Prop where
  | atom (a : Atom) : Pulls (.atom a) [] (.atom a)
  | literal (a : Atom) : Pulls (.neg (.atom a)) [] (.neg (.atom a))
  | neg {f m : Formula} {p : Prefix} : f.isAtomic = false → Pulls ((neg f).nnf false) p m →
      Pulls (.neg f) p m
  | junction {j : Junction} {f g m n : Formula} {p r : Prefix} : Pulls f p m → Pulls g r n →
      Pulls (junction j f g) (p ++ r) (junction j m n)
  | arrow {c : Connective} {f g m : Formula} {p : Prefix} : (∀ j, c ≠ .junction j) →
      Pulls ((binary c f g).nnf false) p m → Pulls (binary c f g) p m
  | quant {q : Quantifier} {x : String} {f m : Formula} {p : Prefix} : Pulls f p m →
      Pulls (.quant q x f) (⟨q, x⟩ :: p) m

/-- Of a negation normal form no part has to be brought into another form. -/
theorem pulls_of_isNNF {f : Formula} (normal : f.IsNNF) : Pulls f f.binders f.bare := by
  induction f, normal using IsNNF.induction with
  | atom a => exact .atom a
  | literal a => exact .literal a
  | junction j f g left right ihf ihg => exact .junction ihf ihg
  | quant q x f scope ih => exact .quant ih

/-- The recursion ends on every formula, with the quantifiers of its negation normal form and what
that form is without them. -/
theorem pulls_binders_bare (f : Formula) :
    Pulls f (f.nnf false).binders (f.nnf false).bare := by
  have normal (g : Formula) : Pulls (g.nnf false) (g.nnf false).binders (g.nnf false).bare :=
    pulls_of_isNNF (g.isNNF_nnf false)
  induction f with
  | atom a => exact .atom a
  | neg f ih =>
      cases f with
      | atom a => exact .literal a
      | neg f => exact .neg rfl (normal f.neg.neg)
      | binary c f g => exact .neg rfl (normal (binary c f g).neg)
      | quant q x f => exact .neg rfl (normal (quant q x f).neg)
  | binary c f g ihf ihg =>
      rcases c with j | _ | _
      · exact .junction ihf ihg
      · exact .arrow (fun _ => Connective.noConfusion) (normal (binary .implies f g))
      · exact .arrow (fun _ => Connective.noConfusion) (normal (binary .iff f g))
  | quant q x f ih => exact .quant ih

/-- What is met in a negation normal form needs no other pass, so both ways to pull agree there. -/
theorem pullNormal_nnf (f : Formula) : (f.nnf false).pullNormal = (f.nnf false).prenex := by
  have normal := f.isNNF_nnf false
  rw [pullNormal, pull_of_isNNF _ normal, prenex_of_isNNF normal]

/-- A negation that is no literal is pulled in negation normal form. -/
theorem prenex_neg {f : Formula} (compound : f.isAtomic = false) :
    (neg f).prenex = ((neg f).nnf false).prenex := by
  rw [← pullNormal_nnf]
  cases f with
  | atom a => cases compound
  | neg f => rfl
  | binary c f g => rfl
  | quant q x f => rfl

/-- Implications and equivalences are pulled in negation normal form. -/
theorem prenex_arrow {c : Connective} (other : ∀ j, c ≠ .junction j) (f g : Formula) :
    (binary c f g).prenex = ((binary c f g).nnf false).prenex := by
  rw [← pullNormal_nnf]
  rcases c with j | _ | _
  · exact absurd rfl (other j)
  · rfl
  · rfl

/-- The recursion has no other result than the prenex form. -/
theorem Pulls.prenex_eq {f m : Formula} {p : Prefix} (pulls : Pulls f p m) :
    f.prenex = (p, m) := by
  induction pulls with
  | atom a => rfl
  | literal a => rfl
  | neg compound _ ih => rw [prenex_neg compound, ih]
  | junction _ _ ihf ihg => rw [prenex, pull, ← prenex, ← prenex, ihf, ihg]
  | arrow other _ ih => rw [prenex_arrow other, ih]
  | quant _ ih => rw [prenex, pull, ← prenex, ih]

/-- The steps of pulling come to what the pass computes. -/
theorem pulls_iff {f m : Formula} {p : Prefix} : Pulls f p m ↔ f.prenex = (p, m) := by
  refine ⟨Pulls.prenex_eq, fun same => ?_⟩
  obtain ⟨rfl, rfl⟩ := Prod.mk.inj (same.symm.trans f.pulls_binders_bare.prenex_eq)
  exact f.pulls_binders_bare

/-- The quantifiers are pulled as if the whole formula had been brought into negation normal form
before. -/
theorem prenex_eq (f : Formula) : f.prenex = ((f.nnf false).binders, (f.nnf false).bare) :=
  f.pulls_binders_bare.prenex_eq

/-- Pulling ends on every formula, whether its variables are distinct or not, with the same result
as on its negation normal form. The prefix lists the quantifiers of that form from the outside to
the inside and from left to right, one for each variable that it binds. The matrix is that form
without its quantifiers: it has none left, it is in negation normal form and has the same atoms in
the same order. -/
theorem prenex_spec (f : Formula) :
    (∀ p m, Pulls f p m ↔ f.prenex = (p, m)) ∧
      f.prenex = (f.nnf false).prenex ∧
      f.prenex.1 = (f.nnf false).binders ∧
      f.prenex.1.map Binder.name = (f.nnf false).boundNames ∧
      f.prenex.2 = (f.nnf false).bare ∧
      f.prenex.2.boundNames = [] ∧
      f.prenex.2.IsNNF ∧
      f.prenex.2.atoms = (f.nnf false).atoms := by
  have normal : (f.nnf false).IsNNF := f.isNNF_nnf false
  have pulled : f.prenex = ((f.nnf false).binders, (f.nnf false).bare) := f.prenex_eq
  have same : f.prenex = (f.nnf false).prenex := pulled.trans (prenex_of_isNNF normal).symm
  refine ⟨fun p m => pulls_iff, same, ?_⟩
  rw [pulled]
  exact ⟨rfl, map_name_binders _, rfl, boundNames_bare _, normal.bare, atoms_bare _⟩

/-- The quantifier below the equivalence is pulled twice, once under the negation that the
conversion brings. The variable of the other quantifier is the same. -/
example : (Formula.and (.quant .all "x" (.atom (.pred "P" [.sym "x"])))
      (.binary .iff (.quant .all "x" (.atom (.pred "Q" [.sym "x"])))
        (.atom (.pred "R" [])))).prenex =
    ([⟨.all, "x"⟩, ⟨.ex, "x"⟩, ⟨.all, "x"⟩],
      .and (.atom (.pred "P" [.sym "x"]))
        (.and (.or (.neg (.atom (.pred "Q" [.sym "x"]))) (.atom (.pred "R" [])))
          (.or (.neg (.atom (.pred "R" []))) (.atom (.pred "Q" [.sym "x"]))))) := rfl

/-- If the negation normal form of a formula is rectified, the prenex form is equivalent to the
formula. -/
theorem equivalent_prenex_of_rectified_nnf {f : Formula} (rectified : (f.nnf false).Rectified) :
    Equivalent.{u} (f.prenex.2.quantify f.prenex.1) f := by
  intro D M v
  rw [prenex_eq]
  exact (holds_quantify_bare (f.isNNF_nnf false) rectified).trans f.holds_nnf_false

/-- Without quantifiers below equivalences none is doubled. -/
theorem IffsUnquantified.boundNames_withoutArrows {f : Formula} (plain : f.IffsUnquantified) :
    f.withoutArrows.boundNames = f.boundNames := by
  induction f with
  | atom a => rfl
  | neg f ih => exact ih plain
  | binary c f g ihf ihg =>
      rcases c with j | _ | _
      · rw [withoutArrows, boundNames, boundNames, ihf plain.1, ihg plain.2]
      · rw [withoutArrows, boundNames, boundNames, boundNames, ihf plain.1, ihg plain.2]
      · obtain ⟨left, right⟩ := plain
        have left' := f.boundNames_withoutArrows_eq_nil_iff.mpr left
        have right' := g.boundNames_withoutArrows_eq_nil_iff.mpr right
        simp only [withoutArrows, boundNames, left', right', left, right, List.append_nil]
  | quant q x f ih => rw [withoutArrows, boundNames, boundNames, ih plain]

/-- A quantifier below an equivalence is listed twice. -/
theorem iffsUnquantified_of_nodup {f : Formula} (nodup : f.withoutArrows.boundNames.Nodup) :
    f.IffsUnquantified := by
  induction f with
  | atom a => trivial
  | neg f ih => exact ih nodup
  | binary c f g ihf ihg =>
      rcases c with j | _ | _
      · obtain ⟨left, right, _⟩ := List.nodup_append.mp nodup
        exact ⟨ihf left, ihg right⟩
      · obtain ⟨left, right, _⟩ := List.nodup_append.mp nodup
        exact ⟨ihf left, ihg right⟩
      · obtain ⟨_, _, apart⟩ := List.nodup_append.mp nodup
        constructor
        · refine f.boundNames_withoutArrows_eq_nil_iff.mp ?_
          refine List.eq_nil_iff_forall_not_mem.mpr fun x bound => ?_
          exact apart x (List.mem_append_left _ bound) x (List.mem_append_right _ bound) rfl
        · refine g.boundNames_withoutArrows_eq_nil_iff.mp ?_
          refine List.eq_nil_iff_forall_not_mem.mpr fun x bound => ?_
          exact apart x (List.mem_append_right _ bound) x (List.mem_append_left _ bound) rfl
  | quant q x f ih => exact ih (List.nodup_cons.mp nodup).2

/-- The negation normal form of a rectified formula is rectified if it doubles no quantifier. -/
theorem Rectified.nnf {f : Formula} (rectified : f.Rectified) (plain : f.IffsUnquantified)
    (negated : Bool) : (f.nnf negated).Rectified where
  nodup := by
    rw [boundNames_nnf, plain.boundNames_withoutArrows]
    exact rectified.nodup
  inside x bound member := by
    rw [boundNames_nnf, plain.boundNames_withoutArrows] at bound
    exact rectified.inside x bound ((f.mem_free_nnf negated x).mp member)

/-- The prenex form of a rectified formula binds different variables exactly if no quantifier
stands below an equivalence, and in that case it is equivalent to the formula. -/
theorem prenex_of_rectified {f : Formula} (rectified : f.Rectified) :
    ((f.prenex.1.map Binder.name).Nodup ↔ f.IffsUnquantified) ∧
      (f.IffsUnquantified → Equivalent.{u} (f.prenex.2.quantify f.prenex.1) f) := by
  have names : f.prenex.1.map Binder.name = f.withoutArrows.boundNames := by
    rw [prenex_eq, map_name_binders, boundNames_nnf]
  refine ⟨⟨fun nodup => ?_, fun plain => ?_⟩, fun plain => ?_⟩
  · rw [names] at nodup
    exact iffsUnquantified_of_nodup nodup
  · rw [names, plain.boundNames_withoutArrows]
    exact rectified.nodup
  · exact equivalent_prenex_of_rectified_nnf (rectified.nnf plain false)

/-- Under a negated implication the quantifiers turn round; the equivalence has none below it. One
of the variables is spelled like a function outside of its scope. -/
theorem prenex_of_rectified_negated :
    Equivalent.{0}
      (quantify
        (.and (.atom (.pred "P" [.sym "x", .app "y" [.sym "c"]]))
          (.or (.and (.atom (.pred "Q" [.sym "y"])) (.neg (.atom (.pred "R" []))))
            (.and (.atom (.pred "R" [])) (.neg (.atom (.pred "Q" [.sym "y"]))))))
        [⟨.all, "x"⟩, ⟨.ex, "y"⟩])
      (.neg (.binary .implies
        (.quant .all "x" (.atom (.pred "P" [.sym "x", .app "y" [.sym "c"]])))
        (.quant .all "y"
          (.binary .iff (.atom (.pred "Q" [.sym "y"])) (.atom (.pred "R" [])))))) := by
  have rectified : Rectified (.neg (.binary .implies
      (.quant .all "x" (.atom (.pred "P" [.sym "x", .app "y" [.sym "c"]])))
      (.quant .all "y"
        (.binary .iff (.atom (.pred "Q" [.sym "y"])) (.atom (.pred "R" [])))))) :=
    ⟨by decide, by decide⟩
  exact (prenex_of_rectified rectified).2 ⟨trivial, rfl, rfl⟩

/-- The prenex form of a rectified formula may say something else. That of `(∀x P(x)) ↔ Q` says that
`Q` agrees with all elements alike. -/
theorem not_equivalent_prenex_iff :
    ¬ ∀ f : Formula, f.Rectified → Equivalent.{0} (f.prenex.2.quantify f.prenex.1) f := by
  intro sound
  have equivalent := sound
    (.binary .iff (.quant .all "x" (.atom (.pred "P" [.sym "x"]))) (.atom (.pred "Q" [])))
    ⟨by decide, by decide⟩
  -- One of two elements has the property, and the right side is false.
  let M : Structure Bool :=
    ⟨fun _ _ => true, fun name ds => name = "P" ∧ ds = [true], fun _ => true⟩
  have given : Holds M (.binary .iff (.quant .all "x" (.atom (.pred "P" [.sym "x"])))
      (.atom (.pred "Q" []))) fun _ => true := by
    simp [M, Holds, Connective.Holds, Quantifier.Holds, Atom.Holds, Term.value]
  have pulled : Holds M (quantify
      (.and (.or (.neg (.atom (.pred "P" [.sym "x"]))) (.atom (.pred "Q" [])))
        (.or (.neg (.atom (.pred "Q" []))) (.atom (.pred "P" [.sym "x"]))))
      [⟨.ex, "x"⟩, ⟨.all, "x"⟩]) fun _ => true :=
    (equivalent Bool M fun _ => true).mpr given
  obtain ⟨_, all⟩ := pulled
  obtain ⟨refuted, _⟩ := all true
  simp [M, Holds, Connective.Holds, Junction.Holds, Atom.Holds, Term.value] at refuted

end Clausal.Formula
