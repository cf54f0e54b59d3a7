import Clausal.Proofs.RoundTrip
import Clausal.Proofs.Stages

/-!
# Normal forms of a text

The limit on the nesting changes nothing but that some texts are refused as too deep
(`NormalForms.readFormula_settles`), and no text is too deep for all limits. Every text that can be
read has all its normal forms, unless it is too deep (`NormalForms.exists_comesTo`). The forms up
to the prenex ones mean what the formula means (`NormalForms.equivalent_of_parse`), and the clauses
are satisfiable exactly if it is, in the strong sense that only the witnesses have to be
interpreted anew (`NormalForms.clauses_of_parse`).
-/

universe u

namespace Clausal

namespace NormalForms

/-- A formula that is too deep is refused, whatever is logged. -/
theorem refuseDeep_settles {α : Type} :
    (refuseDeep : Logged Failure α).Settles (.error .tooDeep) :=
  .after_note (Logged.settles_throw _)

/-- A text is too deep for a limit if one of its tokens is, or the formula that it spells. -/
def TooDeep (limit : Nat) (text : String) : Prop :=
  ∃ s, scan text = .ok s ∧ ((splitAtDepth limit s.tokens).2 ≠ [] ∨
    ∃ f, Formula.parse text = .ok f ∧ limit < f.nesting)

/-- A limit changes nothing but that texts that are too deep are refused. -/
def ReadsUnder (limit : Nat) (text : String) : Prop :=
  ((readFormula limit text).Settles ((Formula.parse text).mapError .unreadable) ∧
      ∀ f, Formula.parse text = .ok f → ¬TooDeep limit text) ∨
    TooDeep limit text ∧ (readFormula limit text).Settles (.error .tooDeep)

/-- No text that can be read is too deep for every limit. -/
theorem exists_limit {text : String} {f : Formula} (read : Formula.parse text = .ok f) :
    ∃ bound, ∀ limit ≥ bound, ¬TooDeep limit text := by
  obtain ⟨s, scanned, _⟩ := Formula.parse_eq_ok_iff.mp read
  refine ⟨max s.tokens.length f.nesting, fun limit room => ?_⟩
  rintro ⟨_, same, deep⟩
  obtain rfl := Except.ok.inj (scanned.symm.trans same)
  rcases deep with cut | ⟨g, readToo, beyond⟩
  · exact cut (splitAtDepth_snd_eq_nil ((le_max_left _ _).trans room))
  · obtain rfl := Except.ok.inj (read.symm.trans readToo)
    exact absurd beyond (not_lt.mpr ((le_max_right _ _).trans room))

section

variable {limit : Nat} {text : String} {s : Scanned}

/-- If no token is too deep the whole text is read, and its formula may be too deep. -/
theorem readFormula_settles_of_shallow (scanned : scan text = .ok s)
    (shallow : (splitAtDepth limit s.tokens).2 = []) :
    ReadsUnder limit text := by
  have split : splitAtDepth limit s.tokens = (s.tokens, []) :=
    Prod.ext (splitAtDepth_fst_eq_self shallow) shallow
  have read := Formula.parse_of_scan scanned
  rw [ReadsUnder, readFormula, scanned]
  suffices settles : _ ∧ _ ∨ _ ∧ _ from
    settles.imp (And.imp_left (.after_ok rfl)) (And.imp_right (.after_ok rfl))
  rw [split]
  dsimp only
  cases outcome : Reader.complete s.tokens with
  | error r =>
      rw [read, outcome]
      exact .inl ⟨Logged.settles_throw _, nofun⟩
  | ok f =>
      rw [outcome] at read
      have beyond_iff :
          (!([] : List Token).isEmpty || decide (f.nesting > limit)) = true ↔
            limit < f.nesting := by
        simp
      dsimp only
      by_cases beyond : limit < f.nesting
      · rw [if_pos (beyond_iff.mpr beyond)]
        exact .inr ⟨⟨s, scanned, .inr ⟨f, read, beyond⟩⟩, refuseDeep_settles⟩
      · rw [if_neg (mt beyond_iff.mp beyond), read]
        refine .inl ⟨Logged.settles_pure f, fun _ _ => ?_⟩
        rintro ⟨_, same, deep⟩
        obtain rfl := Except.ok.inj (scanned.symm.trans same)
        rcases deep with cut | ⟨g, readToo, nested⟩
        · exact cut shallow
        · obtain rfl := Except.ok.inj (read.symm.trans readToo)
          exact beyond nested

/-- If a token is too deep, only a refusal of a token before it counts. That is the error of
the whole text. -/
theorem readFormula_settles_of_deep (scanned : scan text = .ok s)
    (cut : (splitAtDepth limit s.tokens).2 ≠ []) :
    ReadsUnder limit text := by
  have read := Formula.parse_of_scan scanned
  have all := append_splitAtDepth limit s.tokens
  have deep : TooDeep limit text := ⟨s, scanned, .inl cut⟩
  rw [ReadsUnder, readFormula, scanned]
  suffices settles : _ ∧ _ ∨ _ ∧ _ from
    settles.imp (And.imp_left (.after_ok rfl)) (And.imp_right (.after_ok rfl))
  generalize splitAtDepth limit s.tokens = parts at all cut ⊢
  obtain ⟨shallow, rest⟩ := parts
  obtain ⟨t, rest, rfl⟩ := List.exists_cons_of_ne_nil cut
  dsimp only at all ⊢
  cases outcome : Reader.complete shallow with
  | ok g => exact .inr ⟨deep, refuseDeep_settles⟩
  | error r =>
      obtain ⟨wanted, found⟩ := r
      cases found with
      | none => exact .inr ⟨deep, refuseDeep_settles⟩
      | some t' =>
          have whole := Reader.complete_append_refused outcome (t :: rest)
          rw [all] at whole
          rw [read, whole]
          exact .inl ⟨Logged.settles_throw _, nofun⟩

end

/-- A text is read as it is without a limit, unless it is too deep for the limit. -/
theorem readFormula_settles (limit : Nat) (text : String) : ReadsUnder limit text := by
  cases scanned : scan text with
  | error e =>
      refine .inl ?_
      rw [Formula.parse_of_scan_error scanned, readFormula, scanned]
      exact ⟨(Logged.settles_throw _).bind_error _, nofun⟩
  | ok s =>
      by_cases shallow : (splitAtDepth limit s.tokens).2 = []
      · exact readFormula_settles_of_shallow scanned shallow
      · exact readFormula_settles_of_deep scanned shallow

/-- The forms of a text that can be read. They are what is computed for the formula, and
for the text unless it is too deep; no other failure is possible. -/
theorem exists_forms {text : String} {f : Formula} (read : Formula.parse text = .ok f) :
    ∃ r : NormalForms, r.given = f ∧ r.Staged ∧ (ofFormula f).Settles (.ok r) ∧
      ∀ limit, ((ofText limit text).Settles (.ok r) ∧ ¬TooDeep limit text) ∨
        TooDeep limit text ∧ (ofText limit text).Settles (.error .tooDeep) := by
  obtain ⟨r, rfl, staged⟩ := exists_staged f
  have settles := staged.settles (Formula.spellable_of_parse read).foreignValues_eq_nil
  refine ⟨r, rfl, staged, settles, fun limit => ?_⟩
  rcases readFormula_settles limit text with ⟨found, shallow⟩ | ⟨deep, refused⟩
  · rw [read] at found
    exact .inl ⟨found.bind settles, shallow _ read⟩
  · exact .inr ⟨deep, refused.bind_error _⟩

/-- The forms that a text comes to. They are computed for its formula, and the run on the text
returns them at every level of the log, unless the text is too deep for the limit, which is so for
small limits only. -/
structure ComesTo (text : String) (r : NormalForms) : Prop where
  computed : ∀ threshold, ((ofFormula r.given).runWith threshold).1 = .ok r
  returned : ∀ limit, ¬TooDeep limit text →
    ∀ threshold, ((ofText limit text).runWith threshold).1 = .ok r
  refused : ∀ limit, TooDeep limit text →
    ∀ threshold, ((ofText limit text).runWith threshold).1 = .error .tooDeep
  bounded : ∃ bound, ∀ limit ≥ bound, ¬TooDeep limit text

/-- Some limit lets the run return the forms. -/
theorem ComesTo.exists_returned {text : String} {r : NormalForms} (run : ComesTo text r) :
    ∃ limit, ∀ threshold, ((ofText limit text).runWith threshold).1 = .ok r := by
  obtain ⟨bound, shallow⟩ := run.bounded
  exact ⟨bound, run.returned bound (shallow bound le_rfl)⟩

/-- Every text that can be read comes to all forms of its formula. -/
theorem exists_comesTo {text : String} {f : Formula} (read : Formula.parse text = .ok f) :
    ∃ r : NormalForms, r.given = f ∧ r.Staged ∧ ComesTo text r := by
  obtain ⟨r, rfl, staged, settles, outcome⟩ := exists_forms read
  refine ⟨r, rfl, staged, settles.outcome_runWith, fun limit shallow => ?_, fun limit deep => ?_,
    exists_limit read⟩
  · rcases outcome limit with ⟨found, _⟩ | ⟨deep, _⟩
    · exact found.outcome_runWith
    · exact absurd deep shallow
  · rcases outcome limit with ⟨_, shallow⟩ | ⟨_, refused⟩
    · exact absurd deep shallow
    · exact refused.outcome_runWith

section

variable {D : Type u} {M : Structure D} {v : Assignment D} {r : NormalForms}

/-- The form without arrows has the meaning of the given formula. -/
theorem Staged.holds_arrowless (staged : r.Staged) : r.arrowless.Holds M v ↔ r.given.Holds M v := by
  rw [staged.arrowless]
  exact Formula.holds_withoutArrows _

/-- The negation normal form has the meaning of the given formula. -/
theorem Staged.holds_nnf (staged : r.Staged) : r.nnf.Holds M v ↔ r.given.Holds M v := by
  rw [staged.nnf]
  exact (Formula.holds_nnf_false _).trans staged.holds_arrowless

/-- The renamed form has the meaning of the given formula. -/
theorem Staged.holds_apart (staged : r.Staged) : r.apart.Holds M v ↔ r.given.Holds M v := by
  rw [staged.apart]
  exact (Formula.holds_apart _).trans staged.holds_nnf

/-- The quantifiers can be moved to the front because every one of them binds a variable of
its own. -/
theorem Staged.holds_prenex (staged : r.Staged) :
    (r.matrix.quantify r.binders).Holds M v ↔ r.given.Holds M v := by
  have rectified : r.apart.Rectified := by
    rw [staged.apart]
    exact (Formula.bindersApart_apart _).rectified
  rw [staged.matrix_eq, staged.binders_eq]
  exact (Formula.holds_quantify_bare staged.isNNF_apart rectified).trans staged.holds_apart

/-- The conjunctive form behind its prefix has the meaning of the given formula. -/
theorem Staged.holds_pcnf (staged : r.Staged) : r.pcnf.Holds M v ↔ r.given.Holds M v :=
  (Formula.holds_quantify_congr _ fun _ =>
    Formula.holds_normalForm staged.isLiteralTree_matrix staged.cnf).trans staged.holds_prenex

/-- The disjunctive form behind its prefix has the meaning of the given formula. -/
theorem Staged.holds_pdnf (staged : r.Staged) : r.pdnf.Holds M v ↔ r.given.Holds M v :=
  (Formula.holds_quantify_congr _ fun _ =>
    Formula.holds_normalForm staged.isLiteralTree_matrix staged.dnf).trans staged.holds_prenex

/-- The clauses say what the Skolem form says. -/
theorem Staged.clausesHold_iff (staged : r.Staged) :
    ClausesHold M v r.clauses ↔ r.skolem.matrix.Holds M v :=
  (Formula.holds_iff_of_clauses _ staged.clauses).symm.trans
    (Formula.holds_normalForm staged.isLiteralTree_skolem staged.skolemCnf)

end

/-- Every form of a text up to the prenex normal forms is equivalent to its formula. -/
theorem equivalent_of_parse {text : String} {f : Formula} (read : Formula.parse text = .ok f) :
    ∃ r : NormalForms, r.given = f ∧ ComesTo text r ∧
      ∀ form ∈ [r.arrowless, r.nnf, r.apart, r.matrix.quantify r.binders, r.pcnf, r.pdnf],
        Formula.Equivalent.{u} form r.given := by
  obtain ⟨r, same, staged, run⟩ := exists_comesTo read
  refine ⟨r, same, run, fun form member D M v => ?_⟩
  simp only [List.mem_cons, List.not_mem_nil, or_false] at member
  rcases member with rfl | rfl | rfl | rfl | rfl | rfl
  · exact staged.holds_arrowless
  · exact staged.holds_nnf
  · exact staged.holds_apart
  · exact staged.holds_prenex
  · exact staged.holds_pcnf
  · exact staged.holds_pdnf

/-- An equivalence of quantified formulas, whose quantifiers are doubled on the way. -/
theorem equivalent_of_parse_doubled :
    Formula.parse "∀x P(x) ↔ ∃x P(x)" =
        .ok (.binary .iff (.quant .all "x" (.atom (.pred "P" [.sym "x"])))
          (.quant .ex "x" (.atom (.pred "P" [.sym "x"])))) ∧
      ∃ r : NormalForms,
        (∃ limit, ∀ threshold,
          ((ofText limit "∀x P(x) ↔ ∃x P(x)").runWith threshold).1 = .ok r) ∧
        r.given = .binary .iff (.quant .all "x" (.atom (.pred "P" [.sym "x"])))
          (.quant .ex "x" (.atom (.pred "P" [.sym "x"]))) ∧
        Formula.Equivalent.{0} r.pcnf r.given := by
  have read : Formula.parse "∀x P(x) ↔ ∃x P(x)" =
      .ok (.binary .iff (.quant .all "x" (.atom (.pred "P" [.sym "x"])))
        (.quant .ex "x" (.atom (.pred "P" [.sym "x"])))) := by
    decide +kernel
  obtain ⟨r, same, run, equivalent⟩ := equivalent_of_parse.{0} read
  exact ⟨read, r, run.exists_returned, same, equivalent r.pcnf (by simp)⟩

/-- If the clauses of a text are true for all values of the universal variables, its
formula is true; and if the formula is true, the witnesses alone can be interpreted such
that the clauses are true for all values of the universal variables. -/
theorem clauses_of_parse {text : String} {f : Formula} (read : Formula.parse text = .ok f) :
    ∃ r : NormalForms, r.given = f ∧ ComesTo text r ∧
      ∀ (D : Type u) (M : Structure D) (v : Assignment D),
        ((∀ w, VariesOn r.skolem.universals v w → ClausesHold M w r.clauses) →
          r.given.Holds M v) ∧
        (r.given.Holds M v → ∃ (N : Structure D) (u : Assignment D),
          AgreesOff r.skolem.mapping M v N u ∧
            ∀ w, VariesOn r.skolem.universals u w → ClausesHold N w r.clauses) := by
  obtain ⟨r, same, staged, run⟩ := exists_comesTo read
  refine ⟨r, same, run, fun D M v => ⟨?_, ?_⟩⟩
  · intro holds
    rw [← staged.holds_prenex]
    refine holds_of_skolemize staged.nodup_binders
      staged.isLiteralTree_matrix.boundNames_eq_nil fun w varies => ?_
    rw [← staged.skolem] at varies ⊢
    exact staged.clausesHold_iff.mp (holds w varies)
  · intro holds
    obtain ⟨N, u, agrees, truth⟩ := exists_holds_skolemize staged.nodup_binders
      staged.isLiteralTree_matrix.boundNames_eq_nil (staged.holds_prenex.mpr holds)
    rw [← staged.skolem] at agrees truth
    exact ⟨N, u, agrees, fun w varies => staged.clausesHold_iff.mpr (truth w varies)⟩

/-- Over the natural numbers with their order, a greater number is a witness for every
number, so the clauses of the statement that there is one can be made true. -/
theorem clauses_of_parse_greater :
    Formula.parse "∀x ∃y L(x, y)" =
        .ok (.quant .all "x" (.quant .ex "y" (.atom (.pred "L" [.sym "x", .sym "y"])))) ∧
      ∃ (r : NormalForms) (N : Structure Nat) (u : Assignment Nat),
        (∃ limit, ∀ threshold,
          ((ofText limit "∀x ∃y L(x, y)").runWith threshold).1 = .ok r) ∧
        ∀ w, VariesOn r.skolem.universals u w → ClausesHold N w r.clauses := by
  have read : Formula.parse "∀x ∃y L(x, y)" =
      .ok (.quant .all "x" (.quant .ex "y" (.atom (.pred "L" [.sym "x", .sym "y"])))) := by
    decide +kernel
  obtain ⟨r, same, run, meaning⟩ := clauses_of_parse.{0} read
  let M : Structure Nat := ⟨fun _ _ => 0, fun _ ds => ds.Pairwise (· < ·), fun _ => 0⟩
  have true_ : r.given.Holds M fun _ => 0 := by
    rw [same]
    intro n
    refine ⟨n + 1, ?_⟩
    simp [M, Formula.Holds, Atom.Holds, Term.value, Function.update]
  obtain ⟨N, u, _, truth⟩ := (meaning Nat M fun _ => 0).2 true_
  exact ⟨read, r, N, u, run.exists_returned, truth⟩

end NormalForms

end Clausal
