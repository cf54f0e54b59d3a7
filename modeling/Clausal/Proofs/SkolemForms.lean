import Clausal.Proofs.Stages

/-!
# Skolem forms of prenex formulas

A prenex formula need not come from another form: of any prefix with distinct variables and any
matrix without quantifiers the Skolem form is sound and conservative (`skolemize_spec`).
-/

universe u

namespace Clausal

variable {p : Prefix} {matrix : Formula}

/-- A prenex formula without values from outside has a Skolem form. If that is true for all values
of its universal variables, the formula is true; and if the formula is true, the symbols that head
the witnesses, and nothing else, can be interpreted so that the Skolem form is true for all values
of its universal variables. -/
theorem skolemize_spec (distinct : (p.map Binder.name).Nodup) (free : matrix.boundNames = []) :
    (matrix.foreignValues = [] → skolemize? p matrix = .ok (skolemize p matrix)) ∧
      ∀ (D : Type u) (M : Structure D) (v : Assignment D),
        ((∀ w, VariesOn (skolemize p matrix).universals v w →
            (skolemize p matrix).matrix.Holds M w) →
          (matrix.quantify p).Holds M v) ∧
        ((matrix.quantify p).Holds M v →
          ∃ (N : Structure D) (u : Assignment D), AgreesOff (skolemize p matrix).mapping M v N u ∧
            ∀ w, VariesOn (skolemize p matrix).universals u w →
              (skolemize p matrix).matrix.Holds N w) := by
  refine ⟨skolemize?_of_foreignValues_eq_nil p, fun D M v => ⟨?_, ?_⟩⟩
  · exact holds_of_skolemize distinct free
  · exact exists_holds_skolemize distinct free

/-- Every number has a successor, which a function can stand for. The first name for a constant is
that of a predicate already. -/
theorem skolemize_spec_alternating :
    ∃ (N : Structure Nat) (u : Assignment Nat),
      AgreesOff [("a", .sym "sk_c2"), ("y", .app "sk_f1" [.sym "x"])]
        ⟨fun _ _ => 0, fun _ ds => ds = [0] ∨ ∃ n, ds = [0, n, n + 1], fun _ => 0⟩ (fun _ => 0)
        N u ∧
      ∀ w, VariesOn ["x"] u w →
        Formula.Holds N
          (.and (.atom (.pred "sk_c1" [.sym "sk_c2"]))
            (.atom (.pred "R" [.sym "sk_c2", .sym "x", .app "sk_f1" [.sym "x"]]))) w := by
  let p : Prefix := [⟨.ex, "a"⟩, ⟨.all, "x"⟩, ⟨.ex, "y"⟩]
  let matrix : Formula := .and (.atom (.pred "sk_c1" [.sym "a"]))
    (.atom (.pred "R" [.sym "a", .sym "x", .sym "y"]))
  let M : Structure Nat :=
    ⟨fun _ _ => 0, fun _ ds => ds = [0] ∨ ∃ n, ds = [0, n, n + 1], fun _ => 0⟩
  have distinct : (p.map Binder.name).Nodup := by decide
  have free : matrix.boundNames = [] := rfl
  have given : (matrix.quantify p).Holds M fun _ => 0 :=
    ⟨0, fun n => ⟨n + 1, .inl rfl, .inr ⟨n, rfl⟩⟩⟩
  exact ((skolemize_spec distinct free).2 Nat M _).2 given

end Clausal
