import Clausal.Prenex
import Clausal.Proofs.Semantics.Apart
import Clausal.Proofs.Semantics.Polarity

/-!
# Prenex form keeps the meaning

Pulling the quantifiers of a negation normal form lists them in the order of
reading and leaves the formula without them (`Formula.pull_of_isNNF`). A
quantifier may be pulled over another part of the formula if its variable is not
free there, so pulling keeps the truth value of a rectified formula
(`Formula.holds_quantify_bare`).
-/

universe u

namespace Clausal

namespace Formula

def binders : Formula → Prefix
  | .atom _ => []
  | .neg f => f.binders
  | .binary _ f g => f.binders ++ g.binders
  | .quant q x f => ⟨q, x⟩ :: f.binders

/-- A formula without its quantifiers. -/
def bare : Formula → Formula
  | .atom a => .atom a
  | .neg f => .neg f.bare
  | .binary c f g => .binary c f.bare g.bare
  | .quant _ _ f => f.bare

/-- The quantifiers that are pulled are those of the formula. -/
theorem map_name_binders (f : Formula) : f.binders.map Binder.name = f.boundNames := by
  induction f with
  | atom a => rfl
  | neg f ih => exact ih
  | binary c f g ihf ihg => rw [binders, boundNames, List.map_append, ihf, ihg]
  | quant q x f ih => rw [binders, boundNames, List.map_cons, ih]

/-- Nothing is bound without quantifiers. -/
theorem boundNames_bare (f : Formula) : f.bare.boundNames = [] := by
  induction f with
  | atom a => rfl
  | neg f ih => exact ih
  | binary c f g ihf ihg => rw [bare, boundNames, ihf, ihg, List.append_nil]
  | quant q x f ih => exact ih

/-- The atoms stay when the quantifiers are taken away. -/
theorem atoms_bare (f : Formula) : f.bare.atoms = f.atoms := by
  induction f with
  | atom a => rfl
  | neg f ih => exact ih
  | binary c f g ihf ihg => rw [bare, atoms, atoms, ihf, ihg]
  | quant q x f ih => exact ih

/-- Without its quantifiers a negation normal form is one still. -/
theorem IsNNF.bare {f : Formula} (normal : f.IsNNF) : f.bare.IsNNF := by
  induction f, normal using IsNNF.induction with
  | atom a => trivial
  | literal a => trivial
  | junction j f g left right ihf ihg => exact ⟨ihf, ihg⟩
  | quant q x f scope ih => exact ih

/-- Without the quantifiers the bound variables may become free. -/
theorem mem_free_bare (f : Formula) {y : String} (member : y ∈ f.bare.free) :
    y ∈ f.free ∨ y ∈ f.boundNames := by
  induction f with
  | atom a => exact .inl member
  | neg f ih => exact ih member
  | binary c f g ihf ihg =>
      rcases List.mem_append.mp member with first | second
      · exact (ihf first).imp (List.mem_append_left _) (List.mem_append_left _)
      · exact (ihg second).imp (List.mem_append_right _) (List.mem_append_right _)
  | quant q x f ih =>
      by_cases same : y = x
      · exact .inr (same ▸ List.mem_cons_self)
      · exact (ih member).imp (fun free => mem_free_quant.mpr ⟨free, same⟩)
          (List.mem_cons_of_mem x)

/-- Nothing of a negation normal form is left to the other passes when its quantifiers
are pulled. -/
theorem pull_of_isNNF (other : Formula → Prefix × Formula) {f : Formula} (normal : f.IsNNF) :
    f.pull other = (f.binders, f.bare) := by
  induction f, normal using IsNNF.induction with
  | atom a => rfl
  | literal a => rfl
  | junction j f g left right ihf ihg =>
      rw [pull, ihf, ihg]
      rfl
  | quant q x f scope ih =>
      rw [pull, ih]
      rfl

/-- Of a negation normal form the quantifiers are pulled out and nothing else changes. -/
theorem prenex_of_isNNF {f : Formula} (normal : f.IsNNF) : f.prenex = (f.binders, f.bare) :=
  pull_of_isNNF _ normal

theorem quantify_append (f : Formula) (p r : Prefix) :
    f.quantify (p ++ r) = (f.quantify r).quantify p := by
  rw [quantify, quantify, quantify, List.foldr_append]

/-- A prefix binds its variables in front of all others. -/
theorem boundNames_quantify (f : Formula) (p : Prefix) :
    (f.quantify p).boundNames = p.map Binder.name ++ f.boundNames := by
  induction p with
  | nil => rfl
  | cons b p ih => rw [quantify_cons, boundNames, ih, List.map_cons, List.cons_append]

/-- The variables of a prefix are names of the formula. -/
theorem names_quantify (f : Formula) (p : Prefix) :
    (f.quantify p).names = p.map Binder.name ++ f.names := by
  induction p with
  | nil => rfl
  | cons b p ih => rw [quantify_cons, names, ih, List.map_cons, List.cons_append]

/-- A prefix binds its variables and nothing else. -/
theorem mem_free_quantify {f : Formula} {p : Prefix} {y : String} :
    y ∈ (f.quantify p).free ↔ y ∈ f.free ∧ y ∉ p.map Binder.name := by
  induction p with
  | nil => simp only [quantify_nil, List.map_nil, List.not_mem_nil, not_false_eq_true, and_true]
  | cons b p ih =>
      rw [quantify_cons, mem_free_quant, ih, List.map_cons, List.mem_cons, not_or, and_assoc,
        and_comm (a := y ∉ p.map Binder.name)]

variable {D : Type u} {M : Structure D} {v : Assignment D}

/-- Formulas with the same meaning have the same meaning behind a prefix. -/
theorem holds_quantify_congr {f g : Formula} (p : Prefix)
    (same : ∀ w : Assignment D, f.Holds M w ↔ g.Holds M w) :
    (f.quantify p).Holds M v ↔ (g.quantify p).Holds M v := by
  induction p generalizing v with
  | nil => exact same v
  | cons b p ih => exact b.quantifier.holds_congr fun d => ih

/-- A prefix may be moved out of the left part of a junction if its variables are not
free in the right part. -/
theorem holds_quantify_junction_left (j : Junction) (f g : Formula) (p : Prefix)
    (absent : ∀ b ∈ p, b.name ∉ g.free) :
    ((junction j f g).quantify p).Holds M v ↔ (junction j (f.quantify p) g).Holds M v := by
  induction p generalizing v with
  | nil => exact Iff.rfl
  | cons b p ih =>
      have nonempty : Nonempty D := ⟨v b.name⟩
      have inner (d : D) : ((junction j f g).quantify p).Holds M (Function.update v b.name d) ↔
          j.Holds ((f.quantify p).Holds M (Function.update v b.name d)) (g.Holds M v) := by
        rw [ih fun c member => absent c (List.mem_cons_of_mem b member)]
        exact j.holds_congr Iff.rfl (holds_update_of_not_mem_free (absent b List.mem_cons_self) d)
      exact (b.quantifier.holds_congr inner).trans (b.quantifier.holds_junction_left j _ _)

theorem holds_quantify_junction_right (j : Junction) (f g : Formula) (p : Prefix)
    (absent : ∀ b ∈ p, b.name ∉ f.free) :
    ((junction j f g).quantify p).Holds M v ↔ (junction j f (g.quantify p)).Holds M v := by
  induction p generalizing v with
  | nil => exact Iff.rfl
  | cons b p ih =>
      have nonempty : Nonempty D := ⟨v b.name⟩
      have inner (d : D) : ((junction j f g).quantify p).Holds M (Function.update v b.name d) ↔
          j.Holds (f.Holds M v) ((g.quantify p).Holds M (Function.update v b.name d)) := by
        rw [ih fun c member => absent c (List.mem_cons_of_mem b member)]
        exact j.holds_congr (holds_update_of_not_mem_free (absent b List.mem_cons_self) d) Iff.rfl
      exact (b.quantifier.holds_congr inner).trans (b.quantifier.holds_junction_right j _ _)

/-- The quantifiers of a negation normal form may stand in front of it, if it is
rectified. -/
theorem holds_quantify_bare {f : Formula} (normal : f.IsNNF) (rectified : f.Rectified) :
    (f.bare.quantify f.binders).Holds M v ↔ f.Holds M v := by
  induction f, normal using IsNNF.induction generalizing v with
  | atom a => exact Iff.rfl
  | literal a => exact Iff.rfl
  | junction j f g left right ihf ihg =>
      have rightAbsent : ∀ b ∈ g.binders, b.name ∉ f.bare.free := by
        intro b member inside
        have bound : b.name ∈ g.boundNames := g.map_name_binders ▸ List.mem_map_of_mem member
        obtain ⟨unbound, unfree⟩ := rectified.right_absent b.name bound
        exact (f.mem_free_bare inside).elim unfree unbound
      have leftAbsent : ∀ b ∈ f.binders, b.name ∉ (g.bare.quantify g.binders).free := by
        intro b member inside
        have bound : b.name ∈ f.boundNames := f.map_name_binders ▸ List.mem_map_of_mem member
        rw [mem_free_quantify, map_name_binders] at inside
        obtain ⟨free, unbound⟩ := inside
        exact (g.mem_free_bare free).elim (rectified.left_absent b.name bound).2 unbound
      rw [bare, binders, quantify_append]
      calc (((junction j f.bare g.bare).quantify g.binders).quantify f.binders).Holds M v
        _ ↔ ((junction j f.bare (g.bare.quantify g.binders)).quantify f.binders).Holds M v :=
            holds_quantify_congr _ fun w => holds_quantify_junction_right j _ _ _ rightAbsent
        _ ↔ (junction j (f.bare.quantify f.binders) (g.bare.quantify g.binders)).Holds M v :=
            holds_quantify_junction_left j _ _ _ leftAbsent
        _ ↔ (junction j f g).Holds M v := j.holds_congr (ihf rectified.left) (ihg rectified.right)
  | quant q x f scope ih => exact q.holds_congr fun d => ih rectified.scope

/-- Renaming keeps the shape of a negation normal form. -/
theorem isNNF_renameApart {f : Formula} (normal : f.IsNNF) (env : Substitution)
    (used : List String) : (f.renameApart env used).1.IsNNF := by
  induction f, normal using IsNNF.induction generalizing env used with
  | atom a => trivial
  | literal a => trivial
  | junction j f g left right ihf ihg => exact ⟨ihf env used, ihg env _⟩
  | quant q x f scope ih => exact ih _ _

/-- Renaming apart keeps the shape of a negation normal form. -/
theorem isNNF_apart {f : Formula} (normal : f.IsNNF) : f.apart.IsNNF :=
  isNNF_renameApart normal [] f.names

end Formula

end Clausal
