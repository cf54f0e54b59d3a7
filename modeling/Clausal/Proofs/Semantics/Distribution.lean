import Clausal.Distribution
import Clausal.Proofs.Semantics.Structure

/-!
# Distribution keeps the meaning

Distributing one formula over another keeps inner junctions under outer ones
(`Formula.distributed_distribute`), and it joins whatever the formulas are worth by what the inner
junction stands for, provided that the junctions stand for operations that distribute over each
other (`Formula.value_distribute`). So literals under junctions have both normal forms
(`Formula.exists_normalForm`), which are worth as much as the formula (`Formula.value_normalForm`):
they have the same truth value (`Formula.holds_normalForm`) and every property that a junction has
exactly if both of its operands have it (`Formula.normalForm_iff`).

The proofs follow what is split: the outer junctions at the top of a formula
(`Formula.induction_outer`), and for normal forms the steps in which they are made
(`Formula.Normalizes`).
-/

universe u

namespace Clausal

section

variable {α β γ ε : Type} {x : Except ε α} {y : Except ε β} {join : α → β → γ}

theorem bind_eq_ok_iff {c : γ} :
    (x >>= fun a => y >>= fun b => .ok (join a b)) = .ok c ↔
      ∃ a b, x = .ok a ∧ y = .ok b ∧ c = join a b := by
  cases x with
  | error e => simp [bind, Except.bind]
  | ok a =>
      cases y with
      | error e => simp [bind, Except.bind]
      | ok b => simp [bind, Except.bind, eq_comm]

/-- If each of them fails exactly when a search succeeds, and with what that finds, then so do both
together, and the first search comes first. -/
theorem bind_eq_error_iff {o o' : Option ε} (left : ∀ e, x = .error e ↔ o = some e)
    (right : ∀ e, y = .error e ↔ o' = some e) (e : ε) :
    (x >>= fun a => y >>= fun b => .ok (join a b)) = .error e ↔ o.or o' = some e := by
  cases x with
  | error e' =>
      obtain rfl := (left e').mp rfl
      rw [Option.some_or]
      simp [bind, Except.bind]
  | ok a =>
      obtain rfl : o = none :=
        Option.eq_none_iff_forall_ne_some.mpr fun e' found => nomatch (left e').mpr found
      rw [Option.none_or, ← right]
      cases y <;> simp [bind, Except.bind]

end

/-- One of two junctions is the other or its dual. -/
theorem Junction.eq_dual_of_ne {j k : Junction} (other : j ≠ k) : j = k.dual := by
  cases j with
  | and =>
      cases k with
      | and => exact absurd rfl other
      | or => rfl
  | or =>
      cases k with
      | and => rfl
      | or => exact absurd rfl other

/-- What the two junctions stand for distributes over each other from both sides. -/
structure Distributive {α : Type u} (op : Junction → α → α → α) : Prop where
  left : ∀ j p q r, op j (op j.dual p r) (op j.dual q r) = op j.dual (op j p q) r
  right : ∀ j p q r, op j (op j.dual p q) (op j.dual p r) = op j.dual p (op j q r)

/-- The meanings of the junctions distribute over each other. -/
theorem Junction.distributive_holds : Distributive Junction.Holds where
  left j p q r := by
    cases j with
    | and => exact propext and_or_right.symm
    | or => exact propext or_and_right.symm
  right j p q r := by
    cases j with
    | and => exact propext or_and_left.symm
    | or => exact propext and_or_left.symm

/-- Conjunction of propositions distributes over itself. -/
theorem distributive_and : Distributive fun _ => And where
  left _ _ _ _ := propext and_and_right.symm
  right _ _ _ _ := propext and_and_left.symm

theorem distributive_or : Distributive fun _ => Or where
  left _ _ _ _ := propext or_or_distrib_right.symm
  right _ _ _ _ := propext or_or_distrib_left.symm

namespace Formula

/-- Induction over literals under junctions. -/
theorem IsLiteralTree.induction {motive : (f : Formula) → f.IsLiteralTree → Prop}
    (atom : ∀ a, motive (.atom a) trivial)
    (literal : ∀ a, motive (.neg (.atom a)) trivial)
    (junction : ∀ j f g (left : f.IsLiteralTree) (right : g.IsLiteralTree), motive f left →
      motive g right → motive (junction j f g) ⟨left, right⟩) :
    ∀ (f : Formula) (tree : f.IsLiteralTree), motive f tree
  | .atom a, _ => atom a
  | .neg (.atom a), _ => literal a
  | .binary (.junction j) f g, ⟨left, right⟩ =>
      junction j f g left right (IsLiteralTree.induction atom literal junction f left)
        (IsLiteralTree.induction atom literal junction g right)

/-- Literals under a single junction. -/
inductive Joined (j : Junction) : Formula → Prop where
  | atom (a : Atom) : Joined j (.atom a)
  | literal (a : Atom) : Joined j (.neg (.atom a))
  | join {f g : Formula} : Joined j f → Joined j g → Joined j (junction j f g)

/-- Literals under inner junctions under outer junctions. -/
inductive Distributed (outer : Junction) : Formula → Prop where
  | inner {f : Formula} : Joined outer.dual f → Distributed outer f
  | outer {f g : Formula} : Distributed outer f → Distributed outer g →
      Distributed outer (junction outer f g)

/-- The formula is no outer junction, so it is not split when formulas are distributed. -/
def Whole (outer : Junction) (f : Formula) : Prop := ∀ a b, f ≠ junction outer a b

/-- Induction over the outer junctions at the top of a formula. -/
theorem induction_outer {motive : Formula → Prop} (outer : Junction)
    (split : ∀ a b, motive a → motive b → motive (junction outer a b))
    (whole : ∀ f, f.Whole outer → motive f) (f : Formula) : motive f := by
  induction f with
  | atom a => exact whole _ fun _ _ same => nomatch same
  | neg f ih => exact whole _ fun _ _ same => nomatch same
  | binary c a b iha ihb =>
      by_cases top : c = .junction outer
      · subst top
        exact split a b iha ihb
      · exact whole _ fun _ _ same => top (Formula.binary.inj same).1
  | quant q x f ih => exact whole _ fun _ _ same => nomatch same

section

variable {outer : Junction} {f g a b : Formula}

/-- On the right, distribution goes into an outer junction. -/
theorem distribute_outer (f a b : Formula) :
    distribute outer f (junction outer a b) =
      junction outer (distribute outer f a) (distribute outer f b) := by
  rw [distribute, if_pos rfl]

/-- On the left, distribution goes into an outer junction. -/
theorem distributeLeft_outer (g a b : Formula) :
    distributeLeft outer g (junction outer a b) =
      junction outer (distributeLeft outer g a) (distributeLeft outer g b) := by
  rw [distributeLeft, if_pos rfl]

/-- A right part that is no outer junction is distributed whole. -/
theorem distribute_whole (f : Formula) (right : g.Whole outer) :
    distribute outer f g = distributeLeft outer g f := by
  cases g with
  | atom a => rfl
  | neg g => rfl
  | binary c a b =>
      rcases c with j | _ | _
      · have top : j ≠ outer := fun same => right a b (same ▸ rfl)
        rw [distribute, if_neg top]
      · rfl
      · rfl
  | quant q x g => rfl

/-- A left part that is no outer junction is joined as it is. -/
theorem distributeLeft_whole (g : Formula) (left : f.Whole outer) :
    distributeLeft outer g f = junction outer.dual f g := by
  cases f with
  | atom a => rfl
  | neg f => rfl
  | binary c a b =>
      rcases c with j | _ | _
      · have top : j ≠ outer := fun same => left a b (same ▸ rfl)
        rw [distributeLeft, if_neg top]
      · rfl
      · rfl
  | quant q x f => rfl

/-- Literals with the inner junction between them are no outer junction. -/
theorem Joined.whole (joined : Joined outer.dual f) : f.Whole outer := by
  rintro a b rfl
  generalize inner : outer.dual = j at joined
  cases joined with
  | join left right => exact outer.dual_ne inner

/-- Distribution over the left part gives a distributed form. -/
theorem distributed_distributeLeft (left : Distributed outer f) (right : Joined outer.dual g) :
    Distributed outer (distributeLeft outer g f) := by
  induction left with
  | inner joined =>
      rw [distributeLeft_whole g joined.whole]
      exact .inner (.join joined right)
  | outer _ _ ihf ihg =>
      rw [distributeLeft_outer]
      exact .outer ihf ihg

/-- Distribution over both parts gives a distributed form. -/
theorem distributed_distribute (left : Distributed outer f) (right : Distributed outer g) :
    Distributed outer (distribute outer f g) := by
  induction right with
  | inner joined =>
      rw [distribute_whole f joined.whole]
      exact distributed_distributeLeft left joined
  | outer _ _ iha ihb =>
      rw [distribute_outer]
      exact .outer iha ihb

end

section

variable {α : Type u} {op : Junction → α → α → α} {value : Formula → α}
  (distributive : Distributive op)
  (joined : ∀ j f g, value (junction j f g) = op j (value f) (value g))
include distributive joined

/-- Distribution over the left part keeps every value in which the junctions distribute. -/
theorem value_distributeLeft (outer : Junction) (g f : Formula) :
    value (distributeLeft outer g f) = op outer.dual (value f) (value g) := by
  induction f using induction_outer outer with
  | split a b iha ihb =>
      rw [distributeLeft_outer, joined, iha, ihb, joined]
      exact distributive.left outer _ _ _
  | whole f whole =>
      rw [distributeLeft_whole g whole]
      exact joined _ _ _

/-- Two formulas distributed over each other are worth what the inner junction makes of them. -/
theorem value_distribute (outer : Junction) (f g : Formula) :
    value (distribute outer f g) = op outer.dual (value f) (value g) := by
  induction g using induction_outer outer with
  | split a b iha ihb =>
      rw [distribute_outer, joined, iha, ihb, joined]
      exact distributive.right outer _ _ _
  | whole g whole =>
      rw [distribute_whole f whole]
      exact value_distributeLeft distributive joined outer g f

end

/-- The normal form of two joined formulas is made of theirs. -/
theorem normalForm_junction {outer j : Junction} {f g h : Formula} :
    (junction j f g).normalForm outer = .ok h ↔
      ∃ f' g', f.normalForm outer = .ok f' ∧ g.normalForm outer = .ok g' ∧
        h = if j = outer then junction outer f' g' else distribute outer f' g' := by
  rw [normalForm]
  exact bind_eq_ok_iff

/-- Literals under junctions have a normal form. -/
theorem exists_normalForm (outer : Junction) {f : Formula} (tree : f.IsLiteralTree) :
    ∃ g, f.normalForm outer = .ok g := by
  induction f, tree using IsLiteralTree.induction with
  | atom a => exact ⟨_, rfl⟩
  | literal a => exact ⟨_, rfl⟩
  | junction j f g left right ihf ihg =>
      obtain ⟨f', foundLeft⟩ := ihf
      obtain ⟨g', foundRight⟩ := ihg
      exact ⟨_, normalForm_junction.mpr ⟨f', g', foundLeft, foundRight, rfl⟩⟩

/-- The second formula is the normal form of the first one. -/
inductive Normalizes (outer : Junction) : Formula → Formula → Prop where
  | atom (a : Atom) : Normalizes outer (.atom a) (.atom a)
  | literal (a : Atom) : Normalizes outer (.neg (.atom a)) (.neg (.atom a))
  | outer {f g f' g' : Formula} : Normalizes outer f f' → Normalizes outer g g' →
      Normalizes outer (junction outer f g) (junction outer f' g')
  | inner {f g f' g' : Formula} : Normalizes outer f f' → Normalizes outer g g' →
      Normalizes outer (junction outer.dual f g) (distribute outer f' g')

/-- A normal form that is found is built up by steps. -/
theorem normalizes_of_normalForm {outer : Junction} {f g : Formula} (tree : f.IsLiteralTree)
    (found : f.normalForm outer = .ok g) : Normalizes outer f g := by
  induction f, tree using IsLiteralTree.induction generalizing g with
  | atom a =>
      obtain rfl := Except.ok.inj found
      exact .atom a
  | literal a =>
      obtain rfl := Except.ok.inj found
      exact .literal a
  | junction j f g left right ihf ihg =>
      obtain ⟨f', g', foundLeft, foundRight, rfl⟩ := normalForm_junction.mp found
      by_cases top : j = outer
      · rw [if_pos top, top]
        exact .outer (ihf foundLeft) (ihg foundRight)
      · rw [if_neg top, Junction.eq_dual_of_ne top]
        exact .inner (ihf foundLeft) (ihg foundRight)

/-- A normal form that is built up by steps is the one that is found. -/
theorem Normalizes.normalForm {outer : Junction} {f g : Formula}
    (normalizes : Normalizes outer f g) : f.normalForm outer = .ok g := by
  induction normalizes with
  | atom a => rfl
  | literal a => rfl
  | outer _ _ ihf ihg =>
      exact normalForm_junction.mpr ⟨_, _, ihf, ihg, (if_pos rfl).symm⟩
  | inner _ _ ihf ihg =>
      exact normalForm_junction.mpr ⟨_, _, ihf, ihg, (if_neg outer.dual_ne).symm⟩

/-- In a normal form the inner junctions stand under the outer ones. -/
theorem distributed_normalForm {outer : Junction} {f g : Formula} (tree : f.IsLiteralTree)
    (found : f.normalForm outer = .ok g) : Distributed outer g := by
  have normalizes := normalizes_of_normalForm tree found
  clear tree found
  induction normalizes with
  | atom a => exact .inner (.atom a)
  | literal a => exact .inner (.literal a)
  | outer _ _ ihf ihg => exact .outer ihf ihg
  | inner _ _ ihf ihg => exact distributed_distribute ihf ihg

/-- Only literals under junctions have a normal form. -/
theorem isLiteralTree_of_normalForm {outer : Junction} {f g : Formula}
    (found : f.normalForm outer = .ok g) : f.IsLiteralTree := by
  induction f generalizing g with
  | atom a => trivial
  | neg f ih =>
      cases f with
      | atom a => trivial
      | _ => cases found
  | binary c f f' ihf ihf' =>
      rcases c with j | _ | _
      · obtain ⟨_, _, left, right, _⟩ := normalForm_junction.mp found
        exact ⟨ihf left, ihf' right⟩
      · cases found
      · cases found
  | quant q x f ih => cases found

/-- Literals with the inner junction between them are their own normal form. -/
theorem Joined.normalForm {outer : Junction} {f : Formula} (joined : Joined outer.dual f) :
    f.normalForm outer = .ok f := by
  generalize inner : outer.dual = j at joined
  induction joined with
  | atom a => rfl
  | literal a => rfl
  | @join f g left right ihf ihg =>
      subst inner
      refine normalForm_junction.mpr ⟨f, g, ihf, ihg, ?_⟩
      rw [if_neg outer.dual_ne, distribute_whole f right.whole, distributeLeft_whole g left.whole]

/-- What has its inner junctions under its outer ones is its own normal form. -/
theorem Distributed.normalForm {outer : Junction} {f : Formula}
    (distributed : Distributed outer f) : f.normalForm outer = .ok f := by
  induction distributed with
  | inner joined => exact joined.normalForm
  | @outer f g _ _ ihf ihg =>
      refine normalForm_junction.mpr ⟨f, g, ihf, ihg, ?_⟩
      rw [if_pos rfl]

/-- A formula is its own normal form exactly if its inner junctions stand under its outer ones. -/
theorem normalForm_eq_self_iff {outer : Junction} {f : Formula} :
    f.normalForm outer = .ok f ↔ Distributed outer f := by
  constructor
  · intro found
    exact distributed_normalForm (isLiteralTree_of_normalForm found) found
  · exact Distributed.normalForm

/-- A normal form is worth as much as the formula. -/
theorem value_normalForm {α : Type u} {op : Junction → α → α → α} (value : Formula → α)
    (distributive : Distributive op)
    (joined : ∀ j f g, value (junction j f g) = op j (value f) (value g)) {outer : Junction}
    {f g : Formula} (tree : f.IsLiteralTree) (found : f.normalForm outer = .ok g) :
    value g = value f := by
  have normalizes := normalizes_of_normalForm tree found
  clear tree found
  induction normalizes with
  | atom a => rfl
  | literal a => rfl
  | outer _ _ ihf ihg => rw [joined, joined, ihf, ihg]
  | inner _ _ ihf ihg => rw [value_distribute distributive joined, joined, ihf, ihg]

/-- A normal form has what a junction has exactly if both operands have it, if the formula
does. -/
theorem normalForm_iff {property : Formula → Prop}
    (joined : ∀ j f g, property (junction j f g) ↔ property f ∧ property g) {outer : Junction}
    {f g : Formula} (tree : f.IsLiteralTree) (found : f.normalForm outer = .ok g) :
    property g ↔ property f :=
  iff_of_eq (value_normalForm property distributive_and (fun j f g => propext (joined j f g))
    tree found)

/-- A normal form has the truth value of the formula. -/
theorem holds_normalForm {D : Type u} {M : Structure D} {v : Assignment D} {outer : Junction}
    {f g : Formula} (tree : f.IsLiteralTree) (found : f.normalForm outer = .ok g) :
    g.Holds M v ↔ f.Holds M v :=
  iff_of_eq (value_normalForm (fun h => h.Holds M v) Junction.distributive_holds
    (fun _ _ _ => rfl) tree found)

end Formula

end Clausal
