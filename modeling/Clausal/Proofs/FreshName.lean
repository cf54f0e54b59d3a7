import Mathlib
import Clausal.FreshName

/-!
# Fresh names are fresh

The search for a fresh name ends at the first number whose name is not in use: of
more numbers than names in use, one is free (`exists_unused`), and all numbers
passed over are taken (`nextUnused_spec`).
-/

namespace Clausal

/-- Names with one stem are told apart by their numbers. -/
theorem numbered_injective (stem : String) : Function.Injective (numbered stem) := by
  intro m n same
  have texts : stem.toList ++ m.repr.toList = stem.toList ++ n.repr.toList := by
    simpa only [numbered, String.toList_append] using congrArg String.toList same
  exact Int.repr_injective (String.toList_injective (List.append_cancel_left texts))

def numberedRun (stem : String) (n : Int) (count : Nat) : List String :=
  (List.range count).map fun k : Nat => numbered stem (n + (k : Int))

/-- Names with different numbers are different. -/
theorem nodup_numberedRun (stem : String) (n : Int) (count : Nat) :
    (numberedRun stem n count).Nodup := by
  refine List.nodup_range.map fun j k same => ?_
  have numbers : n + (j : Int) = n + (k : Int) := numbered_injective stem same
  omega

/-- Not all of more names than there are in use can be taken. -/
theorem exists_unused (stem : String) (used : List String) (n : Int) :
    ∃ k : Nat, k ≤ used.length ∧ numbered stem (n + k) ∉ used := by
  by_contra taken
  push Not at taken
  have inside : numberedRun stem n (used.length + 1) ⊆ used := by
    intro name member
    obtain ⟨k, below, rfl⟩ := List.mem_map.mp member
    exact taken k (Nat.lt_succ_iff.mp (List.mem_range.mp below))
  have short := (List.subperm_of_subset (nodup_numberedRun stem n _) inside).length_le
  rw [numberedRun, List.length_map, List.length_range] at short
  exact absurd short (Nat.not_succ_le_self _)

/-- The search stops within its bound if a free number lies there. It stops at a
free number, and all numbers before that are taken. -/
theorem firstUnusedFrom_spec (stem : String) (used : List String) (bound : Nat) (n : Int)
    (free : ∃ k : Nat, k ≤ bound ∧ numbered stem (n + k) ∉ used) :
    n ≤ firstUnusedFrom stem used bound n ∧
      numbered stem (firstUnusedFrom stem used bound n) ∉ used ∧
      ∀ m, n ≤ m → m < firstUnusedFrom stem used bound n → numbered stem m ∈ used := by
  induction bound generalizing n with
  | zero =>
      obtain ⟨k, zero, unused⟩ := free
      obtain rfl : k = 0 := Nat.le_zero.mp zero
      refine ⟨le_refl n, ?_, fun m above below => absurd below (not_lt.mpr above)⟩
      simpa only [firstUnusedFrom, Nat.cast_zero, add_zero] using unused
  | succ bound ih =>
      by_cases taken : numbered stem n ∈ used
      · have step : firstUnusedFrom stem used (bound + 1) n =
            firstUnusedFrom stem used bound (n + 1) := by
          simp only [firstUnusedFrom, List.contains_iff_mem, taken, ↓reduceIte]
        have later : ∃ k : Nat, k ≤ bound ∧ numbered stem (n + 1 + k) ∉ used := by
          obtain ⟨k, within, unused⟩ := free
          cases k with
          | zero => exact absurd taken (by simpa only [Nat.cast_zero, add_zero] using unused)
          | succ k =>
              refine ⟨k, Nat.succ_le_succ_iff.mp within, ?_⟩
              rwa [add_assoc, add_comm 1 (k : Int), ← Nat.cast_succ]
        obtain ⟨above, unused, passed⟩ := ih (n + 1) later
        rw [step]
        refine ⟨by omega, unused, fun m from_ below => ?_⟩
        rcases eq_or_lt_of_le from_ with rfl | beyond
        · exact taken
        · exact passed m (by omega) below
      · have stop : firstUnusedFrom stem used (bound + 1) n = n := by
          simp only [firstUnusedFrom, List.contains_iff_mem, taken, ↓reduceIte]
        rw [stop]
        exact ⟨le_refl n, taken, fun m above below => absurd below (not_lt.mpr above)⟩

section

variable (stem : String) (used : List String) (counter : Int)

/-- The number after a counter is greater, its name is not in use, and the names
of all numbers between are. -/
theorem nextUnused_spec :
    counter < nextUnused stem used counter ∧
      numbered stem (nextUnused stem used counter) ∉ used ∧
      ∀ m, counter < m → m < nextUnused stem used counter → numbered stem m ∈ used := by
  obtain ⟨above, unused, passed⟩ :=
    firstUnusedFrom_spec stem used used.length (counter + 1) (exists_unused stem used _)
  exact ⟨above, unused, passed⟩

/-- A minted name was not in use. -/
theorem mint_name_not_mem : (mint stem counter used).name ∉ used :=
  (nextUnused_spec stem used counter).2.1

end

/-- The new name of a variable was not in use. -/
theorem mintVariable_name_not_mem (name : String) (used : List String) :
    (mintVariable name used).name ∉ used :=
  mint_name_not_mem _ used 0

/-- Fresh names for a second list of variables continue with the names in use after the first. -/
theorem mintVariables_append (names others used : List String) :
    mintVariables (names ++ others) used =
      ((mintVariables names used).1 ++ (mintVariables others (mintVariables names used).2).1,
        (mintVariables others (mintVariables names used).2).2) := by
  induction names generalizing used with
  | nil => rfl
  | cons name names ih =>
      rw [List.cons_append, mintVariables, mintVariables, ih]
      rfl

end Clausal
