import Clausal.Proofs.Removal
import Clausal.Proofs.Witnesses

/-!
# The shape of Skolem forms

A Skolem form sets the universal variables of its prefix aside and has a witness for every
existential one, made of the universal variables to its left (`SkolemFormOf`). The witnesses are put
in while the prefix is gone through, so each is made before the later variables are known. For
variables that are all different this shows nowhere: the matrix is the same as with all witnesses
put in at once, and no existential variable is left in it (`skolemFormOf_skolemize`).
-/

namespace Clausal

/-- The third one is the Skolem form of a prefix and a matrix, up to the names of the witnesses. Its
universal variables and the variables that have witnesses are those of the prefix, in the order of
the prefix. A witness is a symbol if no universal variable stands to the left of its variable, and
otherwise a function applied to all that do, again in the order of the prefix. Replacing the
variables by their witnesses one after the other makes the matrix, and so does replacing all of them
at once; none of them is a symbol of it. -/
structure SkolemFormOf (p : Prefix) (matrix : Formula) (r : Skolemized) : Prop where
  universals : r.universals = p.universals
  keys : r.mapping.map Prod.fst = p.existentials
  witness : ∀ (before after : Prefix) (x : String), p = before ++ ⟨.ex, x⟩ :: after → ∃ name,
    r.mapping[before.existentials.length]? =
      some (x, if before.universals = [] then .sym name
        else .app name (before.universals.map .sym))
  nodup : (r.mapping.map Prod.fst).Nodup
  oneByOne : r.matrix = r.mapping.foldl (fun f entry => f.subst [entry]) matrix
  atOnce : r.matrix = matrix.subst r.mapping
  absent : ∀ x ∈ p.existentials, x ∉ r.matrix.symbols

/-- A witness is a constant if there are no universal variables. -/
theorem Term.applied_map_sym (name : String) (xs : List String) :
    Term.applied name (xs.map .sym) = if xs = [] then .sym name else .app name (xs.map .sym) := by
  cases xs <;> rfl

/-- The witness of a variable is listed where the variable stands among the existential ones. It is
made of the universal variables before it. -/
theorem Skolemized.State.exists_getElem?_mapping_run (s : State) (before after : Prefix)
    (x : String) :
    ∃ name, (s.run (before ++ ⟨.ex, x⟩ :: after)).result.mapping[
        s.result.mapping.length + before.existentials.length]? =
      some (x, .applied name ((s.result.universals ++ before.universals).map .sym)) := by
  obtain ⟨name, constants, functions, _, stepped⟩ := (s.run before).step_ex x
  obtain ⟨later, listed⟩ := mapping_isPrefix_run ((s.run before).step ⟨.ex, x⟩) after
  have place : (s.run before).result.mapping.length =
      s.result.mapping.length + before.existentials.length := by
    have keys := congrArg List.length (map_fst_mapping_run s before)
    rwa [List.length_append, List.length_map, List.length_map] at keys
  refine ⟨name, ?_⟩
  rw [run_append, run_cons, ← listed, stepped, witnessed, universals_run, ← place,
    List.append_assoc, List.getElem?_append_right le_rfl, Nat.sub_self]
  rfl

/-- Each existential variable has its witness, which depends on the universal variables in front. -/
theorem exists_getElem?_mapping_skolemize (before after : Prefix) (x : String)
    (matrix : Formula) :
    ∃ name, (skolemize (before ++ ⟨.ex, x⟩ :: after) matrix).mapping[
        before.existentials.length]? =
      some (x, if before.universals = [] then .sym name
        else .app name (before.universals.map .sym)) := by
  obtain ⟨name, found⟩ :=
    Skolemized.State.exists_getElem?_mapping_run (.start _ matrix) before after x
  have listed : (skolemize _ matrix).mapping[0 + before.existentials.length]? =
    some (x, .applied name (before.universals.map .sym)) := found
  rw [zero_add, Term.applied_map_sym] at listed
  exact ⟨name, listed⟩

variable {p : Prefix} {matrix : Formula}

/-- No variable that is replaced is left, since none of them occurs in a witness. -/
theorem not_mem_symbols_skolemize (distinct : (p.map Binder.name).Nodup)
    (free : matrix.boundNames = []) {x : String} (existential : x ∈ p.existentials) :
    x ∉ (skolemize p matrix).matrix.symbols := by
  rw [matrix_skolemize distinct free]
  refine Formula.not_mem_symbols_subst free ?_ fun entry member inside => ?_
  · rwa [map_fst_mapping_skolemize]
  · exact not_mem_names_mapping_skolemize distinct matrix existential entry member
      (entry.2.symbols_subset_names inside)

/-- The Skolem form of a prefix with distinct variables and a matrix without quantifiers. It is the
one that is computed for them, unless the matrix holds values from outside, and the one on
worksheets if the matrix is lawful. -/
theorem skolemFormOf_skolemize (distinct : (p.map Binder.name).Nodup)
    (free : matrix.boundNames = []) :
    SkolemFormOf p matrix (skolemize p matrix) ∧
      (matrix.foreignValues = [] → skolemize? p matrix = .ok (skolemize p matrix)) ∧
      (matrix.Lawful → Worksheet.skolemizeBy (.ofPrefix p) matrix =
        .ok (Worksheet.ofSkolemized (skolemize p matrix))) := by
  refine ⟨?_, skolemize?_of_foreignValues_eq_nil p, Worksheet.skolemizeBy_ofPrefix p⟩
  exact {
    universals := universals_skolemize p matrix
    keys := map_fst_mapping_skolemize p matrix
    witness := fun before after x split =>
      split ▸ exists_getElem?_mapping_skolemize before after x matrix
    nodup := nodup_mapping_skolemize distinct matrix
    oneByOne := matrix_skolemize_eq_foldl p matrix
    atOnce := matrix_skolemize distinct free
    absent := fun _ => not_mem_symbols_skolemize distinct free }

/-- The three witnesses have none, one and two universal variables to their left. A function of the
matrix is spelled like a variable that is replaced. -/
theorem skolemFormOf_skolemize_nested :
    SkolemFormOf [⟨.ex, "a"⟩, ⟨.all, "x"⟩, ⟨.ex, "y"⟩, ⟨.all, "z"⟩, ⟨.ex, "w"⟩]
      (.and (.atom (.pred "R" [.sym "a", .app "y" [.sym "w"]]))
        (.atom (.relation .eq (.sym "z") (.app "f" [.sym "y", .sym "a"]))))
      ⟨.and (.atom (.pred "R" [.sym "sk_c1", .app "y" [.app "sk_f2" [.sym "x", .sym "z"]]]))
          (.atom (.relation .eq (.sym "z")
            (.app "f" [.app "sk_f1" [.sym "x"], .sym "sk_c1"]))),
        [("a", .sym "sk_c1"), ("y", .app "sk_f1" [.sym "x"]),
          ("w", .app "sk_f2" [.sym "x", .sym "z"])],
        ["x", "z"]⟩ := by
  let p : Prefix := [⟨.ex, "a"⟩, ⟨.all, "x"⟩, ⟨.ex, "y"⟩, ⟨.all, "z"⟩, ⟨.ex, "w"⟩]
  let matrix : Formula := .and (.atom (.pred "R" [.sym "a", .app "y" [.sym "w"]]))
    (.atom (.relation .eq (.sym "z") (.app "f" [.sym "y", .sym "a"])))
  have distinct : (p.map Binder.name).Nodup := by decide
  have free : matrix.boundNames = [] := rfl
  exact (skolemFormOf_skolemize distinct free).1

end Clausal
