import Clausal.Layout

/-!
# Line ends in laid out texts

A text with places for line ends is laid out by writing its steps one after another, every place as
a space or as a line end with an indentation (`Layout.Laid`). What is written at a time and what is
pending then are all the steps that came before (`State.Lays`), whichever groups are broken. As long
as these fit on one line no group is broken (`State.Fits`). Together this is what is required of a
printer (`Layout.Conforms`).

Where every place stands before a text that does not start with a space, the text on one line is
found again in any such layout, by undoing the line ends (`Layout.Laid.unbroken_eq`).
-/

namespace Clausal.Layout

/-- A line end with an indentation. -/
def newLine (indent : Nat) : List Char := '\n' :: List.replicate indent ' '

/-- The ways to write a step. -/
inductive Step.Writes : Step → List Char → Prop where
  | text (s : String) : Writes (.text s) s.toList
  | space : Writes .breakable [' ']
  | broken (indent : Nat) : Writes .breakable (newLine indent)
  | lineEnd (indent : Nat) : Writes .lineEnd (newLine indent)
  | opening (indent : Nat) : Writes (.opening indent) []
  | closing (indent : Nat) : Writes (.closing indent) []

/-- Steps are written one after another. -/
inductive Laid : List Step → List Char → Prop where
  | nil : Laid [] []
  | cons {step : Step} {steps : List Step} {cs ds : List Char} (writes : step.Writes cs)
      (laid : Laid steps ds) : Laid (step :: steps) (cs ++ ds)

/-- A step on one line, as far as it does not end the line itself. -/
def Step.spaced : Step → List Char
  | .text s => s.toList
  | .breakable => [' ']
  | .lineEnd => ['\n']
  | .opening _ | .closing _ => []

/-- Steps on one line. -/
def flat (steps : List Step) : List Char := steps.flatMap Step.spaced

/-- Every group that is opened is closed, with the same indentation. -/
inductive Grouped : List Step → Prop where
  | nil : Grouped []
  | text (s : String) {steps : List Step} (grouped : Grouped steps) : Grouped (.text s :: steps)
  | breakable {steps : List Step} (grouped : Grouped steps) : Grouped (.breakable :: steps)
  | lineEnd {steps : List Step} (grouped : Grouped steps) : Grouped (.lineEnd :: steps)
  | group (indent : Nat) {inside steps : List Step} (inner : Grouped inside)
      (grouped : Grouped steps) : Grouped (.opening indent :: (inside ++ .closing indent :: steps))

/-- What is required of a printer: it writes the steps in their order, and no place as a line end
if all of them fit on one line. -/
structure Conforms (printer : Int → List Step → String) : Prop where
  laid : ∀ width steps, Grouped steps → Laid steps (printer width steps).toList
  fits : ∀ width steps, Grouped steps → .lineEnd ∉ steps → ((flat steps).length : Int) ≤ width →
    (printer width steps).toList = flat steps

variable {steps done : List Step} {next : Step} {cs ds : List Char}

/-- A text for two lists of steps is a text for the first and one for the second. -/
theorem laid_append_iff {others : List Step} : Laid (steps ++ others) cs ↔
    ∃ ds es, Laid steps ds ∧ Laid others es ∧ cs = ds ++ es := by
  constructor
  · intro laid
    induction steps generalizing cs with
    | nil => exact ⟨[], cs, .nil, laid, rfl⟩
    | cons step steps ih =>
        obtain _ | ⟨writes, laid⟩ := laid
        obtain ⟨ds, es, first, second, rfl⟩ := ih laid
        exact ⟨_, es, .cons writes first, second, (List.append_assoc _ _ _).symm⟩
  · rintro ⟨ds, es, first, second, rfl⟩
    induction first with
    | nil => exact second
    | cons writes _ ih =>
        rw [List.append_assoc]
        exact .cons writes ih

/-- One more step adds one of the texts that it can write. -/
theorem Laid.concat (laid : Laid done ds) (writes : next.Writes cs) :
    Laid (done ++ [next]) (ds ++ cs) :=
  laid_append_iff.mpr ⟨ds, cs, laid, List.append_nil cs ▸ .cons writes .nil, rfl⟩

theorem Grouped.append {others : List Step} (first : Grouped steps) (second : Grouped others) :
    Grouped (steps ++ others) := by
  induction first with
  | nil => exact second
  | text s _ ih => exact .text s ih
  | breakable _ ih => exact .breakable ih
  | lineEnd _ ih => exact .lineEnd ih
  | group indent inner _ _ ih =>
      rw [List.cons_append, List.append_assoc, List.cons_append]
      exact .group indent inner ih

@[simp] theorem flat_nil : flat [] = [] := rfl

theorem flat_cons (next : Step) (steps : List Step) :
    flat (next :: steps) = next.spaced ++ flat steps :=
  List.flatMap_cons

theorem flat_append (steps others : List Step) :
    flat (steps ++ others) = flat steps ++ flat others :=
  List.flatMap_append

theorem flat_singleton (next : Step) : flat [next] = next.spaced :=
  List.flatMap_singleton ..

/-- The line ends in a text with the spaces after them, each replaced by one space. -/
def unbroken : List Char → List Char
  | [] => []
  | c :: cs => if c = '\n' then ' ' :: unbroken (cs.dropWhile (· = ' ')) else c :: unbroken cs
termination_by cs => cs.length
decreasing_by
  · exact Nat.lt_succ_of_le (List.dropWhile_sublist _).length_le
  · exact Nat.lt_succ_self _

/-- The first that is written is a character of a text, and no space. -/
def StartsText : List Step → Prop
  | .opening _ :: steps | .closing _ :: steps => StartsText steps
  | .text s :: _ => ∃ c cs, s.toList = c :: cs ∧ c ≠ ' '
  | _ => False

/-- The only line ends are those at places, and no place stands in front of a space. -/
def Mendable : List Step → Prop
  | [] => True
  | .text s :: steps => '\n' ∉ s.toList ∧ Mendable steps
  | .breakable :: steps => StartsText steps ∧ Mendable steps
  | .lineEnd :: _ => False
  | .opening _ :: steps | .closing _ :: steps => Mendable steps

@[simp] theorem unbroken_nil : unbroken [] = [] := by
  rw [unbroken]

theorem unbroken_append (plain : '\n' ∉ cs) : unbroken (cs ++ ds) = cs ++ unbroken ds := by
  induction cs with
  | nil => rfl
  | cons c cs ih =>
      obtain ⟨other, plain⟩ := not_or.mp (mt List.mem_cons.mpr plain)
      rw [List.cons_append, unbroken, if_neg (Ne.symm other), ih plain, List.cons_append]

/-- A line end with its indentation becomes one space again, if no other space follows. -/
theorem unbroken_newLine (indent : Nat) (start : ∀ c ∈ ds.head?, c ≠ ' ') :
    unbroken (newLine indent ++ ds) = ' ' :: unbroken ds := by
  have spaces : (List.replicate indent ' ' ++ ds).dropWhile (· = ' ') = ds := by
    rw [List.dropWhile_append_of_pos fun c member =>
      decide_eq_true (List.eq_of_mem_replicate member)]
    cases ds with
    | nil => rfl
    | cons d ds => exact List.dropWhile_cons_of_neg (by simpa using start d rfl)
  rw [newLine, List.cons_append, unbroken, if_pos rfl, spaces]

theorem StartsText.append {others : List Step} (starts : StartsText steps) :
    StartsText (steps ++ others) := by
  induction steps with
  | nil => exact starts.elim
  | cons step steps ih =>
      cases step with
      | text s => exact starts
      | breakable => exact starts.elim
      | lineEnd => exact starts.elim
      | opening indent => exact ih starts
      | closing indent => exact ih starts

theorem Mendable.append {others : List Step} (first : Mendable steps) (second : Mendable others) :
    Mendable (steps ++ others) := by
  induction steps with
  | nil => exact second
  | cons step steps ih =>
      cases step with
      | text s => exact ⟨first.1, ih first.2⟩
      | breakable => exact ⟨first.1.append, ih first.2⟩
      | lineEnd => exact first.elim
      | opening indent => exact ih first
      | closing indent => exact ih first

/-- Mendable steps have no line end of their own. -/
theorem Mendable.lineEnd_not_mem (mendable : Mendable steps) : .lineEnd ∉ steps := by
  intro member
  obtain ⟨before, behind, rfl⟩ := List.append_of_mem member
  induction before with
  | nil => exact mendable
  | cons step steps ih =>
      cases step with
      | text s => exact ih mendable.2 (List.mem_append_right _ List.mem_cons_self)
      | breakable => exact ih mendable.2 (List.mem_append_right _ List.mem_cons_self)
      | lineEnd => exact mendable
      | opening indent => exact ih mendable (List.mem_append_right _ List.mem_cons_self)
      | closing indent => exact ih mendable (List.mem_append_right _ List.mem_cons_self)

/-- What starts with a text is not written with a space in front. -/
theorem Laid.head_ne_space (laid : Laid steps cs) (starts : StartsText steps) :
    ∀ c ∈ cs.head?, c ≠ ' ' := by
  induction laid with
  | nil => exact starts.elim
  | cons writes _ ih =>
      cases writes with
      | text s =>
          obtain ⟨c, cs, spelled, other⟩ := starts
          rw [spelled, List.cons_append]
          rintro _ ⟨⟩
          exact other
      | space => exact starts.elim
      | broken indent => exact starts.elim
      | lineEnd indent => exact starts.elim
      | opening indent => exact ih starts
      | closing indent => exact ih starts

/-- Without its line ends a layout is the text on one line. -/
theorem Laid.unbroken_eq (laid : Laid steps cs) (mendable : Mendable steps) :
    unbroken cs = flat steps := by
  induction laid with
  | nil => exact unbroken_nil
  | cons writes laid ih =>
      rw [flat_cons]
      cases writes with
      | text s => rw [unbroken_append mendable.1, ih mendable.2, Step.spaced]
      | space => rw [unbroken_append (by decide), ih mendable.2, Step.spaced]
      | broken indent =>
          -- all spaces behind the line end are its indentation, as text follows them
          rw [unbroken_newLine indent (laid.head_ne_space mendable.1), ih mendable.2]
          rfl
      | lineEnd indent => exact mendable.elim
      | opening indent => exact ih mendable
      | closing indent => exact ih mendable

/-- The step that an item waits for. -/
def Item.origin : Item → Step
  | .text s => .text s
  | .place _ _ => .breakable

/-- An item is as wide as what it writes in one line. -/
theorem Item.width_eq (item : Item) : item.width = item.origin.spaced.length := by
  cases item <;> rfl

namespace State

/-- Writing what is pending preserves the property. -/
def KeptByWriting (P : State → Prop) : Prop :=
  ∀ ⦃s item rest⦄, s.pending = item :: rest → P s → P ({ s with pending := rest }.write item)

variable {P : State → Prop} {s t : State} {item : Item} {rest : List Item} {width : Int}

/-- What writing one item keeps is kept by writing the first items. -/
theorem KeptByWriting.writeWhile (kept : KeptByWriting P) (condition : State → Item → Bool)
    (bound : Nat) (holds : P s) : P (writeWhile condition bound s) := by
  induction bound generalizing s with
  | zero => exact holds
  | succ bound ih =>
      rw [State.writeWhile]
      split
      · exact holds
      · split
        · exact ih (kept ‹_› holds)
        · exact holds

/-- What writing one item keeps is kept when the items of a broken group are written. -/
theorem KeptByWriting.settle (kept : KeptByWriting P) (g : Nat) (holds : P s) : P (s.settle g) :=
  kept.writeWhile _ _ (kept.writeWhile _ _ holds)

/-- What writing one item keeps is kept when all items are written. -/
theorem KeptByWriting.flush (kept : KeptByWriting P) (holds : P s) : P s.flush :=
  kept.writeWhile _ _ holds

/-- A new line is written as a line end and its indentation. -/
theorem written_newline (s : State) (indent : Nat) :
    (s.newline indent).written.toList = s.written.toList ++ newLine indent := by
  simp [newline, newLine]

/-- An item is written in one of the ways to write it, whether its group is broken or not. -/
theorem exists_write (s : State) (item : Item) : ∃ cs, item.origin.Writes cs ∧
    (s.write item).written.toList = s.written.toList ++ cs ∧
      (s.write item).pending = s.pending := by
  cases item with
  | text text => exact ⟨_, .text text, String.toList_append, rfl⟩
  | place indent g =>
      rw [write]
      split
      · exact ⟨_, .broken indent, written_newline _ indent, rfl⟩
      · split
        · exact ⟨_, .space, String.toList_append, rfl⟩
        · exact ⟨_, .space, String.toList_append, rfl⟩

/-- Without a condition all pending items are written, if the bound allows it. -/
theorem pending_writeWhile_true (bound : Nat) (s : State) (enough : s.pending.length ≤ bound) :
    (writeWhile (fun _ _ => true) bound s).pending = [] := by
  induction bound generalizing s with
  | zero => exact List.length_eq_zero_iff.mp (Nat.le_zero.mp enough)
  | succ bound ih =>
      rw [writeWhile]
      split
      · assumption
      · rename_i item rest pending
        obtain ⟨_, _, _, same⟩ := exists_write { s with pending := rest } item
        rw [if_pos rfl]
        refine ih _ ?_
        rw [same]
        rw [pending] at enough
        exact Nat.le_of_succ_le_succ enough

/-- Nothing is pending after all items are written. -/
theorem pending_flush (s : State) : s.flush.pending = [] :=
  pending_writeWhile_true s.pending.length s (Nat.le_refl _)

/-- Breaking a group writes nothing. -/
theorem exists_breakNext (s : State) :
    ∃ queue groups, s.breakNext.2 = { s with queue := queue, groups := groups } := by
  -- groups without undecided places are marked on the way to the one that is broken
  have folded (passed : List Nat) (s : State) : ∃ groups,
      passed.foldl (fun s g => s.modifyGroup g fun group => { group with broken := true }) s =
        { s with groups := groups } := by
    induction passed generalizing s with
    | nil => exact ⟨s.groups, rfl⟩
    | cons g passed ih =>
        obtain ⟨groups, same⟩ := ih (s.modifyGroup g fun group => { group with broken := true })
        exact ⟨groups, same⟩
  rw [breakNext]
  obtain ⟨groups, same⟩ := folded (nextToBreak s.group s.queue).2.2
    { s with queue := (nextToBreak s.group s.queue).2.1 }
  dsimp only
  rw [same]
  split
  · exact ⟨_, _, rfl⟩
  · exact ⟨_, _, rfl⟩

/-- However what is pending is written, it completes the steps that came before. -/
def Lays (done : List Step) (s : State) : Prop :=
  ∀ cs, Laid (s.pending.map Item.origin) cs → Laid done (s.written.toList ++ cs)

/-- A pending item is laid either way: in the end its text belongs to what was written. -/
theorem keptByWriting_lays (done : List Step) : KeptByWriting (Lays done) := by
  intro s item rest pending lays cs laid
  obtain ⟨ds, writes, written, same⟩ := exists_write { s with pending := rest } item
  rw [same] at laid
  rw [written, List.append_assoc]
  refine lays _ ?_
  rw [pending]
  exact .cons writes laid

/-- Which group is broken next does not matter for what is laid. -/
theorem Lays.breakNext (lays : Lays done s) : Lays done s.breakNext.2 := by
  obtain ⟨queue, groups, same⟩ := exists_breakNext s
  rw [same]
  exact lays

/-- Breaking groups until the line fits lays the same steps. -/
theorem Lays.fit (bound : Nat) (lays : Lays done s) : Lays done (fit bound s) := by
  induction bound generalizing s with
  | zero => exact lays
  | succ bound ih =>
      have broken := lays.breakNext
      rw [State.fit]
      split
      · split
        · rename_i g t same
          rw [same] at broken
          exact ih ((keptByWriting_lays done).settle g broken)
        · rename_i t same
          rwa [same] at broken
      · exact lays

/-- A pending item stands for its step. -/
theorem Lays.push (lays : Lays done s) (item : Item) :
    Lays (done ++ [item.origin]) (s.push item) := by
  refine Lays.fit _ fun cs laid => ?_
  rw [List.map_append] at laid
  obtain ⟨ds, es, before, last, rfl⟩ := laid_append_iff.mp laid
  exact laid_append_iff.mpr ⟨_, es, lays ds before, last, (List.append_assoc _ _ _).symm⟩

/-- With nothing pending a step can be written at once. -/
theorem Lays.write (lays : Lays done s) (empty : s.pending = []) (writes : next.Writes cs)
    (written : t.written.toList = s.written.toList ++ cs) (same : t.pending = s.pending) :
    Lays (done ++ [next]) t := by
  intro ds laid
  rw [same, empty] at laid
  obtain _ | _ := laid
  have before : Laid done (s.written.toList ++ []) := lays [] (by rw [empty]; exact .nil)
  rw [List.append_nil] at before
  rw [written, List.append_nil]
  exact before.concat writes

/-- A step that may write a line end is laid by one, once nothing is pending. -/
theorem Lays.newline (lays : Lays done s) (writes : ∀ indent, next.Writes (newLine indent))
    (indent : Nat) : Lays (done ++ [next]) (s.flush.newline indent) :=
  ((keptByWriting_lays done).flush lays).write s.pending_flush (writes indent)
    (written_newline _ indent) rfl

/-- Where a group starts or ends nothing is written. -/
theorem Lays.bracket (lays : Lays done s) (writes : next.Writes []) : Lays (done ++ [next]) s := by
  intro cs laid
  have before := (lays cs laid).concat writes
  rwa [List.append_nil] at before

/-- The end of a line is laid as a step. -/
theorem Lays.endLine (lays : Lays done s) : Lays (done ++ [.lineEnd]) s.endLine := by
  have broken := lays.breakNext
  rw [State.endLine]
  split
  · rename_i g t same
    rw [same] at broken
    exact ((keptByWriting_lays done).settle g broken).newline .lineEnd _
  · rename_i t same
    rw [same] at broken
    exact broken.newline .lineEnd _

/-- Each step of the printer lays that step. -/
theorem Lays.step (lays : Lays done s) (next : Step) : Lays (done ++ [next]) (s.step next) := by
  cases next with
  | text text =>
      rw [State.step]
      split
      · exact lays.write (List.isEmpty_iff.mp ‹_›) (.text text) String.toList_append rfl
      · exact lays.push (.text text)
  | breakable =>
      rw [State.step]
      split
      · exact lays.newline .broken _
      · refine Lays.push (s := s.modifyGroup s.innermost _) ?_ (.place s.indent s.innermost)
        exact lays
  | lineEnd => exact lays.endLine
  | opening indent =>
      have lays := lays.bracket (.opening indent)
      exact lays
  | closing indent =>
      have lays := lays.bracket (.closing indent)
      rw [State.step]
      split <;> exact lays

/-- The run of the printer lays all its steps. -/
theorem Lays.foldl (lays : Lays done s) (steps : List Step) :
    Lays (done ++ steps) (steps.foldl State.step s) := by
  induction steps generalizing done s with
  | nil => rwa [List.append_nil]
  | cons next steps ih => rw [List.append_cons]; exact ih (lays.step next)

/-- No group is broken, and what is written and pending are the steps that came before, on one
line. -/
structure Fits (width : Int) (done : List Step) (s : State) : Prop where
  limit : s.limit = width
  unbroken : ∀ g, (s.group g).broken = false
  column : s.column = s.written.length
  line : s.written.toList ++ flat (s.pending.map Item.origin) = flat done

/-- The width of the pending items is that of their line. -/
theorem pendingWidth_eq (s : State) :
    s.pendingWidth = (flat (s.pending.map Item.origin)).length := by
  rw [pendingWidth]
  induction s.pending with
  | nil => rfl
  | cons item items ih =>
      rw [List.foldr_cons, ih, item.width_eq, List.map_cons, flat_cons, List.length_append]

/-- What was written and what is pending are as wide as the whole line. -/
theorem Fits.width_eq (fits : Fits width done s) :
    s.column + s.pendingWidth = (flat done).length := by
  rw [fits.column, ← String.length_toList, s.pendingWidth_eq, ← List.length_append, fits.line]

/-- Counting the undecided places of a group breaks none. -/
theorem broken_counted (s : State) (g : Nat) (count : Nat → Nat) (h : Nat) :
    ((s.modifyGroup g fun group => { group with undecided := count group.undecided }).group
      h).broken = (s.group h).broken := by
  rw [group, group, modifyGroup, List.getD_eq_getElem?_getD, List.getD_eq_getElem?_getD,
    List.getElem?_modify]
  cases s.groups[h]? with
  | none => rfl
  | some group =>
      by_cases same : g = h <;> simp [same]

/-- A group that is opened is not broken. -/
theorem broken_concat (unbroken : ∀ g, (s.group g).broken = false) (depth g : Nat) :
    ((s.groups ++ [Group.mk depth 0 false]).getD g ⟨0, 0, false⟩).broken = false := by
  rw [List.getD_eq_getElem?_getD]
  rcases Nat.lt_or_ge g s.groups.length with known | new
  · rw [List.getElem?_append_left known, ← List.getD_eq_getElem?_getD]
    exact unbroken g
  · rw [List.getElem?_append_right new]
    cases g - s.groups.length <;> rfl

theorem fits_append {text : String} (limit : s.limit = width)
    (unbroken : ∀ g, (s.group g).broken = false) (column : s.column = s.written.length)
    (line : s.written.toList ++ (text.toList ++ flat (s.pending.map Item.origin)) = flat done) :
    Fits width done (s.append text) where
  limit := limit
  unbroken := unbroken
  column := by rw [append, String.length_append, column]
  line := by rwa [append, String.toList_append, List.append_assoc]

/-- As long as no group is broken, pending items are written as they stand in the line. -/
theorem keptByWriting_fits : KeptByWriting (Fits width done) := by
  intro s item rest pending fits
  have line := fits.line
  rw [pending, List.map_cons, flat_cons] at line
  cases item with
  | text text =>
      exact fits_append (s := { s with pending := rest }) fits.limit fits.unbroken fits.column line
  | place indent g =>
      have unbroken (h : Nat) :=
        (broken_counted { s with pending := rest } g (· - 1) h).trans (fits.unbroken h)
      rw [State.write, if_neg (by rw [unbroken]; decide)]
      split
      · exact fits_append fits.limit unbroken fits.column line
      · exact fits_append fits.limit unbroken fits.column line

/-- A line that is narrow enough is not broken. -/
theorem Fits.fit (fits : Fits width done s) (narrow : ((flat done).length : Int) ≤ width)
    (bound : Nat) : State.fit bound s = s := by
  cases bound with
  | zero => rfl
  | succ bound =>
      rw [State.fit, if_neg]
      rw [fits.width_eq, fits.limit]
      exact Int.not_lt.mpr narrow

/-- One more pending item that still fits keeps the line. -/
theorem Fits.push (fits : Fits width done s) (item : Item)
    (narrow : ((flat (done ++ [item.origin])).length : Int) ≤ width) :
    Fits width (done ++ [item.origin]) (s.push item) := by
  have added : Fits width (done ++ [item.origin]) { s with pending := s.pending ++ [item] } := by
    refine ⟨fits.limit, fits.unbroken, fits.column, ?_⟩
    rw [flat_append, ← fits.line, List.map_append, flat_append, ← List.append_assoc]
    rfl
  rw [State.push, added.fit narrow]
  exact added

/-- Each step that still fits keeps the line. -/
theorem Fits.step (fits : Fits width done s) (next : Step) (inLine : next ≠ .lineEnd)
    (narrow : ((flat (done ++ [next])).length : Int) ≤ width) :
    Fits width (done ++ [next]) (s.step next) := by
  have bracket (empty : next.spaced = []) : Fits width (done ++ [next]) s := by
    refine ⟨fits.limit, fits.unbroken, fits.column, ?_⟩
    rw [flat_append, flat_singleton, empty, List.append_nil]
    exact fits.line
  cases next with
  | text text =>
      rw [State.step]
      split
      · rename_i empty
        have empty := List.isEmpty_iff.mp empty
        refine fits_append fits.limit fits.unbroken fits.column ?_
        rw [flat_append, ← fits.line, empty, List.map_nil, List.append_assoc]
        rfl
      · exact fits.push (.text text) narrow
  | breakable =>
      have counted : Fits width done (s.modifyGroup s.innermost fun group =>
          { group with undecided := group.undecided + 1 }) := by
        refine ⟨fits.limit, fun h => ?_, fits.column, fits.line⟩
        exact (broken_counted s s.innermost (· + 1) h).trans (fits.unbroken h)
      rw [State.step, if_neg (by rw [fits.unbroken]; decide)]
      exact counted.push (.place s.indent s.innermost) narrow
  | lineEnd => exact absurd rfl inLine
  | opening indent =>
      obtain ⟨limit, unbroken, column, line⟩ := bracket rfl
      exact ⟨limit, broken_concat unbroken _, column, line⟩
  | closing indent =>
      obtain ⟨limit, unbroken, column, line⟩ := bracket rfl
      rw [State.step]
      split
      · exact ⟨limit, unbroken, column, line⟩
      · exact ⟨limit, unbroken, column, line⟩

/-- The run of the printer keeps the line, if all of it fits. -/
theorem Fits.foldl (fits : Fits width done s) (steps : List Step) (inLine : .lineEnd ∉ steps)
    (narrow : ((flat (done ++ steps)).length : Int) ≤ width) :
    Fits width (done ++ steps) (steps.foldl State.step s) := by
  induction steps generalizing done s with
  | nil => rwa [List.append_nil]
  | cons next steps ih =>
      obtain ⟨other, inLine⟩ := not_or.mp (mt List.mem_cons.mpr inLine)
      rw [List.append_cons] at narrow ⊢
      -- the part up to the next step is not longer than the whole
      have first : (flat (done ++ [next])).length ≤ (flat (done ++ [next] ++ steps)).length := by
        rw [flat_append (done ++ [next]), List.length_append]
        exact Nat.le_add_right _ _
      exact ih (fits.step next (Ne.symm other) (by omega)) inLine narrow

end State

/-- The printer writes a text for its steps, whatever the width. -/
theorem laid_render (width : Int) (steps : List Step) : Laid steps (render width steps).toList := by
  have start : State.Lays [] (.start width) := fun cs laid => laid
  have lays := (State.keptByWriting_lays _).flush (start.foldl steps)
  have written := lays [] (by rw [State.pending_flush]; exact .nil)
  rwa [List.append_nil] at written

/-- What fits on one line is not broken. -/
theorem render_of_fits {width : Int} (inLine : .lineEnd ∉ steps)
    (narrow : ((flat steps).length : Int) ≤ width) : (render width steps).toList = flat steps := by
  have start : State.Fits width [] (.start width) := by
    refine ⟨rfl, fun g => ?_, rfl, rfl⟩
    cases g <;> rfl
  have line := (State.keptByWriting_fits.flush (start.foldl steps inLine narrow)).line
  rw [State.pending_flush] at line
  exact (List.append_nil _).symm.trans line

/-- The printer is one of those that can be relied on. -/
theorem conforms_render : Conforms render where
  laid width steps _ := laid_render width steps
  fits _ _ _ := render_of_fits

end Clausal.Layout
