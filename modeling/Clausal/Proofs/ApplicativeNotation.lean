import Clausal.Proofs.ClausalForms
import Clausal.Proofs.Scanner

/-!
# Reading the applicative notation

The applicative notation writes terms and formulas alike, as a name with its arguments between
brackets, so a text in it is first of all a tree of names and arguments (`Reading`), in which a
relation may stand in the place of an argument. Such a tree is found again in its text whatever
comes behind it, as long as that ends an argument (`Reading.inside`): every name ends before the
first character that cannot continue it, and a closing bracket ends all arguments before it.

If no predicate has the name of an operator, it can be seen from the name in front of the arguments
what the tree stands for. So formulas with the same text are the same
(`Formula.eq_of_applicative`).
-/

namespace Clausal

/-- An identifier has characters, and all of them may continue one. -/
theorem exists_parts_of_isIdentifier {name : String} (named : isIdentifier name = true) :
    ∃ c cs, name.toList = c :: cs ∧ ∀ d ∈ c :: cs, isIdentifierPart d = true := by
  obtain ⟨c, cs, spelled, start, others⟩ := isIdentifier_iff.mp named
  refine ⟨c, cs, spelled, List.forall_mem_cons.mpr ⟨?_, others⟩⟩
  rcases Bool.or_eq_true_iff.mp start with letter | mark
  · exact isIdentifierPart_of_isAlpha letter
  · rw [isIdentifierPart, mark, Bool.or_true, Bool.true_or]

/-- A name alone, a name with arguments, or a relation between two of these. -/
inductive Reading where
  | bare (name : String)
  | call (name : String) (args : List Reading)
  | related (r : Relation) (lhs rhs : Reading)

namespace Reading

mutual

def chars : Reading → List Char
  | .bare name => name.toList
  | .call name args => name.toList ++ '(' :: argumentChars args
  | .related r lhs rhs => lhs.chars ++ (r.applicative.toList ++ rhs.chars)

/-- Arguments and the bracket that closes them. -/
def argumentChars : List Reading → List Char
  | [] => [')']
  | v :: vs => v.chars ++ furtherChars vs

/-- Arguments that come behind others, and the bracket that closes them. -/
def furtherChars : List Reading → List Char
  | [] => [')']
  | v :: vs => ',' :: ' ' :: (v.chars ++ furtherChars vs)

end

/-- There is no relation at the top. -/
def IsOperand : Reading → Prop
  | .related _ _ _ => False
  | _ => True

mutual

/-- All names are identifiers, and no relation stands beside another one. -/
def Legible : Reading → Prop
  | .bare name => isIdentifier name = true
  | .call name args => isIdentifier name = true ∧ AllLegible args
  | .related _ lhs rhs => (lhs.IsOperand ∧ lhs.Legible) ∧ rhs.IsOperand ∧ rhs.Legible

def AllLegible : List Reading → Prop
  | [] => True
  | v :: vs => v.Legible ∧ AllLegible vs

end

/-- The characters continue no name and start no arguments. -/
def Stops (cs : List Char) : Prop := ∀ c ∈ cs.head?, isIdentifierPart c = false ∧ c ≠ '('

/-- The characters come behind an argument or behind everything. -/
def EndsArgument (cs : List Char) : Prop := ∀ c ∈ cs.head?, c = ',' ∨ c = ')'

variable {r s : List Char} {v w : Reading} {vs ws : List Reading}

/-- Where a reading stops, the name at its end has ended. -/
theorem Stops.ends (stops : Stops r) : Ends r := fun c member => (stops c member).1

/-- A comma and a closing bracket stop a reading. -/
theorem EndsArgument.stops (ends : EndsArgument r) : Stops r := by
  intro c member
  rcases ends c member with rfl | rfl <;> decide

/-- The sign of a relation stops a reading. -/
theorem stops_relation (q : Relation) (cs : List Char) : Stops (q.applicative.toList ++ cs) := by
  intro c member
  cases q <;> (obtain rfl := Option.some.inj member; decide)

/-- The sign of a relation does not end an argument. -/
theorem not_endsArgument_relation (q : Relation) (cs : List Char) :
    ¬ EndsArgument (q.applicative.toList ++ cs) := by
  intro ends
  have blank : ' ' = ',' ∨ ' ' = ')' := ends ' ' (by cases q <;> rfl)
  revert blank
  decide

/-- Neither sign of a relation starts with the other. -/
theorem relation_unique {q q' : Relation}
    (same : q.applicative.toList ++ r = q'.applicative.toList ++ s) : q = q' ∧ r = s := by
  have second : (q.applicative.toList ++ r)[1]? = (q'.applicative.toList ++ s)[1]? :=
    congrArg (·[1]?) same
  cases q with
  | eq =>
      cases q' with
      | eq => exact ⟨rfl, List.append_cancel_left same⟩
      | ne => exact absurd (Option.some.inj second) (by decide)
  | ne =>
      cases q' with
      | eq => exact absurd (Option.some.inj second) (by decide)
      | ne => exact ⟨rfl, List.append_cancel_left same⟩

/-- Behind an argument there is a comma or the closing bracket. -/
theorem endsArgument_furtherChars (vs : List Reading) (cs : List Char) :
    EndsArgument (furtherChars vs ++ cs) := by
  intro c member
  cases vs with
  | nil => exact .inr (Option.some.inj member).symm
  | cons v vs => exact .inl (Option.some.inj member).symm

/-- A name ends before the first character that does not continue it. -/
theorem name_unique {x y : String} (left : isIdentifier x = true) (right : isIdentifier y = true)
    (ends : Ends r) (ends' : Ends s) (same : x.toList ++ r = y.toList ++ s) : x = y ∧ r = s := by
  have parts {z : String} (named : isIdentifier z = true) :
      ∀ c ∈ z.toList, isIdentifierPart c = true := by
    obtain ⟨c, cs, spelled, parts⟩ := exists_parts_of_isIdentifier named
    rwa [spelled]
  have names : x.toList = y.toList := by
    rw [← takeWhile_append (parts left) ends, same, takeWhile_append (parts right) ends']
  rw [names] at same
  exact ⟨String.toList_inj.mp names, List.append_cancel_left same⟩

/-- What can be read starts like a name. -/
theorem exists_start : (v : Reading) → v.Legible → ∃ c cs, v.chars = c :: cs ∧
    isIdentifierPart c = true
  | .bare name, named => by
      obtain ⟨c, cs, spelled, parts⟩ := exists_parts_of_isIdentifier named
      exact ⟨c, cs, spelled, parts c List.mem_cons_self⟩
  | .call name args, ⟨named, _⟩ => by
      obtain ⟨c, cs, spelled, parts⟩ := exists_parts_of_isIdentifier named
      exact ⟨c, _, by rw [chars, spelled, List.cons_append], parts c List.mem_cons_self⟩
  | .related q lhs rhs, ⟨⟨_, left⟩, _⟩ => by
      obtain ⟨c, cs, spelled, part⟩ := exists_start lhs left
      exact ⟨c, _, by rw [chars, spelled, List.cons_append], part⟩

/-- No closing bracket is the start of an argument. -/
theorem closing_ne (legible : v.Legible) : ')' :: r ≠ v.chars ++ s := by
  obtain ⟨c, cs, spelled, part⟩ := v.exists_start legible
  rw [spelled, List.cons_append]
  intro same
  obtain rfl := (List.cons.inj same).1
  revert part
  decide

/-- A tree is found again in a text that starts with it. Behind the sides of a relation anything may
come but the rest of a name or arguments. -/
def ReadsAlone (v : Reading) : Prop :=
  ∀ ⦃w r s⦄, w.IsOperand → w.Legible → Stops r → Stops s → v.chars ++ r = w.chars ++ s →
    v = w ∧ r = s

/-- The same for an argument, behind which only its end may come. -/
def ReadsInside (v : Reading) : Prop :=
  ∀ ⦃w r s⦄, w.Legible → EndsArgument r → EndsArgument s → v.chars ++ r = w.chars ++ s →
    v = w ∧ r = s

/-- The same for arguments with the bracket that closes them, behind which anything may come. -/
def ReadsArguments (vs : List Reading) : Prop :=
  ∀ ⦃ws r s⦄, AllLegible ws → argumentChars vs ++ r = argumentChars ws ++ s → vs = ws ∧ r = s

/-- The same for all arguments but the first. -/
def ReadsFurther (vs : List Reading) : Prop :=
  ∀ ⦃ws r s⦄, AllLegible ws → furtherChars vs ++ r = furtherChars ws ++ s → vs = ws ∧ r = s

/-- A name that is not followed by a bracket or by more of a name is read in one way. -/
theorem readsAlone_bare {x : String} (named : isIdentifier x = true) : ReadsAlone (.bare x) := by
  intro w r s operand legible stops follows same
  cases w with
  | bare y =>
      obtain ⟨rfl, rest⟩ := name_unique named legible stops.ends follows.ends same
      exact ⟨rfl, rest⟩
  | call y args =>
      rw [chars, chars, List.append_assoc, List.cons_append] at same
      obtain ⟨_, rfl⟩ := name_unique named legible.1 stops.ends (ends_cons.mpr (by decide)) same
      exact absurd rfl (stops '(' rfl).2
  | related q lhs rhs => exact operand.elim

/-- A call is read in one way if its arguments are. -/
theorem readsAlone_call {x : String} (named : isIdentifier x = true)
    (reads : ReadsArguments vs) : ReadsAlone (.call x vs) := by
  intro w r s operand legible stops follows same
  have opening (cs : List Char) : Ends ('(' :: cs) := ends_cons.mpr (by decide)
  cases w with
  | bare y =>
      rw [chars, chars, List.append_assoc, List.cons_append] at same
      obtain ⟨_, rfl⟩ := name_unique named legible (opening _) follows.ends same
      exact absurd rfl (follows '(' rfl).2
  | call y ws =>
      rw [chars, chars, List.append_assoc, List.append_assoc, List.cons_append,
        List.cons_append] at same
      obtain ⟨rfl, args⟩ := name_unique named legible.1 (opening _) (opening _) same
      obtain ⟨rfl, rest⟩ := reads legible.2 (List.cons.inj args).2
      exact ⟨rfl, rest⟩
  | related q lhs rhs => exact operand.elim

/-- What stands alone and is at its end there is no side of a relation. -/
theorem ReadsAlone.inside (reads : ReadsAlone v) : ReadsInside v := by
  intro w r s legible ends ends' same
  cases w with
  | related q lhs rhs =>
      -- the sign of the relation would be the end of an argument
      rw [chars, List.append_assoc, List.append_assoc] at same
      obtain ⟨_, rfl⟩ := reads legible.1.1 legible.1.2 ends.stops (stops_relation q _) same
      exact absurd ends (not_endsArgument_relation q _)
  | bare y => exact reads (w := .bare y) trivial legible ends.stops ends'.stops same
  | call y ws => exact reads (w := .call y ws) trivial legible ends.stops ends'.stops same

/-- A relation between two readings is told from a single reading by what follows the first. -/
theorem readsInside_related {q : Relation} (left : ReadsAlone v) (right : ReadsAlone w) :
    ReadsInside (.related q v w) := by
  intro u r s legible ends ends' same
  rw [chars, List.append_assoc, List.append_assoc] at same
  have whole {u : Reading} (operand : u.IsOperand) (legible : u.Legible) :
      v.chars ++ (q.applicative.toList ++ (w.chars ++ r)) ≠ u.chars ++ s := by
    intro same
    obtain ⟨_, rfl⟩ := left operand legible (stops_relation q _) ends'.stops same
    exact not_endsArgument_relation q _ ends'
  cases u with
  | bare y => exact absurd same (whole trivial legible)
  | call y ws => exact absurd same (whole trivial legible)
  | related q' lhs rhs =>
      rw [chars, List.append_assoc, List.append_assoc] at same
      obtain ⟨rfl, behind⟩ :=
        left legible.1.1 legible.1.2 (stops_relation q _) (stops_relation q' _) same
      obtain ⟨rfl, sides⟩ := relation_unique behind
      obtain ⟨rfl, rest⟩ := right legible.2.1 legible.2.2 ends.stops ends'.stops sides
      exact ⟨rfl, rest⟩

theorem readsFurther_nil : ReadsFurther [] := by
  intro ws r s legible same
  cases ws with
  | nil => exact ⟨rfl, (List.cons.inj same).2⟩
  | cons w ws => exact absurd (List.cons.inj same).1 (by decide)

theorem readsArguments_nil : ReadsArguments [] := by
  intro ws r s legible same
  cases ws with
  | nil => exact ⟨rfl, (List.cons.inj same).2⟩
  | cons w ws =>
      rw [argumentChars, argumentChars, List.append_assoc] at same
      exact absurd same (closing_ne legible.1)

/-- The first argument and those behind it. -/
theorem ReadsInside.cons (reads : ReadsInside v) (others : ReadsFurther vs) (legible : w.Legible)
    (legible' : AllLegible ws)
    (same : v.chars ++ (furtherChars vs ++ r) = w.chars ++ (furtherChars ws ++ s)) :
    v :: vs = w :: ws ∧ r = s := by
  obtain ⟨rfl, behind⟩ := reads legible (endsArgument_furtherChars vs r)
    (endsArgument_furtherChars ws s) same
  obtain ⟨rfl, rest⟩ := others legible' behind
  exact ⟨rfl, rest⟩

/-- A comma is followed by one more argument and then by the further ones. -/
theorem ReadsInside.further (reads : ReadsInside v) (others : ReadsFurther vs) :
    ReadsFurther (v :: vs) := by
  intro ws r s legible same
  cases ws with
  | nil => exact absurd (List.cons.inj same).1 (by decide)
  | cons w ws =>
      simp only [furtherChars, List.cons_append, List.append_assoc] at same
      exact reads.cons others legible.1 legible.2 (List.cons.inj (List.cons.inj same).2).2

/-- Without a comma in front, a first argument is told from the closing bracket. -/
theorem ReadsInside.arguments (legible : v.Legible) (reads : ReadsInside v)
    (others : ReadsFurther vs) : ReadsArguments (v :: vs) := by
  intro ws r s legible' same
  cases ws with
  | nil =>
      rw [argumentChars, argumentChars, List.append_assoc] at same
      exact absurd same.symm (closing_ne legible)
  | cons w ws =>
      rw [argumentChars, argumentChars, List.append_assoc, List.append_assoc] at same
      exact reads.cons others legible'.1 legible'.2 same

mutual

/-- A tree is found again in its text, in front of everything that ends an argument. -/
theorem inside : (v : Reading) → v.Legible → (v.IsOperand → ReadsAlone v) ∧ ReadsInside v
  | .bare _, named => ⟨fun _ => readsAlone_bare named, (readsAlone_bare named).inside⟩
  | .call _ args, ⟨named, parts⟩ =>
      have reads := readsAlone_call named (arguments args parts).1
      ⟨fun _ => reads, reads.inside⟩
  | .related _ lhs rhs, ⟨⟨first, left⟩, second, right⟩ =>
      ⟨False.elim, readsInside_related ((inside lhs left).1 first) ((inside rhs right).1 second)⟩

/-- Arguments in brackets are read in one way. -/
theorem arguments : (vs : List Reading) → AllLegible vs → ReadsArguments vs ∧ ReadsFurther vs
  | [], _ => ⟨readsArguments_nil, readsFurther_nil⟩
  | v :: vs, ⟨first, others⟩ =>
      have reads := (inside v first).2
      have further := (arguments vs others).2
      ⟨reads.arguments first further, reads.further further⟩

end

/-- Different trees have different texts. -/
theorem chars_injective (left : v.Legible) (right : w.Legible) (same : v.chars = w.chars) :
    v = w := by
  have nothing : EndsArgument [] := fun _ member => nomatch member
  exact ((v.inside left).2 right nothing nothing (by rw [same])).1

end Reading

namespace Term

mutual

/-- A term as a tree of names and arguments. -/
def reading : Term → Reading
  | .sym name => .bare name
  | .app name args => .call name (readings args)
  | .foreign value => .bare value.innerText

def readings : List Term → List Reading
  | [] => []
  | t :: ts => t.reading :: readings ts

end

mutual

/-- The reading of a term has the characters of the term. -/
theorem chars_reading : (t : Term) → t.reading.chars = (t.write .spaced).toList
  | .sym _ => rfl
  | .app name args => by
      rw [reading, Reading.chars, argumentChars_readings args, write, Marks.enclose]
      simp only [Marks.spaced, String.toList_append, List.append_assoc]
      rfl
  | .foreign _ => rfl

/-- The arguments of a term are written with commas between them, up to the closing bracket. -/
theorem argumentChars_readings : (ts : List Term) → Reading.argumentChars (readings ts) =
    (String.intercalate ", " (writeList .spaced ts)).toList ++ [')']
  | [] => rfl
  | [t] => by
      rw [readings, Reading.argumentChars, chars_reading t, writeList, writeList,
        String.intercalate_singleton]
      rfl
  | t :: u :: ts => by
      have others := argumentChars_readings (u :: ts)
      rw [readings, Reading.argumentChars, writeList] at others
      rw [readings, readings, Reading.argumentChars, Reading.furtherChars, others,
        chars_reading t, writeList, writeList, String.intercalate_cons_cons]
      simp only [String.toList_append, List.append_assoc]
      rfl

end

/-- Terms are not relations. -/
theorem isOperand_reading (t : Term) : t.reading.IsOperand := by
  cases t <;> trivial

mutual

/-- A term of the logic is legible if its names are identifiers. -/
theorem legible_reading : (t : Term) → t.foreignValues = [] →
    (∀ x ∈ t.names, isIdentifier x = true) → t.reading.Legible
  | .sym name, _, named => named name List.mem_cons_self
  | .app name args, empty, named =>
      ⟨named name List.mem_cons_self,
        allLegible_readings args empty fun x member => named x (List.mem_cons_of_mem name member)⟩

theorem allLegible_readings : (ts : List Term) → foreignValuesList ts = [] →
    (∀ x ∈ namesList ts, isIdentifier x = true) → Reading.AllLegible (readings ts)
  | [], _, _ => trivial
  | t :: ts, empty, named =>
      have ⟨first, others⟩ := List.append_eq_nil_iff.mp empty
      ⟨legible_reading t first fun x member => named x (List.mem_append_left _ member),
        allLegible_readings ts others fun x member => named x (List.mem_append_right _ member)⟩

end

mutual

/-- A term of the logic is known from its tree. -/
theorem reading_injective : (t u : Term) → t.foreignValues = [] → u.foreignValues = [] →
    t.reading = u.reading → t = u
  | .sym x, .sym y, _, _, same => by
      rw [Reading.bare.inj same]
  | .app f ts, .app g us, empty, empty', same => by
      obtain ⟨rfl, args⟩ := Reading.call.inj same
      rw [readings_injective ts us empty empty' args]

/-- Lists of terms of the logic are told apart by their readings. -/
theorem readings_injective : (ts us : List Term) → foreignValuesList ts = [] →
    foreignValuesList us = [] → readings ts = readings us → ts = us
  | [], [], _, _, _ => rfl
  | t :: ts, u :: us, empty, empty', same => by
      obtain ⟨first, others⟩ := List.append_eq_nil_iff.mp empty
      obtain ⟨first', others'⟩ := List.append_eq_nil_iff.mp empty'
      obtain ⟨head, tail⟩ := List.cons.inj same
      rw [reading_injective t u first first' head, readings_injective ts us others others' tail]

end

end Term

namespace Atom

def reading : Atom → Reading
  | .pred name [] => .bare name
  | .pred name args => .call name (Term.readings args)
  | .relation r lhs rhs => .related r lhs.reading rhs.reading

/-- The reading of an atom has the characters of the atom. -/
theorem chars_reading (a : Atom) : a.reading.chars = a.applicative.toList := by
  cases a with
  | pred name args =>
      cases args with
      | nil => rfl
      | cons t ts =>
          rw [reading, Reading.chars, Term.argumentChars_readings, applicative, write,
            Term.Marks.enclose]
          · simp only [Term.Marks.spaced, String.toList_append, List.append_assoc]
            rfl
          · exact List.cons_ne_nil t ts
          · exact List.cons_ne_nil t ts
  | relation r lhs rhs =>
      rw [reading, Reading.chars, lhs.chars_reading, rhs.chars_reading, applicative, write]
      simp only [String.toList_append, List.append_assoc]

/-- An atom is legible if its predicate and the names in its terms are identifiers. -/
theorem legible_reading {a : Atom} (empty : a.foreignValues = [])
    (named : ∀ x ∈ a.names, isIdentifier x = true)
    (predicate : ∀ x ∈ a.predicate?, isIdentifier x = true) : a.reading.Legible := by
  cases a with
  | pred name args =>
      rw [foreignValues, terms, ← Term.foreignValuesList_eq_flatMap] at empty
      rw [names, terms, ← Term.namesList_eq_flatMap] at named
      cases args with
      | nil => exact predicate name rfl
      | cons t ts => exact ⟨predicate name rfl, Term.allLegible_readings (t :: ts) empty named⟩
  | relation r lhs rhs =>
      obtain ⟨left, right⟩ := List.append_eq_nil_iff.mp empty
      have right : rhs.foreignValues = [] := (List.append_nil _).symm.trans right
      refine ⟨⟨lhs.isOperand_reading, lhs.legible_reading left fun x member => ?_⟩,
        rhs.isOperand_reading, rhs.legible_reading right fun x member => ?_⟩
      · exact named x (List.mem_flatMap_of_mem List.mem_cons_self member)
      · exact named x
          (List.mem_flatMap_of_mem (List.mem_cons_of_mem lhs List.mem_cons_self) member)

/-- Of the atoms only a predicate has a name in front of brackets. -/
theorem predicate?_of_reading {a : Atom} {name : String} {args : List Reading}
    (same : a.reading = .call name args) : a.predicate? = some name := by
  cases a with
  | pred name' ts =>
      cases ts with
      | nil => cases same
      | cons t ts => exact congrArg some (Reading.call.inj same).1
  | relation r lhs rhs => cases same

/-- Atoms without foreign values are told apart by their readings. -/
theorem reading_injective {a b : Atom} (empty : a.foreignValues = [])
    (empty' : b.foreignValues = [])
    (same : a.reading = b.reading) : a = b := by
  have terms {a : Atom} (empty : a.foreignValues = []) : Term.foreignValuesList a.terms = [] :=
    (Term.foreignValuesList_eq_flatMap a.terms).trans empty
  rcases a with ⟨name, _ | ⟨t, ts⟩⟩ | ⟨r, lhs, rhs⟩ <;>
    rcases b with ⟨name', _ | ⟨u, us⟩⟩ | ⟨r', lhs', rhs'⟩ <;> try cases same
  · rfl
  · obtain ⟨rfl, args⟩ := Reading.call.inj same
    rw [Term.readings_injective (t :: ts) (u :: us) (terms empty) (terms empty') args]
  · obtain ⟨rfl, left, right⟩ := Reading.related.inj same
    have sides := Term.readings_injective [lhs, rhs] [lhs', rhs'] (terms empty) (terms empty')
      (congrArg₂ (fun v w => [v, w]) left right)
    obtain ⟨rfl, others⟩ := List.cons.inj sides
    obtain ⟨rfl, _⟩ := List.cons.inj others
    rfl

end Atom

/-- The names of the operators of formulas in the applicative notation. -/
def operatorLabels : List String := ["Not", "And", "Or", "Implies", "Equivalent", "All", "Ex"]

/-- Connectives are told apart by their labels. -/
theorem Connective.label_injective {c d : Connective} (same : c.label = d.label) : c = d := by
  have distinct : ∀ c ∈ [Connective.junction .and, .junction .or, .implies, .iff],
      ∀ d ∈ [Connective.junction .and, .junction .or, .implies, .iff],
        c.label = d.label → c = d := by decide
  exact distinct c (by rcases c with (_ | _) | _ | _ <;> decide) d
    (by rcases d with (_ | _) | _ | _ <;> decide) same

theorem Quantifier.label_injective {q r : Quantifier} (same : q.label = r.label) : q = r := by
  cases q <;> cases r <;> first | rfl | exact absurd same (by decide)

/-- No connective has the label of a quantifier. -/
theorem Connective.label_ne (c : Connective) (q : Quantifier) : c.label ≠ q.label := by
  rcases c with (_ | _) | _ | _ <;> cases q <;> decide

theorem Connective.label_ne_not (c : Connective) : c.label ≠ "Not" := by
  rcases c with (_ | _) | _ | _ <;> decide

theorem Quantifier.label_ne_not (q : Quantifier) : q.label ≠ "Not" := by
  cases q <;> decide

theorem Connective.label_mem (c : Connective) : c.label ∈ operatorLabels := by
  rcases c with (_ | _) | _ | _ <;> decide

theorem Quantifier.label_mem (q : Quantifier) : q.label ∈ operatorLabels := by
  cases q <;> decide

namespace Formula

/-- A formula as a tree of names and arguments. -/
def reading : Formula → Reading
  | .atom a => a.reading
  | .neg f => .call "Not" [f.reading]
  | .binary c f g => .call c.label [f.reading, g.reading]
  | .quant q x f => .call q.label [.bare x, f.reading]

/-- The reading of a formula has the characters of the formula. -/
theorem chars_reading (f : Formula) : f.reading.chars = f.applicative.toList := by
  induction f with
  | atom a => exact a.chars_reading
  | neg f ih =>
      simp only [reading, Reading.chars, Reading.argumentChars, Reading.furtherChars, ih,
        applicative, String.toList_append, List.append_assoc]
      rfl
  | binary c f g ihf ihg =>
      simp only [reading, Reading.chars, Reading.argumentChars, Reading.furtherChars, ihf, ihg,
        applicative, String.toList_append, List.append_assoc]
      rfl
  | quant q x f ih =>
      simp only [reading, Reading.chars, Reading.argumentChars, Reading.furtherChars, ih,
        applicative, String.toList_append, List.append_assoc]
      rfl

/-- All names are identifiers, and all terms are terms of the logic. -/
structure Legible (f : Formula) : Prop where
  logical : f.foreignValues = []
  names : ∀ x ∈ f.names, isIdentifier x = true
  predicates : ∀ x ∈ f.predicates, isIdentifier x = true

variable {f g : Formula}

/-- A formula without foreign values is legible if all its names and predicates are identifiers. -/
theorem Legible.of_named (logical : f.foreignValues = [])
    (named : ∀ x ∈ f.names ++ f.predicates, isIdentifier x = true) : f.Legible :=
  have ⟨names, predicates⟩ := List.forall_mem_append.mp named
  ⟨logical, names, predicates⟩

theorem legible_neg : (neg f).Legible ↔ f.Legible :=
  ⟨fun legible => ⟨legible.logical, legible.names, legible.predicates⟩,
    fun legible => ⟨legible.logical, legible.names, legible.predicates⟩⟩

theorem legible_binary {c : Connective} : (binary c f g).Legible ↔ f.Legible ∧ g.Legible := by
  have values : (binary c f g).foreignValues = f.foreignValues ++ g.foreignValues :=
    List.flatMap_append
  have preds : (binary c f g).predicates = f.predicates ++ g.predicates := List.filterMap_append
  constructor
  · rintro ⟨logical, named, predicates⟩
    rw [values, List.append_eq_nil_iff] at logical
    rw [preds, List.forall_mem_append] at predicates
    rw [Formula.names, List.forall_mem_append] at named
    exact ⟨⟨logical.1, named.1, predicates.1⟩, logical.2, named.2, predicates.2⟩
  · rintro ⟨left, right⟩
    constructor
    · rw [values, left.logical, right.logical, List.append_nil]
    · exact List.forall_mem_append.mpr ⟨left.names, right.names⟩
    · rw [preds]
      exact List.forall_mem_append.mpr ⟨left.predicates, right.predicates⟩

/-- A quantified formula is legible if its variable is an identifier and its scope is legible. -/
theorem legible_quant {q : Quantifier} {x : String} :
    (quant q x f).Legible ↔ isIdentifier x = true ∧ f.Legible := by
  constructor
  · rintro ⟨logical, named, predicates⟩
    obtain ⟨first, others⟩ := List.forall_mem_cons.mp named
    exact ⟨first, logical, others, predicates⟩
  · rintro ⟨first, legible⟩
    exact ⟨legible.logical, List.forall_mem_cons.mpr ⟨first, legible.names⟩, legible.predicates⟩

/-- The reading of an atom of a legible formula is legible. -/
theorem legible_atom {a : Atom} (legible : (atom a).Legible) : a.reading.Legible := by
  refine Atom.legible_reading ?_ legible.names fun x member => legible.predicates x ?_
  · exact List.flatMap_eq_nil_iff.mp legible.logical a List.mem_cons_self
  · exact List.mem_filterMap.mpr ⟨a, List.mem_cons_self, member⟩

/-- The labels of operators are identifiers. -/
theorem label_identifier {label : String} (known : label ∈ operatorLabels) :
    isIdentifier label = true := by
  revert label
  decide

/-- The reading of a legible formula is legible. -/
theorem Legible.reading (legible : f.Legible) : f.reading.Legible := by
  induction f with
  | atom a => exact legible_atom legible
  | neg f ih => exact ⟨label_identifier (by decide), ih (legible_neg.mp legible), trivial⟩
  | binary c f g ihf ihg =>
      obtain ⟨left, right⟩ := legible_binary.mp legible
      exact ⟨label_identifier c.label_mem, ihf left, ihg right, trivial⟩
  | quant q x f ih =>
      obtain ⟨named, scope⟩ := legible_quant.mp legible
      exact ⟨label_identifier q.label_mem, named, ih scope, trivial⟩

end Formula

/-- The terms of the atom are terms of the logic, and its predicate is no operator. -/
structure Atom.Unmistakable (a : Atom) : Prop where
  logical : a.foreignValues = []
  predicate : ∀ x ∈ a.predicate?, x ∉ operatorLabels

/-- An atom with a predicate of its own does not read like the application of an operator. -/
theorem Atom.Unmistakable.ne_call {a : Atom} (unmistakable : a.Unmistakable) {label : String}
    (known : label ∈ operatorLabels) {args : List Reading} : a.reading ≠ .call label args :=
  fun same => unmistakable.predicate label (predicate?_of_reading same) known

namespace Formula

variable {f g : Formula}

/-- A formula of such atoms is known from its tree. -/
theorem eq_of_reading (left : ∀ a ∈ f.atoms, a.Unmistakable) (right : ∀ a ∈ g.atoms, a.Unmistakable)
    (same : f.reading = g.reading) : f = g := by
  have atom_ne {a : Atom} (unmistakable : ∀ b ∈ [a], b.Unmistakable) {label : String}
      (known : label ∈ operatorLabels) {args : List Reading} : a.reading ≠ .call label args :=
    (unmistakable a List.mem_cons_self).ne_call known
  -- the operator of `f` is the one of `g`: its name and the number of arguments tell
  induction f generalizing g with
  | atom a =>
      cases g with
      | atom b =>
          exact congrArg atom (Atom.reading_injective (left a List.mem_cons_self).logical
            (right b List.mem_cons_self).logical same)
      | neg g => exact absurd same (atom_ne left (by decide))
      | binary d g k => exact absurd same (atom_ne left d.label_mem)
      | quant r y g => exact absurd same (atom_ne left r.label_mem)
  | neg f ih =>
      cases g with
      | atom b => exact absurd same.symm (atom_ne right (by decide))
      | neg g =>
          obtain ⟨scope, _⟩ := List.cons.inj (Reading.call.inj same).2
          exact congrArg neg (ih (g := g) left right scope)
      | binary d g k => exact absurd (Reading.call.inj same).1.symm (d.label_ne_not)
      | quant r y g => exact absurd (Reading.call.inj same).1.symm (r.label_ne_not)
  | binary c f h ihf ihh =>
      cases g with
      | atom b => exact absurd same.symm (atom_ne right c.label_mem)
      | neg g => exact absurd (Reading.call.inj same).1 (c.label_ne_not)
      | binary d g k =>
          obtain ⟨label, args⟩ := Reading.call.inj same
          obtain ⟨first, others⟩ := List.cons.inj args
          obtain ⟨left, left'⟩ := List.forall_mem_append.mp left
          obtain ⟨right, right'⟩ := List.forall_mem_append.mp right
          rw [Connective.label_injective label, ihf left right first,
            ihh left' right' (List.cons.inj others).1]
      | quant r y g => exact absurd (Reading.call.inj same).1 (c.label_ne r)
  | quant q x f ih =>
      cases g with
      | atom b => exact absurd same.symm (atom_ne right q.label_mem)
      | neg g => exact absurd (Reading.call.inj same).1 (q.label_ne_not)
      | binary d g k => exact absurd (Reading.call.inj same).1.symm (d.label_ne q)
      | quant r y g =>
          obtain ⟨label, args⟩ := Reading.call.inj same
          obtain ⟨bound, others⟩ := List.cons.inj args
          rw [Quantifier.label_injective label, Reading.bare.inj bound,
            ih (g := g) left right (List.cons.inj others).1]

/-- A formula is taken as it is if it is one of the logic, and is refused otherwise. -/
theorem withTerms_eq_ok_iff : f.withTerms = .ok g ↔ f.foreignValues = [] ∧ f = g := by
  constructor
  · intro taken
    rw [withTerms] at taken
    cases values : f.foreignValues with
    | nil =>
        rw [values] at taken
        exact ⟨rfl, Except.ok.inj taken⟩
    | cons value others =>
        rw [values, requireNoForeign] at taken
        cases wording : value.text? <;> (rw [wording] at taken; cases taken)
  · rintro ⟨empty, rfl⟩
    exact withTerms_of_foreignValues_eq_nil empty

/-- A formula can be written exactly if it has no foreign values. -/
theorem applicative?_eq_ok_iff {text : String} :
    f.applicative? = .ok text ↔ f.foreignValues = [] ∧ f.applicative = text := by
  constructor
  · intro shown
    rw [applicative?] at shown
    cases taken : f.withTerms with
    | error e =>
        rw [taken] at shown
        cases shown
    | ok g =>
        obtain ⟨empty, rfl⟩ := withTerms_eq_ok_iff.mp taken
        rw [taken] at shown
        exact ⟨empty, Except.ok.inj shown⟩
  · rintro ⟨empty, rfl⟩
    rw [applicative?, withTerms_of_foreignValues_eq_nil empty]
    rfl

/-- Atoms are unmistakable if no predicate is called like an operator. -/
theorem unmistakable_of_predicates (logical : f.foreignValues = [])
    (others : ∀ x ∈ f.predicates, x ∉ operatorLabels) : ∀ a ∈ f.atoms, a.Unmistakable :=
  fun a member =>
    ⟨List.flatMap_eq_nil_iff.mp logical a member,
      fun x predicate => others x (List.mem_filterMap.mpr ⟨a, member, predicate⟩)⟩

/-- Two formulas with identifiers for names, of which no predicate has the name of an operator, are
the same if they have the same text in the applicative notation. -/
theorem eq_of_applicative {text : String}
    (named : ∀ x ∈ f.names ++ f.predicates, isIdentifier x = true)
    (named' : ∀ x ∈ g.names ++ g.predicates, isIdentifier x = true)
    (others : ∀ x ∈ f.predicates, x ∉ operatorLabels)
    (others' : ∀ x ∈ g.predicates, x ∉ operatorLabels)
    (shown : f.applicative? = .ok text) (shown' : g.applicative? = .ok text) : f = g := by
  obtain ⟨logical, written⟩ := applicative?_eq_ok_iff.mp shown
  obtain ⟨logical', written'⟩ := applicative?_eq_ok_iff.mp shown'
  have legible := Legible.of_named logical named
  have legible' := Legible.of_named logical' named'
  have chars : f.reading.chars = g.reading.chars := by
    rw [chars_reading, chars_reading, written, written']
  have trees : f.reading = g.reading :=
    Reading.chars_injective legible.reading legible'.reading chars
  exact eq_of_reading (unmistakable_of_predicates logical others)
    (unmistakable_of_predicates logical' others') trees

/-- The functions may have the names of operators. -/
theorem eq_of_applicative_operator_named :
    let scope : Formula := .atom (.relation .eq (.app "Not" [.sym "x"]) (.app "And" []))
    let text := "Ex(x, Not(x) == And())"
    (scope.quantify [⟨.ex, "x"⟩]).applicative? = .ok text ∧
      (quant .ex "x" scope).applicative? = .ok text ∧
      scope.quantify [⟨.ex, "x"⟩] = .quant .ex "x" scope := by
  intro scope text
  have shown : (scope.quantify [⟨.ex, "x"⟩]).applicative? = .ok text := by decide
  have shown' : (quant .ex "x" scope).applicative? = .ok text := by decide
  exact ⟨shown, shown', eq_of_applicative (by decide) (by decide) (by decide) (by decide)
    shown shown'⟩

end Formula

end Clausal
