import Clausal.Proofs.DistributedForms
import Clausal.Proofs.Identifiers
import Clausal.Proofs.RoundTrip

/-!
# Reading clauses back

Literals are written in a notation of their own, without spaces and with every relation in brackets.
It can be read back (`Literal.written_text`, `Literal.written_latex`), and so can the disjunction
that a line of a displayed list of clauses shows between braces (`Clause.parse_braced`). Put one
after the other with a command for a conjunction between them, these disjunctions are read as a
formula whose clauses are the ones that were displayed (`parse_displayed`).
-/

namespace Clausal

open Grammar

variable {ls ms : List Lexeme} {l : Lexeme}

/-- A command with blanks before and after it. -/
def spacedCommand (before : Nat) (name : String) (after : Nat) : String :=
  String.ofList (List.replicate before ' ' ++ '\\' :: (name.toList ++ List.replicate after ' '))

section

variable {name : String} {before after : Nat}

/-- A command ends a name, also with blanks in front of it. -/
theorem ends_spacedCommand (rest : List Char) :
    Ends ((spacedCommand before name after).toList ++ rest) := by
  rw [spacedCommand, String.toList_ofList, List.append_assoc]
  cases before with
  | zero => exact Style.ends_backslash _
  | succ before => exact ends_cons.mpr (by decide)

/-- A command with blanks around it is one token. -/
theorem lexed_spacedCommand {rest : List Char} (known : commands.lookup name = some l)
    (ends : EndsCommand (List.replicate after ' ' ++ rest)) (lexed : Lexed rest ms) :
    Lexed ((spacedCommand before name after).toList ++ rest) (l :: ms) := by
  rw [spacedCommand, String.toList_ofList, List.append_assoc, List.cons_append, List.append_assoc]
  exact Style.lexed_blanks before (.command name known ends (Style.lexed_blanks after lexed))

/-- In front of what ends a name, a command needs no blank after it. -/
theorem separates_spacedCommand (before after : Nat) (known : commands.lookup name = some l) :
    Separates (spacedCommand before name after) [l] where
  scans rest ms ends lexed := by
    refine lexed_spacedCommand known ?_ lexed
    cases after with
    | zero => exact endsCommand_of_ends ends
    | succ after => exact endsCommand_cons.mpr (by decide)
  ends := ends_spacedCommand

/-- A command with a blank behind it is a sign. -/
theorem isSign_spacedCommand (before : Nat) (name : String) (after : Nat)
    (known : commands.lookup name = some l) :
    IsSign (spacedCommand before name (after + 1)) [l] where
  scans _ _ lexed := lexed_spacedCommand known (endsCommand_cons.mpr (by decide)) lexed
  ends := ends_spacedCommand

end

section

variable {α : Type} {operand : List Lexeme → Formula → Prop} {c : Connective} {sign : String}
  {text : α → String} {form : α → Formula} {others : List α}

/-- Behind what was written so far, every operand comes after a sign. -/
theorem exists_further (tail : ∀ x ∈ others, ∃ ls, operand ls (form x) ∧
      Separates (sign ++ text x) (.connective c :: ls))
    {sofar : String} (scans : Scans sofar ls) :
    ∃ ms, Further (.connective c) operand ms (others.map form) ∧
      Scans (String.intercalate sign (sofar :: others.map text)) (ls ++ ms) := by
  induction others generalizing sofar ls with
  | nil =>
      refine ⟨[], .none, ?_⟩
      rwa [List.map_nil, String.intercalate_singleton, List.append_nil]
  | cons x others ih =>
      obtain ⟨⟨ks, spelled, separates⟩, later⟩ := List.forall_mem_cons.mp tail
      -- The sign and the operand behind it join what was written so far.
      obtain ⟨ms, following, whole⟩ := ih later (scans.append separates)
      refine ⟨_, .some spelled following, ?_⟩
      rw [List.append_assoc, String.intercalate_cons_append,
        String.intercalate_cons_append] at whole
      rw [List.map_cons, String.intercalate_cons_cons, String.append_assoc]
      exact whole

/-- Operands with a sign for a connective between them are joined from left to right. -/
theorem Written.joined {first : α} (head : Written operand (text first) (form first))
    (tail : ∀ x ∈ others, ∃ ls, operand ls (form x) ∧
      Separates (sign ++ text x) (.connective c :: ls)) :
    Written (Level c operand) (String.intercalate sign (text first :: others.map text))
      ((others.map form).foldl (.binary c) (form first)) := by
  obtain ⟨ls, spelled, scans⟩ := head
  obtain ⟨ms, following, whole⟩ := exists_further tail scans
  exact ⟨ls ++ ms, .fold spelled following, whole⟩

end

/-- The infix notation of literals, without spaces. -/
def Style.tight : Style :=
  { Style.unicode with marks := .tight, relation := Literal.relationSign, negation := "~" }

/-- A relation of a literal is one sign. -/
theorem Style.isSign_tight_relation (r : Relation) : IsSign (tight.relation r) [.relation r] := by
  cases r with
  | eq => exact isSign_padded 0 0 (c := '=') (by decide) rfl
  | ne => exact isSign_padded 0 0 (c := '≠') (by decide) rfl

/-- The notation of literals can be read. -/
theorem Style.readable_tight : tight.Readable where
  opening := isSign_padded 0 0 (c := '(') (by decide) rfl
  separator := isSign_padded 0 0 (c := ',') (by decide) rfl
  closing := isSign_padded 0 0 (c := ')') (by decide) rfl
  relation := isSign_tight_relation
  negation := isSign_padded 0 0 (c := '~') (by decide) rfl
  connective := isSign_unicode_connective
  quantifier := isSign_unicode_quantifier
  afterVariable := readable_unicode.afterVariable

namespace Literal

variable {l : Literal}

/-- A literal is its atom or the negation of it. -/
theorem toFormula_eq (l : Literal) :
    l.toFormula = if l.isPositive then .atom l.atom else .neg (.atom l.atom) := by
  obtain ⟨a, negated⟩ := l
  cases negated <;> rfl

/-- A relation is an operand because of its brackets, as the predicates are without. -/
theorem written_atomText (spellable : l.atom.Spellable (isIdentifier · = true)) :
    Written SpellsOperand l.atomText (.atom l.atom) := by
  obtain ⟨ls, spelled, scans⟩ := l.atom.written Style.readable_tight spellable
  have operand : SpellsOperand ls (.atom l.atom) := .atom spelled
  obtain ⟨a, negated⟩ := l
  cases a with
  | pred name args => exact ⟨ls, operand, scans⟩
  | relation r lhs rhs =>
      refine ⟨_, .group (Levels.single operand), ?_⟩
      exact (Style.readable_tight.opening.before scans).before Style.readable_tight.closing

/-- Both notations put a sign for the negation before the atom. -/
theorem written_of_negation (spellable : l.atom.Spellable (isIdentifier · = true)) {sign : String}
    (isSign : IsSign sign [.neg]) :
    Written SpellsOperand (if l.negated then sign ++ l.atomText else l.atomText) l.toFormula := by
  obtain ⟨ls, spelled, scans⟩ := written_atomText spellable
  rw [toFormula]
  cases l.negated with
  | false => exact ⟨ls, spelled, scans⟩
  | true => exact ⟨.neg :: ls, .neg spelled, isSign.before scans⟩

/-- A literal is scanned into tokens that spell it. -/
theorem written_text (spellable : l.atom.Spellable (isIdentifier · = true)) :
    Written SpellsOperand l.text l.toFormula :=
  written_of_negation spellable Style.readable_tight.negation

/-- A literal for typesetting is scanned into tokens that spell it. -/
theorem written_latex (spellable : l.atom.Spellable (isIdentifier · = true)) :
    Written SpellsOperand l.latex l.toFormula :=
  written_of_negation spellable (isSign_spacedCommand 0 "lnot" 0 rfl)

end Literal

namespace Formula

/-- What is collected from formulas that stand for one item each is collected in their order when
they are joined from left to right. -/
theorem collect_foldl {α : Type} {j : Junction} {collect : Formula → Except Formula (List α)}
    (joined : ∀ f g left right, collect f = .ok left → collect g = .ok right →
      collect (junction j f g) = .ok (left ++ right)) {form : α → Formula} {f : Formula}
    {done others : List α} (first : collect f = .ok done)
    (single : ∀ x ∈ others, collect (form x) = .ok [x]) :
    collect ((others.map form).foldl (junction j) f) = .ok (done ++ others) := by
  induction others generalizing f done with
  | nil => rwa [List.map_nil, List.foldl_nil, List.append_nil]
  | cons x others ih =>
      obtain ⟨head, tail⟩ := List.forall_mem_cons.mp single
      have listed := ih (joined _ _ _ _ first head) tail
      rwa [List.append_assoc, List.singleton_append] at listed

end Formula

/-- A literal is the only one of its formula. -/
theorem Literal.literals_toFormula (l : Literal) : l.toFormula.literals = .ok [l] := by
  obtain ⟨a, negated⟩ := l
  cases negated <;> rfl

namespace Clause

/-- The literals of a clause joined from left to right. The empty clause is not written as a
formula. -/
def disjunction : Clause → Formula
  | [] => default
  | l :: others => (others.map Literal.toFormula).foldl Formula.or l.toFormula

/-- The literals of a clause between braces, as a line shows them. -/
def braced (c : Clause) : String :=
  "\\\x7b " ++ String.intercalate " \\lor " (c.map Literal.latex) ++ " \\\x7d"

variable {c : Clause} {cs : List Clause}

/-- A clause has the literals of its disjunction. -/
theorem literals_disjunction (filled : c ≠ []) : c.disjunction.literals = .ok c := by
  cases c with
  | nil => exact absurd rfl filled
  | cons l others =>
      exact Formula.collect_foldl
        (fun _ _ _ _ left right => Formula.literals_or.mpr ⟨_, _, left, right, rfl⟩)
        l.literals_toFormula fun m _ => m.literals_toFormula

/-- The disjunction of a clause has that clause only. -/
theorem clauses_disjunction (filled : c ≠ []) : c.disjunction.clauses = .ok [c] := by
  have listed := literals_disjunction filled
  exact (Formula.clauses_of_not_and (Formula.whole_of_literals listed)).mpr ⟨c, listed, rfl⟩

/-- The clauses of disjunctions that are joined by conjunctions are those of the disjunctions. -/
theorem clauses_conjunction (first : c ≠ []) (others : ∀ d ∈ cs, d ≠ []) :
    ((cs.map disjunction).foldl Formula.and c.disjunction).clauses = .ok (c :: cs) :=
  Formula.collect_foldl
    (fun _ _ _ _ left right => Formula.clauses_and.mpr ⟨_, _, left, right, rfl⟩)
    (clauses_disjunction first) fun d member => clauses_disjunction (others d member)

/-- A line shows the number of a clause and then the clause in braces. -/
theorem displayLine_eq (number : Nat) (c : Clause) :
    displayLine number (c.map Literal.latex) = Nat.repr number ++ ".\\;" ++ c.braced := by
  have marks : ".\\;\\\x7b " = ".\\;" ++ "\\\x7b " := rfl
  simp only [displayLine, braced, marks, String.append_assoc]

/-- Lines are numbered from one on, and every number stands before the literals in their braces. -/
theorem displayClauses_eq (cs : List Clause) :
    displayClauses cs = String.intercalate " \\\\ "
      (cs.mapIdx fun i c => Nat.repr (i + 1) ++ ".\\;" ++ c.braced) := by
  have lines (number : Nat) : displayLines number (cs.map (·.map Literal.latex)) =
      cs.mapIdx fun i c => Nat.repr (i + number) ++ ".\\;" ++ c.braced := by
    induction cs generalizing number with
    | nil => rfl
    | cons c cs ih =>
        rw [List.map_cons, displayLines, List.mapIdx_cons, ih, displayLine_eq, Nat.zero_add]
        simp only [Nat.add_right_comm _ 1 number, Nat.add_assoc]
  rw [displayClauses, displayTexts, lines]

/-- An escaped opening brace is a bracket. -/
theorem isSign_braced_opening : IsSign "\\\x7b " [.opening] where
  scans rest ms lexed := by
    change Lexed ('\\' :: '\x7b' :: ' ' :: rest) _
    exact .brace (by decide) (.blank (by decide) lexed)
  ends _ := Style.ends_backslash _

theorem isSign_braced_closing : IsSign " \\\x7d" [.closing] where
  scans rest ms lexed := by
    change Lexed (' ' :: '\\' :: '\x7d' :: rest) _
    exact .blank (by decide) (.brace (by decide) lexed)
  ends _ := ends_cons.mpr (by decide)

/-- Between its braces a disjunction is an operand, and what stands next to it may be a command. -/
theorem exists_sign_braced (filled : c ≠ [])
    (spellable : ∀ l ∈ c, l.atom.Spellable (isIdentifier · = true)) :
    ∃ ls, SpellsOperand ls c.disjunction ∧ IsSign c.braced ls := by
  cases c with
  | nil => exact absurd rfl filled
  | cons l others =>
      obtain ⟨first, later⟩ := List.forall_mem_cons.mp spellable
      have isSign_or := isSign_spacedCommand 1 "lor" 0 rfl
      have single {m : Literal} (spellable : m.atom.Spellable (isIdentifier · = true)) :
          Written (Level (.junction .and) SpellsOperand) m.latex m.toFormula := by
        obtain ⟨ls, spelled, scans⟩ := Literal.written_latex spellable
        exact ⟨ls, Level.single spelled, scans⟩
      obtain ⟨ls, spelled, scans⟩ := Written.joined (c := .junction .or) (single first)
        fun m member => by
          obtain ⟨ks, spelled, scans⟩ := single (later m member)
          exact ⟨ks, spelled, isSign_or.separates_before scans⟩
      exact ⟨_, .group (Level.single (Level.single spelled)),
        isSign_braced_opening.enclose scans isSign_braced_closing⟩

/-- A clause in braces is read as its disjunction. -/
theorem parse_braced (filled : c ≠ [])
    (spellable : ∀ l ∈ c, l.atom.Spellable (isIdentifier · = true)) :
    Formula.parse c.braced = .ok c.disjunction := by
  obtain ⟨ls, spelled, sign⟩ := exists_sign_braced filled spellable
  exact Formula.parse_of_written (Written.formula ⟨ls, spelled, sign.separates.scans⟩)

/-- The disjunctions of clauses with a command for a conjunction between them. -/
theorem parse_conjunction {name : String}
    (known : commands.lookup name = some (.connective (.junction .and))) (before after : Nat)
    (filled : ∀ d ∈ c :: cs, d ≠ [])
    (spellable : ∀ d ∈ c :: cs, ∀ l ∈ d, l.atom.Spellable (isIdentifier · = true)) :
    Formula.parse (String.intercalate (spacedCommand before name after) ((c :: cs).map braced)) =
      .ok ((cs.map disjunction).foldl Formula.and c.disjunction) := by
  have operands (d : Clause) (member : d ∈ c :: cs) :
      ∃ ls, SpellsOperand ls d.disjunction ∧ IsSign d.braced ls :=
    exists_sign_braced (filled d member) (spellable d member)
  have separates := separates_spacedCommand before after known
  obtain ⟨first, later⟩ := List.forall_mem_cons.mp operands
  obtain ⟨ls, spelled, sign⟩ := first
  obtain ⟨ms, whole, scans⟩ := Written.joined (c := .junction .and)
    ⟨ls, spelled, sign.separates.scans⟩ fun d member => by
      obtain ⟨ks, spelled, sign⟩ := later d member
      exact ⟨ks, spelled, separates.append sign.separates⟩
  exact Formula.parse_of_written ⟨ms, Level.single (Level.single (Level.single whole)), scans⟩

end Clause

/-- Of clauses with literals, whose names are identifiers and whose applications have arguments,
every literal is read back from both of its texts. The display has a numbered line for every clause,
and the text between braces in it is read as the disjunction of the literals. These texts with a
command for a conjunction between them are read as a formula of which the clauses are listed as they
were. -/
theorem parse_displayed {cs : List Clause} (nonempty : cs ≠ []) (filled : ∀ c ∈ cs, c ≠ [])
    (spellable : ∀ c ∈ cs, ∀ l ∈ c, l.atom.Spellable (isIdentifier · = true)) :
    (∀ c ∈ cs, ∀ l ∈ c,
        Formula.parse l.text = .ok (if l.isPositive then .atom l.atom else .neg (.atom l.atom)) ∧
        Formula.parse l.latex =
          .ok (if l.isPositive then .atom l.atom else .neg (.atom l.atom))) ∧
      displayClauses cs = String.intercalate " \\\\ "
        (cs.mapIdx fun i c => Nat.repr (i + 1) ++ ".\\;" ++ c.braced) ∧
      (∀ c ∈ cs, Formula.parse c.braced = .ok c.disjunction) ∧
      ∀ before name after, commands.lookup name = some (.connective (.junction .and)) →
        ∃ f, Formula.parse
            (String.intercalate (spacedCommand before name after) (cs.map Clause.braced)) = .ok f ∧
          f.clauses? = .ok cs := by
  refine ⟨fun c inside l member => ?_, Clause.displayClauses_eq cs, fun c inside => ?_,
    fun before name after known => ?_⟩
  · have named := spellable c inside l member
    rw [← l.toFormula_eq]
    exact ⟨Formula.parse_of_written (Literal.written_text named).formula,
      Formula.parse_of_written (Literal.written_latex named).formula⟩
  · exact Clause.parse_braced (filled c inside) (spellable c inside)
  · obtain ⟨c, others, rfl⟩ := List.exists_cons_of_ne_nil nonempty
    obtain ⟨first, later⟩ := List.forall_mem_cons.mp filled
    have listed := Clause.clauses_conjunction first later
    exact ⟨_, Clause.parse_conjunction known before after filled spellable,
      Formula.clauses?_of_clauses listed⟩

/-- Relations are written without spaces and in brackets, and a bare command stands between the
braces of the two clauses. -/
theorem parse_displayed_relations :
    displayClauses
        [[⟨.relation .eq (.sym "x") (.app "f" [.sym "y", .sym "c"]), true⟩,
          ⟨.relation .ne (.sym "x") (.sym "y"), false⟩], [⟨.pred "P" [.sym "x"], false⟩]] =
      "1.\\;\\\x7b \\lnot (x=f(y,c)) \\lor (x≠y) \\\x7d \\\\ 2.\\;\\\x7b P(x) \\\x7d" ∧
    Formula.parse "\\\x7b \\lnot (x=f(y,c)) \\lor (x≠y) \\\x7d" =
      .ok (.or (.neg (.atom (.relation .eq (.sym "x") (.app "f" [.sym "y", .sym "c"]))))
        (.atom (.relation .ne (.sym "x") (.sym "y")))) ∧
    ∃ f, Formula.parse
        "\\\x7b \\lnot (x=f(y,c)) \\lor (x≠y) \\\x7d\\land\\\x7b P(x) \\\x7d" = .ok f ∧
      f.clauses? = .ok
        [[⟨.relation .eq (.sym "x") (.app "f" [.sym "y", .sym "c"]), true⟩,
          ⟨.relation .ne (.sym "x") (.sym "y"), false⟩], [⟨.pred "P" [.sym "x"], false⟩]] := by
  let c : Clause := [⟨.relation .eq (.sym "x") (.app "f" [.sym "y", .sym "c"]), true⟩,
    ⟨.relation .ne (.sym "x") (.sym "y"), false⟩]
  let d : Clause := [⟨.pred "P" [.sym "x"], false⟩]
  have filled : ∀ e ∈ [c, d], e ≠ [] := by decide
  have spellable : ∀ e ∈ [c, d], ∀ l ∈ e, l.atom.Spellable (isIdentifier · = true) := by
    simp only [c, d, List.forall_mem_cons, List.not_mem_nil, IsEmpty.forall_iff, implies_true,
      and_true, Atom.Spellable, Term.Spellable, Term.SpellableList, ne_eq, reduceCtorEq,
      not_false_eq_true]
    decide
  obtain ⟨_, display, disjunction, conjunction⟩ :=
    parse_displayed (List.cons_ne_nil c [d]) filled spellable
  exact ⟨display.trans (by decide +kernel), disjunction c List.mem_cons_self,
    conjunction 0 "land" 0 rfl⟩

end Clausal
