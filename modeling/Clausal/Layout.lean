/-!
# Laying out text in groups

A text with places where it may be broken is laid out within a width. The places
belong to groups, and groups are nested. As long as everything fits on the line
each place becomes a space; when the line gets too long, the outermost group
with a place still undecided is broken, and all its places become line ends with
the indentation that holds there.

The layout is computed as the text arrives. What cannot be decided yet waits in
a queue of pending items, and the groups wait in lists by their depth.
-/

namespace Clausal.Layout

/-- One step of a text to be laid out. -/
inductive Step where
  | text (s : String)
  /-- A place where the innermost open group may be broken. -/
  | breakable
  | lineEnd
  | opening (indent : Nat)
  | closing (indent : Nat)
  deriving DecidableEq

/-- A group: how many groups are around it, how many of its places are
undecided, and whether it is broken. -/
structure Group where
  depth : Nat
  undecided : Nat
  broken : Bool

/-- Something that waits to be written: text, or a place of a group with the
indentation that a line end would have there. Groups are known by number. -/
inductive Item where
  | text (s : String)
  | place (indent : Nat) (group : Nat)

/-- The width of an item that does not end the line. -/
def Item.width : Item → Nat
  | .text s => s.length
  | .place _ _ => 1

/-- The state of a layout: the greatest width of a line, what is written, the
width of its last line, what is pending, the indentation, the open groups from
the innermost on, the groups that may be broken by their depth, and all groups
by number. -/
structure State where
  limit : Int
  written : String
  column : Nat
  pending : List Item
  indent : Nat
  stack : List Nat
  queue : List (List Nat)
  groups : List Group

namespace State

/-- The state before the first step: one group that holds everything. -/
def start (limit : Int) : State := ⟨limit, "", 0, [], 0, [0], [[0]], [⟨0, 0, false⟩]⟩

def group (s : State) (g : Nat) : Group := s.groups.getD g ⟨0, 0, false⟩

def innermost (s : State) : Nat := s.stack.headD 0

def pendingWidth (s : State) : Nat := s.pending.foldr (fun item width => item.width + width) 0

/-- Changes one group. -/
def modifyGroup (s : State) (g : Nat) (change : Group → Group) : State :=
  { s with groups := s.groups.modify g change }

/-- A group without undecided places is not waiting to be broken. -/
def dropGroup (s : State) (g : Nat) : State :=
  { s with queue := s.queue.modify (s.group g).depth fun waiting => waiting.erase g }

def newline (s : State) (indent : Nat) : State :=
  { s with
    written := s.written ++ "\n" ++ String.ofList (List.replicate indent ' ')
    column := indent }

def append (s : State) (text : String) : State :=
  { s with written := s.written ++ text, column := s.column + text.length }

/-- Writes an item. A place becomes a line end in a broken group and a space in
any other. -/
def write (s : State) : Item → State
  | .text text => s.append text
  | .place indent g =>
      let s := s.modifyGroup g fun group => { group with undecided := group.undecided - 1 }
      if (s.group g).broken then s.newline indent
      else (if (s.group g).undecided = 0 then s.dropGroup g else s).append " "

/-- Writes pending items, at most `bound`, as long as the first of them meets
the condition in the state before it. -/
def writeWhile (condition : State → Item → Bool) : (bound : Nat) → State → State
  | 0, s => s
  | bound + 1, s =>
      match s.pending with
      | [] => s
      | item :: rest =>
          if condition s item then
            writeWhile condition bound ({ s with pending := rest }.write item)
          else s

/-- Writes pending items until a group has no undecided place, and then the text
up to the next place. -/
def settle (s : State) (g : Nat) : State :=
  let settled := writeWhile (fun s _ => (s.group g).undecided ≠ 0) s.pending.length s
  writeWhile (fun _ item => match item with | .text _ => true | .place _ _ => false)
    settled.pending.length settled

def flush (s : State) : State := writeWhile (fun _ _ => true) s.pending.length s

/-- The group to break in the lists of waiting groups, from the outermost depth
on, with the lists that remain and the groups that are passed over. In a list
the last group with an undecided place is taken. The entry that leaves the list
is the one that stands as far from its front as the group taken stands from its
back. A list without such a group is passed over and emptied. -/
def nextToBreak (groups : Nat → Group) :
    List (List Nat) → Option Nat × List (List Nat) × List Nat
  | [] => (none, [], [])
  | waiting :: deeper =>
      let newest := waiting.reverse
      let index := newest.findIdx fun g => (groups g).undecided ≠ 0
      match newest[index]? with
      | some g => (some g, waiting.eraseIdx index :: deeper, [])
      | none =>
          let (found, deeper, passed) := nextToBreak groups deeper
          (found, [] :: deeper, waiting ++ passed)

/-- Breaks the outermost group that can be broken, and tells which it was. -/
def breakNext (s : State) : Option Nat × State :=
  let (found, queue, passed) := nextToBreak s.group s.queue
  let s := { s with queue }
  let s := passed.foldl (fun s g => s.modifyGroup g fun group => { group with broken := true }) s
  match found with
  | some g => (some g, s.modifyGroup g fun group => { group with broken := true })
  | none => (none, s)

/-- Breaks the outermost group that can be broken, writes everything up to its
last place, and then ends the line. -/
def endLine (s : State) : State :=
  let s :=
    match s.breakNext with
    | (some g, s) => s.settle g
    | (none, s) => s
  s.flush.newline s.indent

/-- Breaks groups, at most `bound`, while the line is too long. Each group
takes a pending place with it. -/
def fit : (bound : Nat) → State → State
  | 0, s => s
  | bound + 1, s =>
      if s.limit < ((s.column + s.pendingWidth : Nat) : Int) then
        match s.breakNext with
        | (some g, s) => fit bound (s.settle g)
        | (none, s) => s
      else s

def push (s : State) (item : Item) : State :=
  let s := { s with pending := s.pending ++ [item] }
  fit (s.pending.length + 1) s

/-- Takes one step. -/
def step (s : State) : Step → State
  | .text text => if s.pending.isEmpty then s.append text else s.push (.text text)
  | .breakable =>
      let g := s.innermost
      if (s.group g).broken then s.flush.newline s.indent
      else
        (s.modifyGroup g fun group => { group with undecided := group.undecided + 1 }).push
          (.place s.indent g)
  | .lineEnd => s.endLine
  | .opening indent =>
      let depth := (s.group s.innermost).depth + 1
      let g := s.groups.length
      let queue := s.queue ++ List.replicate (depth + 1 - s.queue.length) []
      { s with
        indent := s.indent + indent
        stack := g :: s.stack
        groups := s.groups ++ [⟨depth, 0, false⟩]
        queue := queue.modify depth (· ++ [g]) }
  | .closing indent =>
      let g := s.innermost
      let s := { s with indent := s.indent - indent, stack := s.stack.tail }
      if (s.group g).undecided = 0 then s.dropGroup g else s

end State

def render (width : Int) (steps : List Step) : String :=
  (steps.foldl State.step (.start width)).flush.written

end Clausal.Layout
