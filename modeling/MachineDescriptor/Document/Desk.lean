import MachineDescriptor.Log.Journal
import MachineDescriptor.Xml.Writer

/-!
The desk at which a document is written: the paper that it goes on, the tree of files that it is
written from and possibly into, and the journal that keeps track of the work. The paper is a stream
in memory or an open file of the tree.
-/
namespace MachineDescriptor.Document

open Xml (Stream Memory Action)

structure Desk (κ : Type) where
  paper : κ
  tree : Files.Tree
  journal : Log.Journal

namespace Desk

variable {κ : Type}

/-- A step on the paper and the tree, taken at the desk. -/
def onPaper (step : EStateM Fault (κ × Files.Tree) Unit) : EStateM Fault (Desk κ) Unit := fun d =>
  match step (d.paper, d.tree) with
  | .ok _ (paper, tree) => .ok () { d with paper, tree }
  | .error f (paper, tree) => .error f { d with paper, tree }

end Desk

/-- A step on a stream in memory, which leaves the tree alone. -/
def besideTree (step : EStateM Fault Memory Unit) : EStateM Fault (Memory × Files.Tree) Unit :=
  fun (m, t) =>
    match step m with
    | .ok _ m => .ok () (m, t)
    | .error f m => .error f (m, t)

instance : Stream (Memory × Files.Tree) where
  write s := besideTree (Memory.write s)
  flush := besideTree Memory.flush
  close := besideTree Memory.close
  isClosed s := s.1.closed
  value s := s.1.value

instance {κ : Type} [Stream (κ × Files.Tree)] : Stream (Desk κ) where
  write s := Desk.onPaper (Stream.write s)
  flush := Desk.onPaper Stream.flush
  close := Desk.onPaper Stream.close
  isClosed d := Stream.isClosed (d.paper, d.tree)
  value d := Stream.value (d.paper, d.tree)

/-- What is done at a desk. -/
abbrev Work (κ : Type) := Action (Desk κ)

section

variable {κ : Type}

/-- Works on the journal and the tree. -/
def onJournal (step : Log.Journal.Placed → Log.Journal.Placed) : Work κ Unit := modify fun w =>
  let (journal, tree) := step (w.stream.journal, w.stream.tree)
  { w with stream := { w.stream with journal, tree } }

/-- Lets a speaker say something in the journal. -/
def say (speaker : Log.Speaker) (level : Log.Level) (template : String) (arguments : List Value) :
    Work κ Unit :=
  onJournal (Log.Journal.say speaker level template arguments none)

/-- The tree as it is at present. -/
def theTree : Work κ Files.Tree := do
  let w ← get
  pure w.stream.tree

end

end MachineDescriptor.Document
