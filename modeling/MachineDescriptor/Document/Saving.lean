import MachineDescriptor.Document.Writing

/-!
Producing a document, as a text or in a file. A file that was begun and could not be finished is
removed again; devices are left alone, and where the removal is denied, this is noted and the first
failure stands.
-/
namespace MachineDescriptor.Document

open Xml

/-- The document as a text. -/
def render (o : Order) (tree : Files.Tree) (journal : Log.Journal) :
    Except Failure String × Desk Memory :=
  let (outcome, w) := outcomeOf (do write o; contents)
    (Writer.inMemory ⟨Memory.empty, tree, journal⟩ defaultIndent)
  (outcome, w.stream)

/-- Removes a file that was begun, if it is a regular one. -/
def removeBegun (speaker : Log.Speaker) (path : Files.Path) (p : Log.Journal.Placed) :
    Log.Journal.Placed :=
  match p.2.isFile path with
  | .ok true =>
    match p.2.remove path with
    | .ok tree => (p.1, tree)
    | .error why =>
      Log.Journal.say speaker Log.trace "could not remove partial %s: %s"
        [.text path.toString, .text why.message] none p
  | _ => p

/-- Writes the document to a file and answers its path. -/
def save (o : Order) (path : Files.Path) (p : Log.Journal.Placed) :
    Except Failure String × Log.Journal.Placed :=
  let (journal, tree) :=
    Log.Journal.say o.speaker Log.trace "writing %s" [.text path.toString] none p
  match openFile path tree with
  | .error f tree => (.error f, (journal, tree))
  | .ok handle tree =>
    let desk : Desk Files.Handle := ⟨{ handle with letters := o.letters }, tree, journal⟩
    let (outcome, w) := outcomeOf (closing (write o)) (Writer.onFile desk path defaultIndent)
    let placed : Log.Journal.Placed := (w.stream.journal, w.stream.tree)
    match outcome with
    | .ok _ => (.ok path.toString, placed)
    | .error f => (.error f, removeBegun o.speaker path placed)

end MachineDescriptor.Document
