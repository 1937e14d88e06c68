import MachineDescriptor.Xml.Writer

/-!
Scripts: lists of steps for a writer, given as data. Every step of a script is taken, also after one
that failed, and what is seen after each step is kept; the steps inside an element or a closed
stretch end at the first that fails.
-/
namespace MachineDescriptor.Xml

/-- One step of a script. -/
inductive Step where
  | startDocument
  | endElement
  | endDocument
  | close
  /-- asks for the text of a writer in memory -/
  | value
  | comment (text : String)
  | startElement (name : String)
  | setAttribute (name : String) (value : Value)
  | text (value : Value)
  | singleElement (name : String) (value : Value)
  | emptyElement (name : String) (attributes : Context)
  | element (name : String) (attributes : Context) (body : List Step)
  /-- a stretch after which the writer is closed -/
  | closing (body : List Step)
  /-- closes the stream without the writer -/
  | closeStream

variable {σ : Type} [Stream σ]

/-- Closes the stream of a writer and leaves the writer out of it. -/
def closeStream : Action σ Unit := fun w =>
  match (Stream.close : EStateM Fault σ Unit) w.stream with
  | .ok _ stream => .ok () { w with stream }
  | .error f stream => .error (.fault f) { w with stream }

/-- An action that answers nothing. -/
def silently (a : Action σ Unit) : Action σ (Option String) := do
  a
  pure none

mutual

/-- Takes one step; only the question for the text has an answer. -/
def Step.run : Step → Action σ (Option String)
  | .startDocument => silently Xml.startDocument
  | .endElement => silently Xml.endElement
  | .endDocument => silently Xml.endDocument
  | .close => silently Xml.close
  | .value => do
    let s ← contents
    pure (some s)
  | .comment s => silently (Xml.comment s)
  | .startElement name => silently (Xml.startElement name)
  | .setAttribute name v => silently (Xml.setAttribute name v)
  | .text v => silently (Xml.text v)
  | .singleElement name v => silently (Xml.singleElement name v)
  | .emptyElement name attributes => silently (Xml.emptyElement name attributes.entries)
  | .element name attributes body =>
    silently (Xml.element name attributes.entries (Step.runAll body))
  | .closing body => silently (Xml.closing (Step.runAll body))
  | .closeStream => silently Xml.closeStream

/-- Takes steps up to the first that fails. -/
def Step.runAll : List Step → Action σ Unit
  | [] => pure ()
  | s :: rest => do
    let _ ← Step.run s
    Step.runAll rest

end

/-- What is seen after a step: its outcome, the text that was added where the text can be told, and
the place in the document. -/
structure Sight where
  outcome : Except Failure (Option String)
  added : Option String
  location : String
  depth : Nat

/-- The text that a stream holds beyond so many characters. -/
def addedSince (length : Nat) (s : σ) : Option String :=
  match Stream.value s with
  | .ok text => some (String.ofList (text.toList.drop length))
  | .error _ => none

/-- The length of a stream's text as far as it can be told. -/
def lengthOf (s : σ) : Nat :=
  match Stream.value s with
  | .ok text => text.length
  | .error _ => 0

/-- What is seen after each step of a script, and the writer at the end. -/
def perform : List Step → Writer σ → List Sight × Writer σ
  | [], w => ([], w)
  | s :: rest, w =>
    let (outcome, after) := outcomeOf s.run w
    let sight : Sight :=
      ⟨outcome, addedSince (lengthOf w.stream) after.stream, after.location, after.depth⟩
    let (sights, last) := perform rest after
    (sight :: sights, last)

/-- Closes a writer that is still open at the end of its script. -/
def finish (w : Writer σ) : Option (Except Failure Unit) × Writer σ :=
  if w.path.isSome && !Stream.isClosed w.stream then
    let (outcome, w) := outcomeOf close w
    (some outcome, w)
  else (none, w)

end MachineDescriptor.Xml
