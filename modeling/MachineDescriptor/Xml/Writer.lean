import MachineDescriptor.Report
import MachineDescriptor.Xml.Escape
import MachineDescriptor.Xml.Name
import MachineDescriptor.Xml.Stream

/-!
A writer of one XML document, forward only. Elements are opened and closed one by one, attributes
go to the start tag that is still open, and every failure is a report that names the operation and
the place in the document. A document has its declaration, comments, and one root element; children
stand on lines of their own, text stands on the line of its element, and an element with neither
closes itself.
-/
namespace MachineDescriptor.Xml

/-- An element that is not closed yet: whether its start tag is still open, and whether it has got
text or children. -/
structure Open where
  name : String
  tagOpen : Bool
  hasText : Bool
  hasChildren : Bool
deriving DecidableEq

/-- A writer: its stream, the white space of one level, the path of the file it writes if there is
one, the open elements from the innermost out, and how far the document has got. -/
structure Writer (σ : Type) where
  stream : σ
  indent : String
  path : Option String
  stack : List Open
  started : Bool
  ended : Bool
  hasRoot : Bool

/-- What a writer does, or fails to do. -/
abbrev Action (σ : Type) := EStateM Failure (Writer σ)

/-- The operations that reports name. -/
inductive Operation where
  | opening
  | startDocument
  | comment
  | startElement
  | setAttribute
  | text
  | endElement
  | endDocument
  | closing
deriving DecidableEq

def Operation.name : Operation → String
  | opening => "open"
  | startDocument => "start_document"
  | comment => "comment"
  | startElement => "start_element"
  | setAttribute => "attribute"
  | text => "text"
  | endElement => "end_element"
  | endDocument => "end_document"
  | closing => "close"

/-- Whether an operation expects a fault of its stream. Closing expects faults of the system only,
and everything else also what is wrong with a value. -/
def Operation.expects (op : Operation) (f : Fault) : Bool :=
  f.isOfSystem || op != .closing && f.isOfValue

/-- The white space of one level where no other is asked for. -/
def defaultIndent : String := "  "

namespace Writer

variable {σ : Type}

/-- A writer at the start of its document. -/
def fresh (stream : σ) (indent : String) (path : Option String) : Writer σ :=
  ⟨stream, indent, path, [], false, false, false⟩

/-- The names of the open elements from the root in, each after a slash. -/
def location (w : Writer σ) : String :=
  "/" ++ String.intercalate "/" (w.stack.reverse.map Open.name)

def depth (w : Writer σ) : Nat := w.stack.length

/-- The white space in front of something at a depth. -/
def margin (w : Writer σ) (depth : Nat) : String :=
  String.join (List.replicate depth w.indent)

/-- What a report about an operation says of the writer. -/
def contextOf (w : Writer σ) (op : Operation) : Context :=
  Context.ofList ([("op", .text op.name), ("where", .text w.location)] ++
    match w.path with
    | some p => [("path", .text p)]
    | none => [])

/-- The report that an operation fails. -/
def failure (w : Writer σ) (op : Operation) (reason : String) (cause : Option Report.Cause) :
    Failure :=
  .report (Report.ofMessage .writer
    ("error constructing XML near call to " ++ String.ofList (Text.quoted op.name.toList) ++ ": " ++
      reason) cause (w.contextOf op))

/-- The failure of an operation whose stream answers with a fault: a report with the fault as its
cause, or the fault itself where the operation does not expect it. -/
def rejection (w : Writer σ) (op : Operation) (f : Fault) : Failure :=
  if op.expects f then w.failure op f.message (some f.asCause) else .fault f

/-- No other fault comes out where a stream answers with one. -/
theorem rejection_ne_fault (w : Writer σ) (op : Operation) {f g : Fault} (other : f ≠ g) :
    w.rejection op f ≠ .fault g := by
  unfold rejection
  split
  · nofun
  · exact fun same => other (Failure.fault.inj same)

end Writer

section

variable {σ : Type}

/-- Refuses an operation. -/
def refuse (op : Operation) (reason : String) : Action σ Unit := fun w =>
  .error (w.failure op reason none) w

/-- A step on the stream; when it fails, the operation fails for it. -/
def onStream (op : Operation) (step : EStateM Fault σ Unit) : Action σ Unit := fun w =>
  match step w.stream with
  | .ok _ stream => .ok () { w with stream }
  | .error f stream =>
    let w := { w with stream }
    .error (w.rejection op f) w

variable [Stream σ]

/-- Puts a text on the stream. -/
def emit (op : Operation) (s : String) : Action σ Unit := onStream op (Stream.write s)

/-- Refuses an operation outside of the document. -/
def requireDocument (op : Operation) : Action σ Unit := do
  let w ← get
  if !w.started then refuse op "document not started"
  else if w.ended then refuse op "document already ended"

/-- Changes the innermost open element. -/
def modifyTop (f : Open → Open) : Action σ Unit := modify fun w =>
  match w.stack with
  | top :: rest => { w with stack := f top :: rest }
  | [] => w

/-- Ends the start tag of the innermost element if it is still open. -/
def closeStartTag (op : Operation) (ending : String) : Action σ Unit := do
  match (← get).stack with
  | top :: _ =>
    if top.tagOpen then
      modifyTop fun e => { e with tagOpen := false }
      emit op ending
  | [] => pure ()

/-- Refuses to mix text and children in one element. -/
def refuseMixed (op : Operation) (e : Open) : Action σ Unit :=
  refuse op ("mixed content is not supported in <" ++ e.name ++ ">")

/-- Makes ready for a child of the innermost element. -/
def beginChild (op : Operation) : Action σ Unit := do
  match (← get).stack with
  | [] => pure ()
  | parent :: _ =>
    if parent.hasText then refuseMixed op parent
    else
      closeStartTag op ">\n"
      modifyTop fun e => { e with hasChildren := true }

/-- The first line of every document. -/
def declaration : String := "<?xml version=\"1.0\" encoding=\"UTF-8\"?>\n"

/-- Starts the document with its declaration. -/
def startDocument : Action σ Unit := do
  if (← get).started then refuse .startDocument "document already started"
  else
    modify fun w => { w with started := true }
    emit .startDocument declaration

/-- Puts a comment on a line of its own. -/
def comment (text : String) : Action σ Unit := do
  requireDocument .comment
  if !isComment text.toList then
    refuse .comment "comment text may not contain '--' or end with '-'"
  else
    beginChild .comment
    let w ← get
    emit .comment (w.margin w.depth ++ "<!--" ++ text ++ "-->\n")

/-- Opens an element. -/
def startElement (name : String) : Action σ Unit := do
  requireDocument .startElement
  let w ← get
  if !isName name.toList then
    refuse .startElement ("invalid element name " ++ String.ofList (Text.quoted name.toList))
  else if w.stack.isEmpty && w.hasRoot then
    refuse .startElement "document already has a root element"
  else
    beginChild .startElement
    let w ← get
    emit .startElement (w.margin w.depth ++ "<" ++ name)
    modify fun w => { w with stack := ⟨name, true, false, false⟩ :: w.stack, hasRoot := true }

/-- The escaped text of a value. -/
def escaped (v : Value) : Action σ String := fun w =>
  match escapeValue v with
  | .ok cs => .ok (String.ofList cs) w
  | .error f => .error (.fault (.integer f)) w

/-- Gives an attribute to the start tag that is still open. -/
def setAttribute (name : String) (value : Value) : Action σ Unit := do
  requireDocument .setAttribute
  let tagOpen := match (← get).stack with
    | top :: _ => top.tagOpen
    | [] => false
  if !tagOpen then
    refuse .setAttribute
      ("attribute " ++ String.ofList (Text.quoted name.toList) ++ " outside of a start tag")
  else if !isName name.toList then
    refuse .setAttribute ("invalid attribute name " ++ String.ofList (Text.quoted name.toList))
  else
    emit .setAttribute (" " ++ name ++ "=\"" ++ (← escaped value) ++ "\"")

/-- Adds text to the innermost element. -/
def text (value : Value) : Action σ Unit := do
  requireDocument .text
  match (← get).stack with
  | [] => refuse .text "text outside of the root element"
  | top :: _ =>
    if top.hasChildren then refuseMixed .text top
    else
      closeStartTag .text ">"
      modifyTop fun e => { e with hasText := true }
      emit .text (← escaped value)

/-- Closes the innermost element. -/
def endElement : Action σ Unit := do
  requireDocument .endElement
  let w ← get
  match w.stack with
  | [] => refuse .endElement "no open element"
  | top :: _ =>
    emit .endElement
      (if top.tagOpen then "/>\n"
        else if top.hasText then "</" ++ top.name ++ ">\n"
        else w.margin (w.depth - 1) ++ "</" ++ top.name ++ ">\n")
    modify fun w => { w with stack := w.stack.tail }

/-- Closes so many elements from the innermost out. -/
def endElements : Nat → Action σ Unit
  | 0 => pure ()
  | n + 1 => do
    endElement
    endElements n

/-- Closes every open element, ends the document and flushes the stream. -/
def endDocument : Action σ Unit := do
  requireDocument .endDocument
  endElements (← get).stack.length
  modify fun w => { w with ended := true }
  onStream .endDocument Stream.flush

/-- Opens an element, gives it attributes in their order, runs the body, and closes the element if
the body did not fail. -/
def element (name : String) (attributes : List (String × Value)) (body : Action σ Unit) :
    Action σ Unit := do
  startElement name
  attributes.forM fun a => setAttribute a.1 a.2
  body
  endElement

/-- An element with text only. -/
def singleElement (name : String) (value : Value) : Action σ Unit := do
  startElement name
  text value
  endElement

/-- An element with attributes only. -/
def emptyElement (name : String) (attributes : List (String × Value)) : Action σ Unit :=
  element name attributes (pure ())

/-- Closes the stream of a writer that opened a file itself; on a second time nothing happens. -/
def close : Action σ Unit := do
  let w ← get
  if w.path.isSome && !Stream.isClosed w.stream then onStream .closing Stream.close

/-- Runs a body and closes the writer whether or not the body failed. -/
def closing {α : Type} (body : Action σ α) : Action σ α := fun w =>
  match body w with
  | .ok a w =>
    match close w with
    | .ok _ w => .ok a w
    | .error e w => .error e w
  | .error e w =>
    match close w with
    | .ok _ w => .error e w
    | .error e w => .error e w

/-- The text of a writer in memory. -/
def contents : Action σ String := fun w =>
  match Stream.value w.stream with
  | .ok s => .ok s w
  | .error f => .error (.fault f) w

/-- What an action comes to, and the writer after it. -/
def outcomeOf {α : Type} (a : Action σ α) (w : Writer σ) : Except Failure α × Writer σ :=
  match a w with
  | .ok a w => (.ok a, w)
  | .error f w => (.error f, w)

end

/-- A writer on a stream in memory. -/
def Writer.inMemory {σ : Type} (stream : σ) (indent : String) : Writer σ :=
  .fresh stream indent none

/-- Opens a file to write a document to, or reports that this is not possible. -/
def openFile (path : Files.Path) : EStateM Failure Files.Tree Files.Handle := fun tree =>
  if path.hasNull then .error (.fault .nullInPath) tree
  else
    match tree.openTo true path with
    | .ok (target, tree) => .ok (Files.Handle.atStart target) tree
    | .error r =>
      let cause : Report.Cause := ⟨r.kind, .ok r.message⟩
      .error (.report (Report.ofMessage .writer
        ("cannot open XML destination " ++ path.toString ++ ": " ++ r.reason) (some cause)
        (Context.ofList [("op", .text Operation.opening.name), ("where", .text "/"),
          ("path", .text path.toString)]))) tree

/-- A writer on a file that was opened for it. -/
def Writer.onFile {σ : Type} (stream : σ) (path : Files.Path) (indent : String) : Writer σ :=
  .fresh stream indent (some path.toString)

end MachineDescriptor.Xml
