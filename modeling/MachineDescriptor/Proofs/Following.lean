import MachineDescriptor.Proofs.Scaffold
import MachineDescriptor.Proofs.Streams

/-!
A writer follows a scaffold. The open elements of the writer are those of the scaffold, with flags
that say what each has got in it, and what is on paper is the scaffold as far as it is written: the
closed nodes, then the beginning of each open element. Every part that fits is put on paper in this
way, and every other part is refused with the writer left as it was.
-/
namespace MachineDescriptor.Xml

open Node (renderAll startTag)

/-! ## What is on paper -/

def Frame.text (indent : String) (depth : Nat) (f : Frame) : String :=
  Node.margin indent depth ++ startTag f.name f.attributes ++ ">\n" ++
    renderAll indent (depth + 1) f.children

/-- What is on paper of an element that is still open. -/
def Draft.text (indent : String) (depth : Nat) (d : Draft) : String :=
  Node.margin indent depth ++ startTag d.name d.attributes ++
    match d.filling with
    | .nothing => ""
    | .text s => ">" ++ Node.escaped s
    | .nodes ns => ">\n" ++ renderAll indent (depth + 1) ns

/-- What is put on paper when an element is closed. -/
def Draft.ending (indent : String) (depth : Nat) (d : Draft) : String :=
  match d.filling with
  | .nothing => "/>\n"
  | .text _ => "</" ++ d.name ++ ">\n"
  | .nodes _ => Node.margin indent depth ++ "</" ++ d.name ++ ">\n"

theorem Draft.text_ending (indent : String) (depth : Nat) (d : Draft) :
    d.text indent depth ++ d.ending indent depth = Node.render indent depth d.node := by
  obtain ⟨name, attributes, filling⟩ := d
  cases filling <;>
    simp [Draft.text, Draft.ending, Draft.node, Node.render, String.append_assoc]

/-- What is on paper of the elements around the innermost one. -/
def framesText (indent : String) : List Frame → String
  | [] => ""
  | f :: outer => framesText indent outer ++ f.text indent outer.length

def Place.text (indent : String) : Place → String
  | .outside => ""
  | .inside d outer => framesText indent outer ++ d.text indent outer.length

def Scaffold.text (indent : String) : Scaffold → String
  | .blank => ""
  | .underway closed place => declaration ++ renderAll indent 0 closed ++ place.text indent
  | .ended nodes => declaration ++ renderAll indent 0 nodes

/-! ## What a writer keeps -/

def Draft.asOpen (d : Draft) : Open :=
  match d.filling with
  | .nothing => ⟨d.name, true, false, false⟩
  | .text _ => ⟨d.name, false, true, false⟩
  | .nodes _ => ⟨d.name, false, false, true⟩

def Frame.asOpen (f : Frame) : Open := ⟨f.name, false, false, true⟩

/-- The open elements at a place. -/
def Place.stack : Place → List Open
  | .outside => []
  | .inside d outer => d.asOpen :: outer.map Frame.asOpen

def Scaffold.stack : Scaffold → List Open
  | .underway _ place => place.stack
  | _ => []

def Scaffold.isStarted : Scaffold → Bool
  | .blank => false
  | _ => true

def Scaffold.isEnded : Scaffold → Bool
  | .ended _ => true
  | _ => false

/-- Whether a document has got its root element. -/
def Scaffold.hasRoot : Scaffold → Bool
  | .blank => false
  | .underway closed place => !place.isOutside || closed.any Node.isElement
  | .ended nodes => nodes.any Node.isElement

variable {σ : Type}

/-- The writer that has come as far as a scaffold. -/
def Scaffold.writer (s : Scaffold) (indent : String) (path : Option String) (stream : σ) :
    Writer σ :=
  ⟨stream, indent, path, s.stack, s.isStarted, s.isEnded, s.hasRoot⟩

@[simp] theorem writer_indent (s : Scaffold) (indent : String) (path : Option String)
    (stream : σ) : (s.writer indent path stream).indent = indent := rfl

@[simp] theorem writer_path (s : Scaffold) (indent : String) (path : Option String) (stream : σ) :
    (s.writer indent path stream).path = path := rfl

theorem settle_writer (closed : List Node) (n : Node) (frames : List Frame) (indent : String)
    (path : Option String) (stream : σ) :
    (Scaffold.settle closed n frames).writer indent path stream =
      ⟨stream, indent, path, frames.map Frame.asOpen, true, false,
        !frames.isEmpty || (closed.any Node.isElement || n.isElement)⟩ := by
  cases frames <;> simp [Scaffold.settle, Scaffold.writer, Scaffold.stack, Place.stack,
    Draft.asOpen, Frame.resume, Frame.asOpen, Scaffold.isStarted, Scaffold.isEnded,
    Scaffold.hasRoot, Place.isOutside]

/-- A node that is closed within other elements stands after their beginnings. -/
theorem settle_text (closed : List Node) (n : Node) (frames : List Frame) (indent : String) :
    (Scaffold.settle closed n frames).text indent =
      declaration ++ renderAll indent 0 closed ++ framesText indent frames ++
        Node.render indent frames.length n := by
  cases frames with
  | nil =>
    simp [Scaffold.settle, Scaffold.text, Place.text, framesText, Node.renderAll_append, renderAll,
      String.append_assoc]
  | cons f outer =>
    simp [Scaffold.settle, Scaffold.text, Place.text, framesText, Frame.resume, Draft.text,
      Frame.text, Node.renderAll_append, renderAll, String.append_assoc]

/-! ## Steps of actions -/

theorem requireDocument_of_started {w : Writer σ} (started : w.started = true)
    (ended : w.ended = false) (op : Operation) : requireDocument op w = .ok () w := by
  simp [requireDocument, get_bind, started, ended, pure, EStateM.pure]

theorem requireDocument_of_not {w : Writer σ} (h : w.started = false ∨ w.ended = true)
    (op : Operation) : ∃ reason, requireDocument op w = .error (w.failure op reason none) w := by
  cases started : w.started with
  | false =>
    exact ⟨"document not started", by simp [requireDocument, get_bind, started, refuse]⟩
  | true =>
    have ended : w.ended = true := by simpa [started] using h
    exact ⟨"document already ended", by simp [requireDocument, get_bind, started, ended, refuse]⟩

theorem margin_depth {w : Writer σ} {frames : List Frame}
    (stack : w.stack = frames.map Frame.asOpen) :
    w.margin w.depth = Node.margin w.indent frames.length := by
  simp [Writer.margin, Writer.depth, stack, Node.margin]

variable [Stream σ] {holds : σ → String → Prop} {indent : String} {path : Option String}

theorem emit_of_holds (faithful : Faithful holds) {w : Writer σ} {t : String}
    (h : holds w.stream t) (op : Operation) (u : String) :
    ∃ stream, emit op u w = .ok () { w with stream } ∧ holds stream (t ++ u) := by
  obtain ⟨stream, put, held⟩ := faithful.write h u
  exact ⟨stream, by simp only [emit, onStream, put], held⟩

/-! ## Beginning a child -/

theorem closeStartTag_of_open (faithful : Faithful holds) {w : Writer σ} {top : Open}
    {rest : List Open} {t : String} (op : Operation) (ending : String)
    (stack : w.stack = top :: rest) (tagOpen : top.tagOpen = true) (h : holds w.stream t) :
    ∃ stream, closeStartTag op ending w =
        .ok () { w with stream, stack := { top with tagOpen := false } :: rest } ∧
      holds stream (t ++ ending) := by
  obtain ⟨stream, put, held⟩ := emit_of_holds faithful
    (w := { w with stack := { top with tagOpen := false } :: rest }) h op ending
  refine ⟨stream, ?_, held⟩
  have tagClosed : modifyTop (fun e => { e with tagOpen := false }) w =
      .ok () { w with stack := { top with tagOpen := false } :: rest } := by
    simp only [modifyTop, modify_apply, stack]
  simp only [closeStartTag, get_bind, stack, tagOpen, if_true]
  rw [bind_of_ok tagClosed, put]

theorem closeStartTag_of_closed {w : Writer σ} {top : Open} {rest : List Open} (op : Operation)
    (ending : String) (stack : w.stack = top :: rest) (tagClosed : top.tagOpen = false) :
    closeStartTag op ending w = .ok () w := by
  simp [closeStartTag, get_bind, stack, tagClosed, pure, EStateM.pure]

/-- A place gets ready for a child: the start tag of the element around it is ended if it is still
open. -/
theorem beginChild_of_room (faithful : Faithful holds) {w : Writer σ} {place : Place}
    {frames : List Frame} {t : String} (op : Operation) (stack : w.stack = place.stack)
    (room : place.frames? = some frames) (h : holds w.stream (t ++ place.text w.indent)) :
    ∃ stream, beginChild op w = .ok () { w with stream, stack := frames.map Frame.asOpen } ∧
      holds stream (t ++ framesText w.indent frames) := by
  cases place with
  | outside =>
    obtain rfl : [] = frames := by simpa [Place.frames?] using room
    refine ⟨w.stream, ?_, h⟩
    obtain ⟨stream, indent, path, _, started, ended, hasRoot⟩ := w
    obtain rfl := stack
    rfl
  | inside d outer =>
    obtain ⟨name, attributes, filling⟩ := d
    cases filling with
    | nothing =>
      obtain rfl : (⟨name, attributes, []⟩ : Frame) :: outer = frames := by
        simpa [Place.frames?, Filling.nodes?, Draft.frame] using room
      obtain ⟨stream, tagEnded, held⟩ := closeStartTag_of_open faithful op ">\n" stack rfl h
      refine ⟨stream, ?_, ?_⟩
      · simp only [beginChild, get_bind, stack, Place.stack, Draft.asOpen, Bool.false_eq_true,
          if_false]
        rw [bind_of_ok tagEnded]
        rfl
      · simpa [Place.text, Draft.text, framesText, Frame.text, renderAll, String.append_assoc]
          using held
    | text s => simp [Place.frames?, Filling.nodes?] at room
    | nodes ns =>
      obtain rfl : (⟨name, attributes, ns⟩ : Frame) :: outer = frames := by
        simpa [Place.frames?, Filling.nodes?, Draft.frame] using room
      refine ⟨w.stream, ?_, ?_⟩
      · simp only [beginChild, get_bind, stack, Place.stack, Draft.asOpen, Bool.false_eq_true,
          if_false]
        rw [bind_of_ok (closeStartTag_of_closed op ">\n" stack rfl)]
        simp [modifyTop, modify_apply, stack, Place.stack, Draft.asOpen, Frame.asOpen]
      · simpa [Place.text, Draft.text, framesText, Frame.text, String.append_assoc] using h

theorem beginChild_of_no_room {w : Writer σ} {place : Place} (op : Operation)
    (stack : w.stack = place.stack) (full : place.frames? = none) :
    ∃ reason, beginChild op w = .error (w.failure op reason none) w := by
  cases place with
  | outside => simp [Place.frames?] at full
  | inside d outer =>
    obtain ⟨name, attributes, filling⟩ := d
    cases filling with
    | nothing | nodes => simp [Place.frames?, Filling.nodes?] at full
    | text s =>
      refine ⟨"mixed content is not supported in <" ++ name ++ ">", ?_⟩
      simp only [beginChild, get_bind, stack, Place.stack, Draft.asOpen, if_true]
      rfl

/-! ## Parts -/

def Part.operation : Part → Operation
  | .startDocument => .startDocument
  | .comment _ => .comment
  | .startElement _ => .startElement
  | .setAttribute .. => .setAttribute
  | .text _ => .text
  | .endElement => .endElement
  | .endDocument => .endDocument

/-- Whether a part is in itself one that a document may have. -/
def Part.isProper : Part → Bool
  | .comment s => isComment s.toList
  | .startElement name => isName name.toList
  | .setAttribute name _ => isName name.toList
  | _ => true

/-- Puts a part on paper. -/
def Part.run : Part → Action σ Unit
  | .startDocument => Xml.startDocument
  | .comment s => Xml.comment s
  | .startElement name => Xml.startElement name
  | .setAttribute name value => Xml.setAttribute name (.text value)
  | .text s => Xml.text (.text s)
  | .endElement => Xml.endElement
  | .endDocument => Xml.endDocument

/-- The scaffold with one more part if it is proper and fits. -/
def Scaffold.accept (s : Scaffold) (p : Part) : Option Scaffold :=
  if p.isProper then s.take p else none

/-- What comes of an operation at a writer: either there is a next scaffold and the writer gets as
far as that, or the operation is refused and the writer stays as it was. -/
inductive Follows (holds : σ → String → Prop) (op : Operation) (w : Writer σ)
    (next : Option Scaffold) (r : EStateM.Result Failure (Writer σ) Unit) : Prop
  | put (s : Scaffold) (stream : σ) (fits : next = some s)
      (written : r = .ok () (s.writer w.indent w.path stream))
      (held : holds stream (s.text w.indent))
  | refused (reason : String) (misfit : next = none)
      (failed : r = .error (w.failure op reason none) w)

variable (path) in
theorem startDocument_follows (faithful : Faithful holds) {s : Scaffold} {stream : σ}
    (h : holds stream (s.text indent)) :
    Follows holds .startDocument (s.writer indent path stream) (s.accept .startDocument)
      (startDocument (s.writer indent path stream)) := by
  cases s with
  | blank =>
    obtain ⟨stream', put, held⟩ := emit_of_holds faithful
      (w := { Scaffold.blank.writer indent path stream with started := true }) h .startDocument
      declaration
    refine .put _ stream' rfl ?_ ?_
    · exact put
    · simpa [Scaffold.text, Place.text, renderAll] using held
  | underway | ended => exact .refused "document already started" rfl rfl

omit [Stream σ] in
/-- A part other than the first is refused before the document and after it. -/
theorem follows_of_not_underway {op : Operation} {s : Scaffold} {next : Option Scaffold}
    {stream : σ} (rest : Unit → Action σ Unit) (h : s.isStarted = false ∨ s.isEnded = true)
    (misfit : next = none) :
    Follows holds op (s.writer indent path stream) next
      ((requireDocument op >>= rest) (s.writer indent path stream)) := by
  obtain ⟨reason, failed⟩ :=
    requireDocument_of_not (w := s.writer indent path stream) h op
  exact .refused reason misfit (bind_of_error failed)

variable (path) in
theorem comment_follows (faithful : Faithful holds) {s : Scaffold} {stream : σ} (text : String)
    (h : holds stream (s.text indent)) :
    Follows holds .comment (s.writer indent path stream) (s.accept (.comment text))
      (comment text (s.writer indent path stream)) := by
  unfold comment
  cases s with
  | blank => exact follows_of_not_underway _ (.inl rfl) (ite_self _)
  | ended => exact follows_of_not_underway _ (.inr rfl) (ite_self _)
  | underway closed place =>
    rw [bind_of_ok (requireDocument_of_started rfl rfl _)]
    cases proper : isComment text.toList with
    | false =>
      simp only [Bool.not_false, if_true]
      exact .refused _ (by simp [Scaffold.accept, Part.isProper, proper]) rfl
    | true =>
      simp only [Bool.not_true, Bool.false_eq_true, if_false]
      cases room : place.frames? with
      | none =>
        obtain ⟨reason, failed⟩ := beginChild_of_no_room
          (w := (Scaffold.underway closed place).writer indent path stream) .comment rfl room
        exact .refused reason (by simp [Scaffold.accept, Scaffold.take, Scaffold.add, room])
          (bind_of_error failed)
      | some frames =>
        obtain ⟨stream₁, begun, held₁⟩ := beginChild_of_room faithful
          (w := (Scaffold.underway closed place).writer indent path stream) .comment rfl room h
        obtain ⟨stream₂, put, held₂⟩ := emit_of_holds faithful
          (w := { (Scaffold.underway closed place).writer indent path stream with
            stream := stream₁, stack := frames.map Frame.asOpen }) held₁ .comment
          (Node.render indent frames.length (.comment text))
        refine .put (.settle closed (.comment text) frames) stream₂ ?_ ?_ ?_
        · simp [Scaffold.accept, Part.isProper, proper, Scaffold.take, Scaffold.add, room]
        · have root : (!frames.isEmpty || (closed.any Node.isElement ||
              (Node.comment text).isElement)) = (Scaffold.underway closed place).hasRoot := by
            simp [Place.isEmpty_frames room, Node.isElement, Scaffold.hasRoot]
          rw [bind_of_ok begun, get_bind, margin_depth rfl, settle_writer, root]
          simp only [Node.render] at put
          exact put
        · rw [settle_text]
          exact held₂

variable (path) in
theorem startElement_follows (faithful : Faithful holds) {s : Scaffold} {stream : σ}
    (name : String) (h : holds stream (s.text indent)) :
    Follows holds .startElement (s.writer indent path stream) (s.accept (.startElement name))
      (startElement name (s.writer indent path stream)) := by
  unfold startElement
  cases s with
  | blank => exact follows_of_not_underway _ (.inl rfl) (ite_self _)
  | ended => exact follows_of_not_underway _ (.inr rfl) (ite_self _)
  | underway closed place =>
    have taken : (((Scaffold.underway closed place).writer indent path stream).stack.isEmpty &&
        ((Scaffold.underway closed place).writer indent path stream).hasRoot) =
        (place.isOutside && closed.any Node.isElement) := by
      cases place <;> simp [Scaffold.writer, Scaffold.stack, Place.stack, Scaffold.hasRoot,
        Place.isOutside]
    rw [bind_of_ok (requireDocument_of_started rfl rfl _), get_bind, taken]
    cases proper : isName name.toList with
    | false =>
      simp only [Bool.not_false, if_true]
      exact .refused _ (by simp [Scaffold.accept, Part.isProper, proper]) rfl
    | true =>
      simp only [Bool.not_true, Bool.false_eq_true, if_false]
      cases second : place.isOutside && closed.any Node.isElement with
      | true =>
        exact .refused "document already has a root element"
          (by simp [Scaffold.accept, Scaffold.take, Scaffold.enter, second]) rfl
      | false =>
        simp only [Bool.false_eq_true, if_false]
        cases room : place.frames? with
        | none =>
          obtain ⟨reason, failed⟩ := beginChild_of_no_room
            (w := (Scaffold.underway closed place).writer indent path stream) .startElement rfl room
          exact .refused reason (by simp [Scaffold.accept, Scaffold.take, Scaffold.enter, room])
            (bind_of_error failed)
        | some frames =>
          obtain ⟨stream₁, begun, held₁⟩ := beginChild_of_room faithful
            (w := (Scaffold.underway closed place).writer indent path stream) .startElement rfl room
            h
          obtain ⟨stream₂, put, held₂⟩ := emit_of_holds faithful
            (w := { (Scaffold.underway closed place).writer indent path stream with
              stream := stream₁, stack := frames.map Frame.asOpen }) held₁ .startElement
            (Node.margin indent frames.length ++ "<" ++ name)
          refine .put (.underway closed (.inside (.start name) frames)) stream₂ ?_ ?_ ?_
          · simp [Scaffold.accept, Part.isProper, proper, Scaffold.take, Scaffold.enter, room,
              second]
          · rw [bind_of_ok begun, get_bind, margin_depth rfl]
            exact bind_of_ok put
          · simpa [Scaffold.text, Place.text, Draft.text, Draft.start, startTag,
              String.append_assoc] using held₂

omit [Stream σ] in
theorem escaped_of_written {v : Value} {text : String} (written : v.written = .ok text.toList)
    (w : Writer σ) : escaped v w = .ok (Node.escaped text) w := by
  simp only [escaped, escapeValue, written, Except.map, Node.escaped_eq]

variable (path) in
theorem setAttribute_follows (faithful : Faithful holds) {s : Scaffold} {stream : σ}
    (name : String) {v : Value} {text : String} (written : v.written = .ok text.toList)
    (h : holds stream (s.text indent)) :
    Follows holds .setAttribute (s.writer indent path stream) (s.accept (.setAttribute name text))
      (setAttribute name v (s.writer indent path stream)) := by
  unfold setAttribute
  cases s with
  | blank => exact follows_of_not_underway _ (.inl rfl) (ite_self _)
  | ended => exact follows_of_not_underway _ (.inr rfl) (ite_self _)
  | underway closed place =>
    rw [bind_of_ok (requireDocument_of_started rfl rfl _), get_bind]
    rcases place with _ | ⟨⟨tag, attributes, filling⟩, outer⟩
    · exact .refused _ (ite_self _) rfl
    · cases filling with
      | text | nodes => exact .refused _ (ite_self _) rfl
      | nothing =>
        cases proper : isName name.toList with
        | false =>
          refine .refused ("invalid attribute name " ++ String.ofList (Text.quoted name.toList))
            (by simp [Scaffold.accept, Part.isProper, proper]) ?_
          simp only [Scaffold.writer, Scaffold.stack, Place.stack, Draft.asOpen, Bool.not_true,
            Bool.false_eq_true, if_false, Bool.not_false, if_true]
          rfl
        | true =>
          obtain ⟨stream', put, held⟩ := emit_of_holds faithful
            (w := (Scaffold.underway closed (.inside ⟨tag, attributes, .nothing⟩ outer)).writer
              indent path stream) h .setAttribute
            (" " ++ name ++ "=\"" ++ Node.escaped text ++ "\"")
          refine .put (.underway closed
            (.inside ⟨tag, attributes ++ [(name, text)], .nothing⟩ outer)) stream' ?_ ?_ ?_
          · simp [Scaffold.accept, Part.isProper, proper, Scaffold.take, Scaffold.mark]
          · simp only [Scaffold.writer, Scaffold.stack, Place.stack, Draft.asOpen, Bool.not_true,
              Bool.false_eq_true, if_false]
            rw [bind_of_ok (escaped_of_written written _)]
            exact put
          · simpa [Scaffold.text, Place.text, Draft.text, Node.startTag_append,
              String.append_assoc] using held

variable (path) in
/-- An element without nodes gets ready for more text. -/
theorem beginText_of_room (faithful : Faithful holds) {closed : List Node} {d : Draft}
    {outer : List Frame} {t : String} {stream : σ} (room : d.filling.text? = some t)
    (h : holds stream ((Scaffold.underway closed (.inside d outer)).text indent)) :
    ∃ w stream', closeStartTag .text ">"
        ((Scaffold.underway closed (.inside d outer)).writer indent path stream) = .ok () w ∧
      modifyTop (fun e => { e with hasText := true }) w =
        .ok () ((Scaffold.underway closed (.inside { d with filling := .text t } outer)).writer
          indent path stream') ∧
      holds stream'
        ((Scaffold.underway closed (.inside { d with filling := .text t } outer)).text indent) := by
  obtain ⟨name, attributes, filling⟩ := d
  cases filling with
  | nothing =>
    obtain rfl : "" = t := by simpa [Filling.text?] using room
    obtain ⟨stream', tagEnded, held⟩ := closeStartTag_of_open faithful
      (w := (Scaffold.underway closed (.inside ⟨name, attributes, .nothing⟩ outer)).writer
        indent path stream) .text ">" rfl rfl h
    refine ⟨_, stream', tagEnded, rfl, ?_⟩
    simpa [Scaffold.text, Place.text, Draft.text, Node.escaped_empty, String.append_assoc]
      using held
  | text begun =>
    obtain rfl : begun = t := by simpa [Filling.text?] using room
    exact ⟨_, stream, closeStartTag_of_closed .text ">" rfl rfl, rfl, h⟩
  | nodes ns => simp [Filling.text?] at room

variable (path) in
theorem text_follows (faithful : Faithful holds) {s : Scaffold} {stream : σ} {v : Value}
    {t : String} (written : v.written = .ok t.toList) (h : holds stream (s.text indent)) :
    Follows holds .text (s.writer indent path stream) (s.accept (.text t))
      (text v (s.writer indent path stream)) := by
  unfold text
  cases s with
  | blank => exact follows_of_not_underway _ (.inl rfl) (ite_self _)
  | ended => exact follows_of_not_underway _ (.inr rfl) (ite_self _)
  | underway closed place =>
    rw [bind_of_ok (requireDocument_of_started rfl rfl _), get_bind]
    cases place with
    | outside => exact .refused "text outside of the root element" rfl rfl
    | inside d outer =>
      have top : ((Scaffold.underway closed (.inside d outer)).writer indent path stream).stack =
          d.asOpen :: outer.map Frame.asOpen := rfl
      simp only [top]
      cases room : d.filling.text? with
      | none =>
        obtain ⟨name, attributes, filling⟩ := d
        cases filling with
        | nothing | text => simp [Filling.text?] at room
        | nodes ns =>
          exact .refused ("mixed content is not supported in <" ++ name ++ ">") rfl rfl
      | some begun =>
        have noNodes : d.asOpen.hasChildren = false := by
          obtain ⟨name, attributes, filling⟩ := d
          cases filling with
          | nothing | text => rfl
          | nodes => simp [Filling.text?] at room
        simp only [noNodes, Bool.false_eq_true, if_false]
        obtain ⟨w₁, stream₁, tagEnded, marked, held₁⟩ := beginText_of_room path faithful
          room h
        rw [bind_of_ok tagEnded, bind_of_ok marked, bind_of_ok (escaped_of_written written _)]
        obtain ⟨stream₂, put, held₂⟩ := emit_of_holds faithful
          (w := (Scaffold.underway closed (.inside { d with filling := .text begun } outer)).writer
            indent path stream₁) held₁ .text (Node.escaped t)
        refine .put (.underway closed (.inside { d with filling := .text (begun ++ t) } outer))
          stream₂ ?_ put ?_
        · simp [Scaffold.accept, Part.isProper, Scaffold.take, Scaffold.write, room]
        · simpa [Scaffold.text, Place.text, Draft.text, Node.escaped_append, String.append_assoc]
            using held₂

variable (path) in
theorem endElement_follows (faithful : Faithful holds) {s : Scaffold} {stream : σ}
    (h : holds stream (s.text indent)) :
    Follows holds .endElement (s.writer indent path stream) (s.accept .endElement)
      (endElement (s.writer indent path stream)) := by
  unfold endElement
  cases s with
  | blank => exact follows_of_not_underway _ (.inl rfl) (ite_self _)
  | ended => exact follows_of_not_underway _ (.inr rfl) (ite_self _)
  | underway closed place =>
    rw [bind_of_ok (requireDocument_of_started rfl rfl _), get_bind]
    cases place with
    | outside => exact .refused "no open element" rfl rfl
    | inside d outer =>
      obtain ⟨stream', put, held⟩ := emit_of_holds faithful
        (w := (Scaffold.underway closed (.inside d outer)).writer indent path stream) h
        .endElement (d.ending indent outer.length)
      refine .put (.settle closed d.node outer) stream' rfl ?_ ?_
      · have root : (!outer.isEmpty || (closed.any Node.isElement || d.node.isElement)) = true := by
          simp [Draft.isElement_node]
        have ending : (if d.asOpen.tagOpen then "/>\n"
            else if d.asOpen.hasText then "</" ++ d.asOpen.name ++ ">\n"
            else Node.margin indent outer.length ++ "</" ++ d.asOpen.name ++ ">\n") =
            d.ending indent outer.length := by
          obtain ⟨name, attributes, filling⟩ := d
          cases filling <;> rfl
        have depth : ((Scaffold.underway closed (.inside d outer)).writer indent path stream).margin
            (((Scaffold.underway closed (.inside d outer)).writer indent path stream).depth - 1) =
            Node.margin indent outer.length := by
          simp [Writer.margin, Writer.depth, Scaffold.writer, Scaffold.stack, Place.stack,
            Node.margin]
        rw [settle_writer, root]
        simp only [Scaffold.writer, Scaffold.stack, Place.stack] at depth put ⊢
        rw [depth, ending]
        exact bind_of_ok put
      · rw [settle_text, ← Draft.text_ending]
        simpa [Scaffold.text, Place.text, String.append_assoc] using held

omit [Stream σ] in
theorem Follows.some {op : Operation} {w : Writer σ} {s : Scaffold}
    {r : EStateM.Result Failure (Writer σ) Unit} (h : Follows holds op w (some s) r) :
    ∃ stream, r = .ok () (s.writer w.indent w.path stream) ∧ holds stream (s.text w.indent) := by
  cases h with
  | put s' stream fits written held =>
    cases fits
    exact ⟨stream, written, held⟩
  | refused reason misfit => simp at misfit

variable (path) in
/-- The elements are closed from the innermost out. -/
theorem endElements_inside (faithful : Faithful holds) {closed : List Node} (outer : List Frame)
    (d : Draft) {stream : σ}
    (h : holds stream ((Scaffold.underway closed (.inside d outer)).text indent)) :
    ∃ stream', endElements (outer.length + 1)
        ((Scaffold.underway closed (.inside d outer)).writer indent path stream) =
        .ok () ((Scaffold.underway (closed ++ [closeAll d outer]) .outside).writer
          indent path stream') ∧
      holds stream' ((Scaffold.underway (closed ++ [closeAll d outer]) .outside).text indent) := by
  induction outer generalizing d stream with
  | nil =>
    obtain ⟨stream', ended, held⟩ := (endElement_follows path faithful h).some
    refine ⟨stream', ?_, held⟩
    rw [List.length_nil, endElements, bind_of_ok ended]
    rfl
  | cons f outer ih =>
    obtain ⟨stream₁, ended, held₁⟩ := (endElement_follows path faithful h).some
    obtain ⟨stream₂, rest, held₂⟩ := ih (f.resume d.node) held₁
    refine ⟨stream₂, ?_, held₂⟩
    rw [List.length_cons, endElements, bind_of_ok ended]
    exact rest

variable (path) in
theorem endDocument_follows (faithful : Faithful holds) {s : Scaffold} {stream : σ}
    (h : holds stream (s.text indent)) :
    Follows holds .endDocument (s.writer indent path stream) (s.accept .endDocument)
      (endDocument (s.writer indent path stream)) := by
  unfold endDocument
  cases s with
  | blank => exact follows_of_not_underway _ (.inl rfl) (ite_self _)
  | ended => exact follows_of_not_underway _ (.inr rfl) (ite_self _)
  | underway closed place =>
    rw [bind_of_ok (requireDocument_of_started rfl rfl _), get_bind]
    obtain ⟨nodes, stream₁, last, allClosed, held₁⟩ : ∃ nodes stream₁,
        (Scaffold.underway closed place).finish = some (.ended nodes) ∧
        endElements ((Scaffold.underway closed place).writer indent path stream).stack.length
          ((Scaffold.underway closed place).writer indent path stream) =
          .ok () ((Scaffold.underway nodes .outside).writer indent path stream₁) ∧
        holds stream₁ ((Scaffold.underway nodes .outside).text indent) := by
      cases place with
      | outside => exact ⟨closed, stream, rfl, rfl, h⟩
      | inside d outer =>
        obtain ⟨stream₁, allClosed, held₁⟩ := endElements_inside path faithful outer d h
        refine ⟨_, stream₁, rfl, ?_, held₁⟩
        simpa [Scaffold.writer, Scaffold.stack, Place.stack] using allClosed
    obtain ⟨stream₂, flushed, held₂⟩ := faithful.flush held₁
    refine .put (.ended nodes) stream₂ last ?_ ?_
    · rw [bind_of_ok allClosed, bind_of_ok (modify_apply _ _)]
      simp only [onStream, Scaffold.writer, flushed]
      rfl
    · simpa [Scaffold.text, Place.text] using held₂

variable (path) in
/-- **The writer follows the scaffold.** A part that is proper and fits is put on paper, so that the
writer gets as far as the next scaffold; any other part is refused and changes nothing. -/
theorem run_follows (faithful : Faithful holds) {s : Scaffold} {stream : σ} (p : Part)
    (h : holds stream (s.text indent)) :
    Follows holds p.operation (s.writer indent path stream) (s.accept p)
      (p.run (s.writer indent path stream)) := by
  cases p with
  | startDocument => exact startDocument_follows path faithful h
  | comment text => exact comment_follows path faithful text h
  | startElement name => exact startElement_follows path faithful name h
  | setAttribute name value => exact setAttribute_follows path faithful name rfl h
  | text s => exact text_follows path faithful rfl h
  | endElement => exact endElement_follows path faithful h
  | endDocument => exact endDocument_follows path faithful h

end MachineDescriptor.Xml
