import MachineDescriptor.Proofs.Escaping
import MachineDescriptor.Xml.Writer

/-!
Documents that are being put together. A scaffold holds the nodes that are closed already and the
elements that are still open; the parts of a document are added to it one after the other, and a
part that has no place in it makes no scaffold. No stream, no white space and no flags occur here:
what a writer puts on paper is compared with the scaffold that its parts come to.
-/
namespace MachineDescriptor.Xml

/-- A single thing that is put into a document. -/
inductive Part where
  | startDocument
  | comment (text : String)
  | startElement (name : String)
  | setAttribute (name value : String)
  | text (text : String)
  | endElement
  | endDocument
deriving DecidableEq

/-- What an element has got in it so far: nothing, a text, or nodes. -/
inductive Filling where
  | nothing
  | text (text : String)
  | nodes (nodes : List Node)

/-- The nodes in an element that has no text. -/
def Filling.nodes? : Filling → Option (List Node)
  | nothing => some []
  | text _ => none
  | nodes ns => some ns

@[simp] theorem Filling.nodes?_nothing : nothing.nodes? = some [] := rfl

@[simp] theorem Filling.nodes?_nodes (ns : List Node) : (nodes ns).nodes? = some ns := rfl

/-- The text in an element that has no nodes. -/
def Filling.text? : Filling → Option String
  | nothing => some ""
  | text s => some s
  | nodes _ => none

/-- The innermost open element. -/
structure Draft where
  name : String
  attributes : List (String × String)
  filling : Filling

/-- An element around the innermost open one, with its closed children. -/
structure Frame where
  name : String
  attributes : List (String × String)
  children : List Node

/-- An element that has just been opened. -/
def Draft.start (name : String) : Draft := ⟨name, [], .nothing⟩

/-- The element that arises when a draft is closed. -/
def Draft.node (d : Draft) : Node :=
  match d.filling with
  | .nothing => .bare d.name d.attributes
  | .text s => .labelled d.name d.attributes s
  | .nodes ns => .parent d.name d.attributes ns

/-- A draft with nodes in it as the frame around one more. -/
def Draft.frame (d : Draft) (ns : List Node) : Frame := ⟨d.name, d.attributes, ns⟩

/-- The frame when the element within is closed. -/
def Frame.resume (f : Frame) (child : Node) : Draft :=
  ⟨f.name, f.attributes, .nodes (f.children ++ [child])⟩

/-- The node that arises when every open element is closed. -/
def closeAll (d : Draft) : List Frame → Node
  | [] => d.node
  | f :: outer => closeAll (f.resume d.node) outer

def Node.isElement : Node → Bool
  | .comment _ => false
  | _ => true

/-- Where the next part goes: outside of every element, or into the innermost open one. -/
inductive Place where
  | outside
  | inside (draft : Draft) (outer : List Frame)

def Place.isOutside : Place → Bool
  | outside => true
  | inside .. => false

/-- The elements around a child that is put at a place; in an element with text there is no place
for one. -/
def Place.frames? : Place → Option (List Frame)
  | outside => some []
  | inside d outer => d.filling.nodes?.map fun ns => d.frame ns :: outer

theorem Place.isEmpty_frames {place : Place} {frames : List Frame}
    (room : place.frames? = some frames) : frames.isEmpty = place.isOutside := by
  cases place with
  | outside =>
    obtain rfl : [] = frames := by simpa [Place.frames?] using room
    rfl
  | inside d outer =>
    obtain ⟨ns, _, rfl⟩ := Option.map_eq_some_iff.mp room
    rfl

/-- A document that is not begun, one with nodes that are closed and a place that is worked on, or
one that is ended. -/
inductive Scaffold where
  | blank
  | underway (closed : List Node) (place : Place)
  | ended (nodes : List Node)

namespace Scaffold

/-- The scaffold with a node closed within the elements around it. -/
def settle (closed : List Node) (n : Node) : List Frame → Scaffold
  | [] => underway (closed ++ [n]) .outside
  | f :: outer => underway closed (.inside (f.resume n) outer)

/-- The scaffold with a node added. -/
def add (n : Node) : Scaffold → Option Scaffold
  | underway closed place => place.frames?.map (settle closed n)
  | _ => none

/-- The scaffold with an element opened; outside of every element there is only one. -/
def enter (name : String) : Scaffold → Option Scaffold
  | underway closed place =>
    if place.isOutside && closed.any Node.isElement then none
    else place.frames?.map fun frames => underway closed (.inside (.start name) frames)
  | _ => none

/-- The scaffold with another attribute of an element that has nothing in it yet. -/
def mark (name value : String) : Scaffold → Option Scaffold
  | underway closed (.inside ⟨n, as, .nothing⟩ outer) =>
    some (underway closed (.inside ⟨n, as ++ [(name, value)], .nothing⟩ outer))
  | _ => none

/-- The scaffold with more text in the innermost element. -/
def write (text : String) : Scaffold → Option Scaffold
  | underway closed (.inside d outer) => d.filling.text?.map fun t =>
    underway closed (.inside { d with filling := .text (t ++ text) } outer)
  | _ => none

/-- The scaffold with the innermost element closed. -/
def leave : Scaffold → Option Scaffold
  | underway closed (.inside d outer) => some (settle closed d.node outer)
  | _ => none

/-- The scaffold with every open element closed and the document ended. -/
def finish : Scaffold → Option Scaffold
  | underway closed .outside => some (ended closed)
  | underway closed (.inside d outer) => some (ended (closed ++ [closeAll d outer]))
  | _ => none

/-- The scaffold with one more part. -/
def take (s : Scaffold) : Part → Option Scaffold
  | .startDocument =>
    match s with
    | blank => some (underway [] .outside)
    | _ => none
  | .comment text => s.add (.comment text)
  | .startElement name => s.enter name
  | .setAttribute name value => s.mark name value
  | .text text => s.write text
  | .endElement => s.leave
  | .endDocument => s.finish

/-- The scaffold with parts added one after the other. -/
def takeAll (s : Scaffold) : List Part → Option Scaffold
  | [] => some s
  | p :: rest => (s.take p).bind fun s => s.takeAll rest

/-- The nodes of a document that is ended. -/
def nodes? : Scaffold → Option (List Node)
  | ended ns => some ns
  | _ => none

end Scaffold

/-- The nodes of the document that parts describe from its start to its end. -/
def forest (parts : List Part) : Option (List Node) :=
  (Scaffold.blank.takeAll parts).bind Scaffold.nodes?

/-! ## Parts one after the other -/

theorem Scaffold.takeAll_append (s : Scaffold) (ps qs : List Part) :
    s.takeAll (ps ++ qs) = (s.takeAll ps).bind fun s => s.takeAll qs := by
  induction ps generalizing s with
  | nil => rfl
  | cons p rest ih =>
    simp only [List.cons_append, takeAll]
    cases s.take p with
    | none => rfl
    | some s => exact ih s

theorem Scaffold.take_ended (nodes : List Node) (p : Part) : (ended nodes).take p = none := by
  cases p <;> rfl

/-- Nothing comes after the end of a document. -/
theorem Scaffold.ended_of_mem {s s' : Scaffold} {ps : List Part} (h : s.takeAll ps = some s')
    (mem : .endDocument ∈ ps) : ∃ nodes, s' = .ended nodes := by
  induction ps generalizing s with
  | nil => cases mem
  | cons p rest ih =>
    obtain ⟨s₁, first, others⟩ := Option.bind_eq_some_iff.mp h
    rcases List.mem_cons.mp mem with rfl | later
    · obtain ⟨nodes, rfl⟩ : ∃ nodes, s₁ = .ended nodes := by
        cases s with
        | underway closed place => cases place <;> exact ⟨_, (Option.some.inj first).symm⟩
        | blank | ended => cases first
      cases rest with
      | nil => exact ⟨nodes, (Option.some.inj others).symm⟩
      | cons q rest => simp [takeAll, take_ended] at others
    · exact ih others later

/-! ## Nodes added to an element -/

/-- The draft with nodes added. -/
def Draft.laid (d : Draft) (nodes : List Node) : Draft :=
  if nodes.isEmpty then d
  else { d with filling := .nodes (d.filling.nodes?.getD [] ++ nodes) }

@[simp] theorem Draft.laid_nil (d : Draft) : d.laid [] = d := rfl

theorem Draft.nodes?_laid {d : Draft} {ns : List Node} (room : d.filling.nodes? = some ns)
    (nodes : List Node) : (d.laid nodes).filling.nodes? = some (ns ++ nodes) := by
  cases nodes with
  | nil => simpa using room
  | cons n rest => simp [laid, room]

theorem Draft.laid_laid {d : Draft} {ns : List Node} (room : d.filling.nodes? = some ns)
    (as bs : List Node) : (d.laid as).laid bs = d.laid (as ++ bs) := by
  cases bs with
  | nil => simp
  | cons b rest =>
    rw [laid, nodes?_laid room as, laid]
    cases as <;> simp [laid, room]

/-! ## The shape of a forest -/

mutual

/-- Whether every element with nodes in it has got some. -/
def Node.isFilled : Node → Bool
  | .parent _ _ children => !children.isEmpty && allFilled children
  | _ => true

def allFilled : List Node → Bool
  | [] => true
  | n :: rest => n.isFilled && allFilled rest

end

theorem allFilled_append (as bs : List Node) :
    allFilled (as ++ bs) = (allFilled as && allFilled bs) := by
  induction as with
  | nil => simp [allFilled]
  | cons a rest ih => simp [allFilled, ih, Bool.and_assoc]

def Filling.IsSound : Filling → Prop
  | .nodes ns => ns ≠ [] ∧ allFilled ns = true
  | _ => True

/-- Every element with nodes has got some, also among those that are closed. -/
def Place.IsSound : Place → Prop
  | .outside => True
  | .inside d outer => d.filling.IsSound ∧ ∀ f ∈ outer, allFilled f.children = true

/-- Besides, there is at most one element outside of all others. -/
def Scaffold.IsSound : Scaffold → Prop
  | .blank => True
  | .underway closed place => allFilled closed = true ∧ place.IsSound ∧
    closed.countP Node.isElement + (if place.isOutside then 0 else 1) ≤ 1
  | .ended nodes => allFilled nodes = true ∧ nodes.countP Node.isElement ≤ 1

theorem Draft.isFilled_node {d : Draft} (h : d.filling.IsSound) : d.node.isFilled = true := by
  obtain ⟨name, attributes, filling⟩ := d
  cases filling with
  | nothing | text => rfl
  | nodes ns => simpa [Draft.node, Node.isFilled, Filling.IsSound] using h

theorem Frame.isSound_resume {f : Frame} {child : Node} (h : allFilled f.children = true)
    (filled : child.isFilled = true) : (f.resume child).filling.IsSound := by
  refine ⟨by simp, ?_⟩
  simp [allFilled_append, h, allFilled, filled]

theorem isFilled_closeAll {d : Draft} {outer : List Frame} (h : d.filling.IsSound)
    (around : ∀ f ∈ outer, allFilled f.children = true) : (closeAll d outer).isFilled = true := by
  induction outer generalizing d with
  | nil => exact d.isFilled_node h
  | cons f outer ih =>
    obtain ⟨first, others⟩ := List.forall_mem_cons.mp around
    exact ih (f.isSound_resume first (d.isFilled_node h)) others

theorem Draft.isElement_node (d : Draft) : d.node.isElement = true := by
  obtain ⟨name, attributes, filling⟩ := d
  cases filling <;> rfl

theorem isElement_closeAll (d : Draft) (outer : List Frame) :
    (closeAll d outer).isElement = true := by
  induction outer generalizing d with
  | nil => exact d.isElement_node
  | cons f outer ih => exact ih _

theorem Place.filled_of_frames {place : Place} {frames : List Frame} (h : place.IsSound)
    (room : place.frames? = some frames) : ∀ f ∈ frames, allFilled f.children = true := by
  cases place with
  | outside =>
    obtain rfl : [] = frames := Option.some.inj room
    simp
  | inside d outer =>
    obtain ⟨name, attributes, filling⟩ := d
    obtain ⟨ns, has, rfl⟩ := Option.map_eq_some_iff.mp room
    refine List.forall_mem_cons.mpr ⟨?_, h.2⟩
    cases filling with
    | nothing =>
      obtain rfl : [] = ns := Option.some.inj has
      rfl
    | text => cases has
    | nodes ms =>
      obtain rfl : ms = ns := Option.some.inj has
      exact h.1.2

theorem Scaffold.isSound_settle {closed : List Node} {n : Node} {frames : List Frame}
    (filled : allFilled closed = true) (child : n.isFilled = true)
    (around : ∀ f ∈ frames, allFilled f.children = true)
    (single :
      closed.countP Node.isElement + (if frames.isEmpty && !n.isElement then 0 else 1) ≤ 1) :
    (settle closed n frames).IsSound := by
  cases frames with
  | nil =>
    refine ⟨by simp [allFilled_append, filled, allFilled, child], trivial, ?_⟩
    cases element : n.isElement <;>
      simpa [Place.isOutside, List.countP_append, element] using single
  | cons f outer =>
    obtain ⟨first, others⟩ := List.forall_mem_cons.mp around
    exact ⟨filled, ⟨f.isSound_resume first child, others⟩, by simpa [Place.isOutside] using single⟩

/-- Every part keeps the shape. -/
theorem Scaffold.isSound_take {s s' : Scaffold} {p : Part} (h : s.IsSound)
    (fits : s.take p = some s') : s'.IsSound := by
  cases s with
  | blank =>
    cases p with
    | startDocument =>
      obtain rfl : underway [] .outside = s' := Option.some.inj fits
      exact ⟨rfl, trivial, by decide⟩
    | _ => cases fits
  | ended => simp [take_ended] at fits
  | underway closed place =>
    obtain ⟨filled, sound, single⟩ := h
    cases p with
    | startDocument => cases fits
    | comment text =>
      obtain ⟨frames, room, rfl⟩ := Option.map_eq_some_iff.mp fits
      refine isSound_settle filled rfl (place.filled_of_frames sound room) ?_
      simpa [Place.isEmpty_frames room, Node.isElement] using single
    | startElement name =>
      simp only [take, enter] at fits
      split at fits
      · cases fits
      · next first =>
        obtain ⟨frames, room, rfl⟩ := Option.map_eq_some_iff.mp fits
        refine ⟨filled, ⟨trivial, place.filled_of_frames sound room⟩, ?_⟩
        cases place with
        | outside =>
          have none : closed.countP Node.isElement = 0 := by
            simpa [Place.isOutside, List.countP_eq_zero] using first
          simp [none, Place.isOutside]
        | inside => exact single
    | setAttribute name value =>
      obtain ⟨d, outer, rfl, empty⟩ :
          ∃ d outer, place = .inside d outer ∧ d.filling = .nothing := by
        rcases place with _ | ⟨⟨tag, attributes, filling⟩, outer⟩
        · cases fits
        · cases filling with
          | nothing => exact ⟨_, _, rfl, rfl⟩
          | text | nodes => cases fits
      obtain ⟨tag, attributes, filling⟩ := d
      obtain rfl : filling = .nothing := empty
      obtain rfl := Option.some.inj fits
      exact ⟨filled, ⟨trivial, sound.2⟩, single⟩
    | text t =>
      cases place with
      | outside => cases fits
      | inside d outer =>
        obtain ⟨begun, room, rfl⟩ := Option.map_eq_some_iff.mp fits
        exact ⟨filled, ⟨trivial, sound.2⟩, single⟩
    | endElement =>
      cases place with
      | outside => cases fits
      | inside d outer =>
        obtain rfl := Option.some.inj fits
        refine isSound_settle filled (d.isFilled_node sound.1) sound.2 ?_
        simpa [Draft.isElement_node, Place.isOutside] using single
    | endDocument =>
      cases place with
      | outside =>
        obtain rfl := Option.some.inj fits
        exact ⟨filled, single⟩
      | inside d outer =>
        obtain rfl := Option.some.inj fits
        refine ⟨?_, ?_⟩
        · simp [allFilled_append, filled, allFilled, isFilled_closeAll sound.1 sound.2]
        · simpa [List.countP_append, isElement_closeAll, Place.isOutside] using single

theorem Scaffold.isSound_takeAll {s s' : Scaffold} {ps : List Part} (h : s.IsSound)
    (fits : s.takeAll ps = some s') : s'.IsSound := by
  induction ps generalizing s with
  | nil =>
    obtain rfl := Option.some.inj fits
    exact h
  | cons p rest ih =>
    obtain ⟨s₁, first, others⟩ := Option.bind_eq_some_iff.mp fits
    exact ih (isSound_take h first) others

end MachineDescriptor.Xml
