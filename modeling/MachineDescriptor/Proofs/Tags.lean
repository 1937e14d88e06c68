import MachineDescriptor.Proofs.Reading

/-!
Start tags of a document that is being put together. The tags of a scaffold, from first to last, are
those of the elements that were opened, and the names in each are those of the attributes that were
given to it; every other part leaves them as they are.
-/
namespace MachineDescriptor.Xml

/-! ## The tags of nodes -/

/-- A name as it is read from a tag: white space after it does not belong to it. -/
def nameRead (name : String) : String := String.ofList (name.toList.takeWhile isNameChar)

/-- The names of the attributes in a start tag. -/
def tagOf (attributes : List (String × String)) : List String :=
  attributes.map fun a => nameRead a.1

mutual

/-- The start tags of a node, each by the names in it. -/
def Node.tags : Node → List (List String)
  | .comment _ => []
  | .bare _ attributes | .labelled _ attributes _ => [tagOf attributes]
  | .parent _ attributes children => tagOf attributes :: allTags children

def allTags : List Node → List (List String)
  | [] => []
  | n :: rest => n.tags ++ allTags rest

end

theorem allTags_append (as bs : List Node) : allTags (as ++ bs) = allTags as ++ allTags bs := by
  induction as with
  | nil => rfl
  | cons a rest ih => rw [List.cons_append, allTags, allTags, ih, List.append_assoc]

theorem Node.tags_eq_nil_iff (n : Node) : n.tags = [] ↔ n.isElement = false := by
  cases n <;> simp [Node.tags, Node.isElement]

/-- Nodes without start tags are comments. -/
theorem allTags_eq_nil_iff (nodes : List Node) :
    allTags nodes = [] ↔ nodes.countP Node.isElement = 0 := by
  induction nodes with
  | nil => simp [allTags]
  | cons n rest ih =>
    rw [allTags, List.append_eq_nil_iff, n.tags_eq_nil_iff, ih, List.countP_cons]
    cases n.isElement <;> simp

/-! ## The tags of a scaffold -/

def Draft.tags (d : Draft) : List (List String) :=
  tagOf d.attributes :: allTags (d.filling.nodes?.getD [])

def Frame.tags (f : Frame) : List (List String) := tagOf f.attributes :: allTags f.children

/-- The tags of elements around a place, the outermost first. -/
def framesTags : List Frame → List (List String)
  | [] => []
  | f :: outer => framesTags outer ++ f.tags

def Place.tags : Place → List (List String)
  | .outside => []
  | .inside d outer => framesTags outer ++ d.tags

def Scaffold.tags : Scaffold → List (List String)
  | .blank => []
  | .underway closed place => allTags closed ++ place.tags
  | .ended nodes => allTags nodes

/-- Tags with one more name in the last of them. -/
def giveLast (name : String) : List (List String) → List (List String)
  | [] => []
  | [tag] => [tag ++ [name]]
  | tag :: next :: rest => tag :: giveLast name (next :: rest)

theorem giveLast_concat (name : String) (tags : List (List String)) (tag : List String) :
    giveLast name (tags ++ [tag]) = tags ++ [tag ++ [name]] := by
  induction tags with
  | nil => rfl
  | cons t rest ih =>
    cases rest with
    | nil => rfl
    | cons u others => exact congrArg (t :: ·) ih

/-- Tags after one more part: an element begins a tag, and an attribute gives its name to the last
one. -/
def Part.tagged (tags : List (List String)) : Part → List (List String)
  | .startElement _ => tags ++ [[]]
  | .setAttribute name _ => giveLast (nameRead name) tags
  | _ => tags

/-- The tags that parts give rise to. -/
def tagsGiven (parts : List Part) : List (List String) := parts.foldl Part.tagged []

theorem giveLast_eq_nil_iff (name : String) (tags : List (List String)) :
    giveLast name tags = [] ↔ tags = [] := by
  cases tags with
  | nil => exact Iff.rfl
  | cons tag rest => cases rest <;> simp [giveLast]

/-- There are tags as soon as there is an element. -/
theorem tagsGiven_ne_nil_iff (parts : List Part) :
    tagsGiven parts ≠ [] ↔ ∃ name, .startElement name ∈ parts := by
  have each : ∀ tags : List (List String), parts.foldl Part.tagged tags ≠ [] ↔
      tags ≠ [] ∨ ∃ name, .startElement name ∈ parts := by
    induction parts with
    | nil => simp
    | cons p rest ih =>
      intro tags
      rw [List.foldl_cons, ih]
      cases p <;> simp [Part.tagged, giveLast_eq_nil_iff]
  have all := each []
  simpa [tagsGiven] using all

theorem Draft.tags_node (d : Draft) : d.node.tags = d.tags := by
  obtain ⟨name, attributes, filling⟩ := d
  cases filling <;> rfl

theorem Frame.tags_resume (f : Frame) (child : Node) :
    (f.resume child).tags = f.tags ++ child.tags := by
  have whole : allTags [child] = child.tags := List.append_nil _
  simp only [Draft.tags, Frame.resume, Filling.nodes?_nodes, Option.getD_some, allTags_append,
    whole, Frame.tags, List.cons_append]

theorem tags_closeAll (d : Draft) (outer : List Frame) :
    (closeAll d outer).tags = framesTags outer ++ d.tags := by
  induction outer generalizing d with
  | nil => exact d.tags_node
  | cons f outer ih =>
    have inner := ih (f.resume d.node)
    rw [f.tags_resume, d.tags_node] at inner
    rw [closeAll, inner, framesTags, List.append_assoc]

namespace Scaffold

theorem tags_settle (closed : List Node) (n : Node) (frames : List Frame) :
    (settle closed n frames).tags = allTags closed ++ (framesTags frames ++ n.tags) := by
  cases frames with
  | nil =>
    have whole : allTags [n] = n.tags := List.append_nil _
    simp only [settle, tags, Place.tags, allTags_append, whole, framesTags, List.nil_append,
      List.append_nil]
  | cons f outer =>
    simp only [settle, tags, Place.tags, f.tags_resume, framesTags, List.append_assoc]

end Scaffold

/-- Room for a child is made without a change of tags. -/
theorem Place.tags_frames {place : Place} {frames : List Frame}
    (room : place.frames? = some frames) : framesTags frames = place.tags := by
  cases place with
  | outside =>
    obtain rfl : [] = frames := Option.some.inj room
    rfl
  | inside d outer =>
    obtain ⟨ns, has, rfl⟩ := Option.map_eq_some_iff.mp room
    simp only [framesTags, Frame.tags, Draft.frame, Place.tags, Draft.tags, has, Option.getD_some]

/-- **Every part does to the tags what it says.** -/
theorem Scaffold.tags_take {s s' : Scaffold} {p : Part} (fits : s.take p = some s') :
    s'.tags = p.tagged s.tags := by
  cases s with
  | blank =>
    cases p with
    | startDocument =>
      obtain rfl := Option.some.inj fits
      rfl
    | _ => cases fits
  | ended => simp [take_ended] at fits
  | underway closed place =>
    cases p with
    | startDocument => cases fits
    | comment text =>
      obtain ⟨frames, room, rfl⟩ := Option.map_eq_some_iff.mp fits
      have same := place.tags_frames room
      rw [tags_settle, same, Node.tags, List.append_nil]
      rfl
    | startElement name =>
      simp only [take, enter] at fits
      split at fits
      · cases fits
      · obtain ⟨frames, room, rfl⟩ := Option.map_eq_some_iff.mp fits
        have same := place.tags_frames room
        have begun : (Draft.start name).tags = [[]] := rfl
        simp only [tags, Place.tags, same, begun, Part.tagged, List.append_assoc]
    | setAttribute name value =>
      rcases place with _ | ⟨⟨tag, attributes, filling⟩, outer⟩
      · cases fits
      · cases filling with
        | text | nodes => cases fits
        | nothing =>
          obtain rfl := Option.some.inj fits
          have last : ∀ as : List (String × String),
              (underway closed (.inside ⟨tag, as, .nothing⟩ outer)).tags =
                (allTags closed ++ framesTags outer) ++ [tagOf as] :=
            fun as => (List.append_assoc _ _ _).symm
          have named : tagOf (attributes ++ [(name, value)]) = tagOf attributes ++ [nameRead name] :=
            List.map_append
          rw [Part.tagged, last, last, named, giveLast_concat]
    | text t =>
      rcases place with _ | ⟨⟨tag, attributes, filling⟩, outer⟩
      · cases fits
      · obtain ⟨begun, room, rfl⟩ := Option.map_eq_some_iff.mp fits
        cases filling with
        | nothing | text => rfl
        | nodes => cases room
    | endElement =>
      cases place with
      | outside => cases fits
      | inside d outer =>
        obtain rfl := Option.some.inj fits
        rw [tags_settle, d.tags_node]
        rfl
    | endDocument =>
      cases place with
      | outside =>
        obtain rfl := Option.some.inj fits
        exact (List.append_nil _).symm
      | inside d outer =>
        obtain rfl := Option.some.inj fits
        have whole : allTags [closeAll d outer] = (closeAll d outer).tags := List.append_nil _
        have all : (ended (closed ++ [closeAll d outer])).tags =
            allTags closed ++ allTags [closeAll d outer] := allTags_append _ _
        rw [all, whole, tags_closeAll]
        rfl

theorem Scaffold.tags_takeAll {s s' : Scaffold} {ps : List Part} (fits : s.takeAll ps = some s') :
    s'.tags = ps.foldl Part.tagged s.tags := by
  induction ps generalizing s with
  | nil =>
    obtain rfl := Option.some.inj fits
    rfl
  | cons p rest ih =>
    obtain ⟨s₁, first, others⟩ := Option.bind_eq_some_iff.mp fits
    rw [List.foldl_cons, ← tags_take first]
    exact ih others

end MachineDescriptor.Xml
