import MachineDescriptor.Yaml.Kind
import MachineDescriptor.Yaml.Token.Lexer

/-!
Nodes of a document, numbered in the order in which they begin. A collection names its members by
their numbers, so that a node may be a member of several collections and even of itself.
-/
namespace MachineDescriptor.Yaml

inductive Content where
  | scalar (text : List Char)
  | sequence (members : List Nat)
  | mapping (entries : List (Nat × Nat))

structure Node where
  kind : Kind
  content : Content

def Node.isScalar (n : Node) : Bool :=
  match n.content with
  | .scalar _ => true
  | _ => false

/-- The nodes of a document by their numbers. -/
abbrev Graph := Array Node

/-- The state of the reading of nodes: the tokens that are left and the fault that comes after them,
what tag handles stand for, which node an anchor names, and the nodes so far. -/
structure Composer where
  tokens : List Token
  fault : Option Fault
  handles : List (List Char × List Char)
  anchors : List (List Char × Nat)
  nodes : Graph

namespace Composer

abbrev Composing := StateT Composer (Except Fault)

def fail {α : Type} : Composing α := throw .malformed

/-- What the tag handles stand for where no directive says otherwise. -/
def usualHandles : List (List Char × List Char) :=
  [(['!'], ['!']), (['!', '!'], Kind.tagStem.toList)]

/-- The next token, which is not taken. -/
def peek : Composing (Option Token) := do
  let s ← get
  match s.tokens, s.fault with
  | t :: _, _ => pure (some t)
  | [], some f => throw f
  | [], none => pure none

def advance : Composing Unit := modify fun s => { s with tokens := s.tokens.tail }

/-- Adds a node and names it by its anchor, which must be new. -/
def add (anchor : Option (List Char)) (n : Node) : Composing Nat := do
  let s ← get
  let number := s.nodes.size
  let anchors ← match anchor with
    | none => pure s.anchors
    | some name =>
      if (s.anchors.lookup name).isSome then fail else pure ((name, number) :: s.anchors)
  set { s with nodes := s.nodes.push n, anchors }
  pure number

/-- Gives a node its content. -/
def fill (number : Nat) (content : Content) : Composing Unit := modify fun s =>
  { s with nodes := s.nodes.modify number fun n => { n with content } }

/-- A scalar that is not there. -/
def absent : Composing Nat := add none ⟨.null, .scalar []⟩

/-- What stands in front of a node. -/
structure Properties where
  anchor : Option (List Char)
  tag : Option TagText

/-- Takes an anchor and a tag in either order. -/
def properties : Composing Properties := do
  match ← peek with
  | some (.anchor name) =>
    advance
    match ← peek with
    | some (.tag t) =>
      advance
      pure ⟨some name, some t⟩
    | _ => pure ⟨some name, none⟩
  | some (.tag t) =>
    advance
    match ← peek with
    | some (.anchor name) =>
      advance
      pure ⟨some name, some t⟩
    | _ => pure ⟨none, some t⟩
  | _ => pure ⟨none, none⟩

/-- The tag in full; its handle must stand for something. -/
def fullTag (t : TagText) : Composing (List Char) := do
  match t.handle with
  | none => pure t.suffix
  | some handle =>
    match (← get).handles.lookup handle with
    | some beginning => pure (beginning ++ t.suffix)
    | none => fail

/-- How the kind of a node is known: by its tag, or by its content when it has none or only an
exclamation mark. -/
inductive Marking where
  | untagged
  | exclamation
  | tagged (kind : Kind)

def marking (p : Properties) : Composing Marking := do
  match p.tag with
  | none => pure .untagged
  | some t =>
    let tag ← fullTag t
    pure (if tag = ['!'] then .exclamation else .tagged (Kind.ofTag tag))

/-- The kind of a scalar. -/
def Marking.ofScalar (text : List Char) (plain : Bool) : Marking → Kind
  | tagged kind => kind
  | exclamation => Kind.ofPlain text
  | untagged => if plain then Kind.ofPlain text else .text

/-- The kind of a collection. -/
def Marking.ofCollection (usual : Kind) : Marking → Kind
  | tagged kind => kind
  | _ => usual

/-- Tokens after which a node of a block may be missing. -/
def endsBlockEntry : Option Token → Bool
  | some .blockEntry | some .blockEnd => true
  | _ => false

def endsIndentless : Option Token → Bool
  | some .blockEntry | some .key | some .value | some .blockEnd => true
  | _ => false

def endsBlockKey : Option Token → Bool
  | some .key | some .value | some .blockEnd => true
  | _ => false

/-- Tokens after which a node of a flow sequence or mapping may be missing. -/
def endsFlowItem : Option Token → Bool
  | some .flowEntry | some .flowSequenceEnd => true
  | _ => false

def endsFlowValue : Option Token → Bool
  | some .flowEntry | some .flowMappingEnd => true
  | _ => false

def isValueMark : Option Token → Bool
  | some .value => true
  | _ => false

/-- Takes the comma in front of every entry of a flow collection but the first. -/
def comma (first : Bool) : Composing Unit := do
  if first then pure ()
  else
    match ← peek with
    | some .flowEntry => advance
    | _ => fail

mutual

/-- A node in at most so many steps. In a block it may be a block collection, and where `indentless`
holds a sequence whose entries are not set in. -/
def node (inBlock indentless : Bool) : Nat → Composing Nat
  | 0 => fail
  | fuel + 1 => do
    match ← peek with
    | some (.alias name) =>
      advance
      match (← get).anchors.lookup name with
      | some number => pure number
      | none => fail
    | _ =>
      let p ← properties
      let m ← marking p
      let sequence (members : Composing (List Nat)) : Composing Nat := do
        let number ← add p.anchor ⟨m.ofCollection .sequence, .sequence []⟩
        fill number (.sequence (← members))
        pure number
      let mapping (entries : Composing (List (Nat × Nat))) : Composing Nat := do
        let number ← add p.anchor ⟨m.ofCollection .mapping, .mapping []⟩
        fill number (.mapping (← entries))
        pure number
      let token ← peek
      match token, inBlock, indentless with
      | some (.scalar text plain), _, _ =>
        advance
        add p.anchor ⟨m.ofScalar text plain, .scalar text⟩
      | some .flowSequenceStart, _, _ =>
        advance
        sequence (flowItems true fuel)
      | some .flowMappingStart, _, _ =>
        advance
        mapping (flowEntries true fuel)
      | some .blockEntry, _, true => sequence (indentlessItems fuel)
      | some .sequenceStart, true, _ =>
        advance
        sequence (blockItems fuel)
      | some .mappingStart, true, _ =>
        advance
        mapping (blockEntries fuel)
      | _, _, _ =>
        if p.anchor.isSome || p.tag.isSome then
          add p.anchor ⟨m.ofScalar [] true, .scalar []⟩
        else fail

/-- A node, or an absent one where the next token ends the entry. -/
def nodeUnless (ends : Option Token → Bool) (inBlock indentless : Bool) : Nat → Composing Nat
  | 0 => fail
  | fuel + 1 => do if ends (← peek) then absent else node inBlock indentless fuel

/-- The value of a key, absent where no colon follows. -/
def valueUnless (ends : Option Token → Bool) (inBlock indentless : Bool) : Nat → Composing Nat
  | 0 => fail
  | fuel + 1 => do
    if isValueMark (← peek) then
      advance
      nodeUnless ends inBlock indentless fuel
    else absent

/-- The entries of a block sequence. -/
def blockItems : Nat → Composing (List Nat)
  | 0 => fail
  | fuel + 1 => do
    match ← peek with
    | some .blockEntry =>
      advance
      let item ← nodeUnless endsBlockEntry true false fuel
      return item :: (← blockItems fuel)
    | some .blockEnd =>
      advance
      pure []
    | _ => fail

/-- The entries of a sequence that is not set in. -/
def indentlessItems : Nat → Composing (List Nat)
  | 0 => fail
  | fuel + 1 => do
    match ← peek with
    | some .blockEntry =>
      advance
      let item ← nodeUnless endsIndentless true false fuel
      return item :: (← indentlessItems fuel)
    | _ => pure []

/-- The entries of a block mapping. -/
def blockEntries : Nat → Composing (List (Nat × Nat))
  | 0 => fail
  | fuel + 1 => do
    match ← peek with
    | some .key =>
      advance
      let key ← nodeUnless endsBlockKey true true fuel
      let value ← valueUnless endsBlockKey true true fuel
      return (key, value) :: (← blockEntries fuel)
    | some .blockEnd =>
      advance
      pure []
    | _ => fail

/-- The entries of a flow sequence. A key makes a mapping of one entry. -/
def flowItems (first : Bool) : Nat → Composing (List Nat)
  | 0 => fail
  | fuel + 1 => do
    match ← peek with
    | some .flowSequenceEnd =>
      advance
      pure []
    | _ =>
      comma first
      match ← peek with
      | some .key =>
        advance
        let number ← add none ⟨.mapping, .mapping []⟩
        let key ← nodeUnless (fun t => isValueMark t || endsFlowItem t) false false fuel
        let value ← valueUnless endsFlowItem false false fuel
        fill number (.mapping [(key, value)])
        return number :: (← flowItems false fuel)
      | some .flowSequenceEnd =>
        advance
        pure []
      | _ =>
        let item ← node false false fuel
        return item :: (← flowItems false fuel)

/-- The entries of a flow mapping. -/
def flowEntries (first : Bool) : Nat → Composing (List (Nat × Nat))
  | 0 => fail
  | fuel + 1 => do
    match ← peek with
    | some .flowMappingEnd =>
      advance
      pure []
    | _ =>
      comma first
      match ← peek with
      | some .key =>
        advance
        let key ← nodeUnless (fun t => isValueMark t || endsFlowValue t) false false fuel
        let value ← valueUnless endsFlowValue false false fuel
        return (key, value) :: (← flowEntries false fuel)
      | some .flowMappingEnd =>
        advance
        pure []
      | _ =>
        let key ← node false false fuel
        let value ← absent
        return (key, value) :: (← flowEntries false fuel)

end

/-- Whether a version directive was seen, and the handles of the directives. -/
structure Directives where
  versioned : Bool
  handles : List (List Char × List Char)

/-- Takes the directives in front of a document. -/
def directives : Nat → Directives → Composing Directives
  | 0, _ => fail
  | fuel + 1, d => do
    match ← peek with
    | some (.directive x) =>
      advance
      match x with
      | .version major _ =>
        if d.versioned || major != 1 then fail else directives fuel { d with versioned := true }
      | .handle handle beginning =>
        if (d.handles.lookup handle).isSome then fail
        else directives fuel { d with handles := (handle, beginning) :: d.handles }
      | .other => directives fuel d
    | _ => pure d

/-- Tokens before which the content of a document may be missing. -/
def endsDocument : Option Token → Bool
  | none | some (.directive _) | some .documentStart | some .documentEnd => true
  | _ => false

/-- Takes the ends of documents. -/
def documentEnds : Nat → Composing Unit
  | 0 => pure ()
  | fuel + 1 => do
    match ← peek with
    | some .documentEnd =>
      advance
      documentEnds fuel
    | _ => pure ()

/-- A document with its start, or without one. -/
def document (fuel : Nat) : Composing Nat := do
  match ← peek with
  | some (.directive _) | some .documentStart =>
    let d ← directives fuel ⟨false, []⟩
    modify fun s => { s with handles := d.handles ++ usualHandles }
    match ← peek with
    | some .documentStart =>
      advance
      nodeUnless endsDocument true false fuel
    | _ => fail
  | _ => node true false fuel

/-- The only document of a text: the number of its node, if there is one. -/
def single (fuel : Nat) : Composing (Option Nat) := do
  if (← peek).isNone then pure none
  else
    let root ← document fuel
    documentEnds fuel
    if (← peek).isNone then pure (some root)
    else
      let _ ← directives fuel ⟨false, []⟩
      fail

end Composer

/-- The nodes of a text's only document and the number of its outermost node. -/
def Graph.ofText (letters : Text.Letters) (cs : List Char) :
    Except Fault (Graph × Option Nat) :=
  let (tokens, fault) := Token.ofText letters cs
  match (Composer.single (4 * tokens.length + 8)).run
      ⟨tokens, fault, Composer.usualHandles, [], #[]⟩ with
  | .ok (root, s) => .ok (s.nodes, root)
  | .error f => .error f

end MachineDescriptor.Yaml
