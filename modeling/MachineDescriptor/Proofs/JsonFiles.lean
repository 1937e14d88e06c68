import MachineDescriptor.Proofs.JsonPrinting
import MachineDescriptor.Proofs.JsonReading
import MachineDescriptor.Proofs.Loading
import MachineDescriptor.Proofs.Retyping
import MachineDescriptor.Proofs.Utf8

/-!
Machines in JSON files. A machine and the ports of its disks, put into a file in the JSON format, are
loaded again as they were, however the file is spelled; the ports are accepted if there are as many
as disks. The path of the file must not lead to a home directory: a tilde does so at the start of
the path as it is written after all empty and single-dot names are dropped.
-/
namespace MachineDescriptor

/-! ## Paths without a home -/

namespace Files.Path

/-- A path is written with its first name first, unless it has a root. -/
theorem toString_begins {p : Path} {first : String} {rest : List String} {c : Char}
    {cs : List Char} (current : p.root = .current) (names : p.names = first :: rest)
    (begins : first.toList = c :: cs) : ∃ more, p.toString.toList = c :: more := by
  have joined : ∃ more, (String.intercalate "/" (first :: rest)).toList = c :: more := by
    rw [String.toList_intercalate, List.map_cons, begins]
    cases rest with
    | nil => exact ⟨cs, by simp⟩
    | cons second others =>
      rw [List.map_cons, List.intercalate_cons_cons, List.append_assoc, List.cons_append]
      exact ⟨_, rfl⟩
  obtain ⟨more, spelled⟩ := joined
  refine ⟨more, ?_⟩
  have whole : Root.text p.root ++ String.intercalate "/" p.names =
      String.intercalate "/" (first :: rest) := by
    rw [current, names]
    exact String.empty_append
  have filled : (String.intercalate "/" (first :: rest)).isEmpty = false := by
    rw [String.isEmpty_eq_false_iff]
    intro empty
    rw [empty] at spelled
    cases spelled
  unfold toString
  rw [whole]
  dsimp only
  rw [filled, if_neg Bool.false_ne_true, spelled]

theorem expandHome_of_no_tilde {p : Path} (homeless : p.toString.toList.head? ≠ some '~') :
    p.expandHome = some p := by
  unfold expandHome
  split
  · next first rest current names =>
    split
    · next user tilde =>
      obtain ⟨more, spelled⟩ := toString_begins current names tilde
      rw [spelled] at homeless
      exact absurd rfl homeless
    · rfl
  · rfl

end Files.Path

namespace Configuration

open Files (Path Tree)
open Typing (IsMappingOf)

variable {m : Machine} {ports : List Int} {fields : Typing.Fields} {letters : Text.Letters}

theorem portsOf_of_mapping (mapping : IsMappingOf m ports fields) (path : Path) :
    portsOf path (.dict fields) = .ok (ports.map .int) := by
  have found := Typing.lookup_ports mapping
  unfold portsOf
  dsimp only [Value.opened]
  rw [found]
  cases ports with
  | nil => rfl
  | cons n rest => rfl

theorem readValue_json {tree : Tree} {path : Path} {v : Value} {cs : List Char}
    (text : Json.DocumentText v cs) (plain : v.isPlain = true)
    (holds : tree.read path = .ok (Text.Utf8.encode cs)) :
    readValue letters tree path .json = .ok v := by
  unfold readValue
  simp only [holds, mapError_ok, Text.Utf8.decode_encode, bind, Except.bind, valueOf]
  rw [Json.read_document text.unified plain]
  rfl

theorem ofSuffix?_json {suffix : String} (json : Text.lower suffix = ".json") :
    Format.ofSuffix? suffix = some .json := by
  unfold Format.ofSuffix?
  rw [json]
  rfl

theorem checkPorts_ok_iff (disks ports : Nat) :
    Typing.checkPorts disks ports = .ok () ↔ ports = disks := by
  unfold Typing.checkPorts
  by_cases same : disks = ports
  · rw [if_pos same]
    exact ⟨fun _ => same.symm, fun _ => rfl⟩
  · rw [if_neg same]
    exact ⟨nofun, fun back => absurd back.symm same⟩

/-- The file at a path holds a machine and the ports of its disks in the JSON format, which the
suffix of the path tells in any case of letters. -/
structure HoldsJson (tree : Tree) (path : String) (m : Machine) (ports : List Int) : Prop where
  suffix : Text.lower (Path.ofString path).suffix = ".json"
  isFile : tree.isFile (Path.ofString path) = .ok true
  spelled : ∃ fields cs, IsMappingOf m ports fields ∧ Json.DocumentText (.dict fields) cs ∧
    tree.read (Path.ofString path) = .ok (Text.Utf8.encode cs)

theorem areMembers_of_distinct {es : Typing.Fields} (distinct : Typing.Distinct es)
    (all : ∀ e ∈ es, (∃ name, e.1 = .text name) ∧ Json.IsTree e.2) : Json.AreMembers es := by
  induction es with
  | nil => trivial
  | cons e rest ih =>
    obtain ⟨k, v⟩ := e
    obtain ⟨apart, later⟩ := List.nodup_cons.mp distinct
    obtain ⟨⟨key, tree⟩, others⟩ := List.forall_mem_cons.mp all
    refine ⟨key, ?_, tree, ih later others⟩
    intro f listed same
    exact apart (List.mem_map.mpr ⟨f, listed, by rw [same]⟩)

/-- Members in another order are members. -/
theorem areMembers_of_perm {es es' : Typing.Fields} (distinct : Typing.Distinct es')
    (perm : es.Perm es') (all : ∀ e ∈ es', (∃ name, e.1 = .text name) ∧ Json.IsTree e.2) :
    Json.AreMembers es :=
  areMembers_of_distinct (distinct.perm perm) fun e listed => all e (perm.mem_iff.mp listed)

theorem isTree_textOrNull (given : Option String) : Json.IsTree (Typing.textOrNull given) := by
  cases given <;> trivial

theorem isTree_list {vs : List Value} (all : ∀ v ∈ vs, Json.IsTree v) : Json.IsTree (.list vs) := by
  have trees : Json.AreTrees vs := by
    induction vs with
    | nil => trivial
    | cons v rest ih =>
      obtain ⟨first, others⟩ := List.forall_mem_cons.mp all
      exact ⟨first, ih others⟩
  exact trees

theorem isTree_texts (ss : List String) : Json.IsTree (.list (ss.map .text)) := by
  refine isTree_list fun v listed => ?_
  obtain ⟨s, -, rfl⟩ := List.mem_map.mp listed
  trivial

theorem isTree_textsOrNull (given : Option (List String)) :
    Json.IsTree (Typing.textsOrNull given) := by
  cases given with
  | none => trivial
  | some ss => exact isTree_texts ss

/-- Every mapping of a machine has a text, whatever the order of its members. -/
theorem isTree_of_mapping (mapping : IsMappingOf m ports fields) : Json.IsTree (.dict fields) := by
  obtain ⟨first, second, all⟩ := mapping
  rename_i processor clock
  have inProcessor : Json.IsTree (.dict processor) := by
    refine areMembers_of_perm (Typing.distinct_processorMembers _) first ?_
    simp only [Typing.processorMembers, List.forall_mem_cons]
    exact ⟨⟨⟨_, rfl⟩, isTree_textOrNull _⟩, ⟨⟨_, rfl⟩, isTree_textOrNull _⟩,
      ⟨⟨_, rfl⟩, trivial⟩, ⟨⟨_, rfl⟩, trivial⟩, ⟨⟨_, rfl⟩, trivial⟩, ⟨⟨_, rfl⟩, trivial⟩,
      ⟨⟨_, rfl⟩, trivial⟩, ⟨⟨_, rfl⟩, trivial⟩, List.forall_mem_nil _⟩
  have inClock : Json.IsTree (.dict clock) := by
    refine areMembers_of_perm (Typing.distinct_clockMembers _) second ?_
    simp only [Typing.clockMembers, List.forall_mem_cons]
    exact ⟨⟨⟨_, rfl⟩, trivial⟩, ⟨⟨_, rfl⟩, trivial⟩, List.forall_mem_nil _⟩
  have inPorts : Json.IsTree (.list (ports.map .int)) := by
    refine isTree_list fun v listed => ?_
    obtain ⟨n, -, rfl⟩ := List.mem_map.mp listed
    trivial
  refine areMembers_of_perm (Typing.distinct_machineMembers _ _ m ports) all ?_
  simp only [Typing.machineMembers, List.forall_mem_cons]
  exact ⟨⟨⟨_, rfl⟩, trivial⟩, ⟨⟨_, rfl⟩, trivial⟩, ⟨⟨_, rfl⟩, trivial⟩, ⟨⟨_, rfl⟩, inProcessor⟩,
    ⟨⟨_, rfl⟩, inClock⟩, ⟨⟨_, rfl⟩, isTree_texts _⟩, ⟨⟨_, rfl⟩, isTree_textsOrNull _⟩,
    ⟨⟨_, rfl⟩, isTree_textsOrNull _⟩, ⟨⟨_, rfl⟩, isTree_textsOrNull _⟩, ⟨⟨_, rfl⟩, inPorts⟩,
    List.forall_mem_nil _⟩

/-- What is printed for a mapping of a machine is a document of it. -/
theorem documentText_print (mapping : IsMappingOf m ports fields) :
    Json.DocumentText (.dict fields) (Json.print (.dict fields)) := by
  have text := Json.DocumentText.mk Json.isSpaces_nil
    (Json.valueText_print (.dict fields) (isTree_of_mapping mapping)) Json.isSpaces_nil
  rw [List.nil_append, List.append_nil] at text
  exact text

/-! ## A file alone in a tree -/

/-- A tree that holds a text in one file and nothing else. -/
def lone (name : String) (cs : List Char) : Tree :=
  ⟨[([name], .file (Text.Utf8.encode cs))], [], true⟩

theorem lone_resolve {name : String} (cs : List Char) (down : name ≠ "..")
    (fits : ¬Tree.maxName < name.utf8ByteSize)
    (short : ¬Tree.maxPath < (Files.Path.mk .current [name]).toString.utf8ByteSize) :
    (lone name cs).resolve true ⟨.current, [name]⟩ =
      .ok (.entry [name] (.file (Text.Utf8.encode cs))) := by
  rw [Tree.resolve, if_neg short]
  change (lone name cs).walk true Tree.maxLinks [] [name] = _
  have found : (lone name cs).find? ([] ++ [name]) = some (.file (Text.Utf8.encode cs)) := by
    simp [lone, Tree.find?]
  rw [Tree.walk_of_last rfl down fits (by rw [found]; rintro target ⟨⟩) true]
  rw [found]
  rfl

/-- A machine of which much is known, and the port of its one disk. -/
def utcMachine : Machine :=
  ⟨"g\"1\"", 1048577, 2, ⟨some "AMD", none, 1, 2, 1, true, false, true⟩, ⟨.utc, -3600⟩, ["sda"],
    some [], none, some ["eth0:default"]⟩

def utcMapping : Typing.Fields :=
  Typing.machineMembers (Typing.processorMembers utcMachine.processor)
    (Typing.clockMembers utcMachine.clock) utcMachine [10809]

theorem utcMapping_isMapping : IsMappingOf utcMachine [10809] utcMapping :=
  ⟨.refl _, .refl _, .refl _⟩

/-- The mapping of that machine in a file of its own. -/
def utcTree (name : String) : Tree := lone name (Json.print (.dict utcMapping))

theorem utcTree_holds {name path : String} (spelled : Path.ofString path = ⟨.current, [name]⟩)
    (suffix : Text.lower (Path.ofString path).suffix = ".json")
    (clear : (Path.ofString path).hasNull = false) (down : name ≠ "..")
    (fits : ¬Tree.maxName < name.utf8ByteSize)
    (short : ¬Tree.maxPath < (Files.Path.mk .current [name]).toString.utf8ByteSize) :
    HoldsJson (utcTree name) path utcMachine [10809] := by
  have resolved := lone_resolve (Json.print (.dict utcMapping)) down fits short
  refine ⟨suffix, ?_, _, _, utcMapping_isMapping, documentText_print utcMapping_isMapping, ?_⟩
  · rw [spelled] at clear ⊢
    rw [Tree.isFile, clear, if_neg Bool.false_ne_true, utcTree, resolved]
  · rw [spelled, Tree.read, utcTree, resolved]

end Configuration
end MachineDescriptor
