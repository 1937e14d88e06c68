import MachineDescriptor.Proofs.Documents
import MachineDescriptor.Proofs.Reading

/-!
Outlines can be read back. Every name in an outline is one that a reader knows the end of, whichever
texts the machine, the ports and the addresses put between the names.
-/
namespace MachineDescriptor.Document

open Xml

theorem allProper_of_forall {nodes : List Xml.Node} (h : ∀ n ∈ nodes, n.isProper = true) :
    allProper nodes = true := by
  induction nodes with
  | nil => rfl
  | cons n rest ih =>
    obtain ⟨first, others⟩ := List.forall_mem_cons.mp h
    simp [allProper, first, ih others]

theorem isProper_frame {name : String} {attributes : List (String × String)}
    {children : List Xml.Node} (named : isName name.toList = true)
    (attributesNamed : ∀ a ∈ attributes, isName a.1.toList = true)
    (inner : allProper children = true) :
    (Node.frame name attributes children).isProper = true := by
  have attributesProper : (attributes.all fun a => isName a.1.toList) = true :=
    List.all_eq_true.mpr attributesNamed
  cases children with
  | nil => simp [Node.frame, Node.isProper, named, attributesProper]
  | cons n rest => simp [Node.frame, Node.isProper, named, attributesProper, inner]

namespace Outline

theorem labelled_proper {name : String} {attributes : List (String × String)}
    (named : isName name.toList = true)
    (attributesNamed : ∀ a ∈ attributes, isName a.1.toList = true) (text : String) :
    (Node.labelled name attributes text).isProper = true := by
  have attributesProper : (attributes.all fun a => isName a.1.toList) = true :=
    List.all_eq_true.mpr attributesNamed
  simp [Node.isProper, named, attributesProper]

theorem given_proper {name : String} {attributes : List (String × String)}
    (named : isName name.toList = true)
    (attributesNamed : ∀ a ∈ attributes, isName a.1.toList = true) (given : Option String) :
    allProper (Outline.given name attributes given) = true := by
  cases given with
  | none => rfl
  | some text =>
    simp only [Outline.given, allProper, labelled_proper named attributesNamed text, Bool.and_self]

theorem counted_named {name : String} (named : isName name.toList = true) (n : Int) :
    ∀ a ∈ counted name n, isName a.1.toList = true := by
  unfold counted
  split
  · simp
  · simpa using named

theorem topology_proper (p : Processor) : allProper (topology p) = true := by
  unfold topology
  split
  · rfl
  · have attributesNamed : ∀ a ∈ counted "sockets" p.sockets ++ counted "cores" p.cores ++
        counted "threads" p.threads, isName a.1.toList = true := by
      intro a listed
      simp only [List.mem_append] at listed
      rcases listed with (listed | listed) | listed
      · exact counted_named (by decide) _ a listed
      · exact counted_named (by decide) _ a listed
      · exact counted_named (by decide) _ a listed
    have attributesProper := List.all_eq_true.mpr attributesNamed
    have named : isName "topology".toList = true := by decide
    simp only [allProper, Node.isProper, named, attributesProper, Bool.and_self]

theorem processor_proper (p : Processor) : allProper (processor p) = true := by
  unfold processor
  split
  · rfl
  · have inner : allProper (given "vendor" [] p.vendor ++
        given "model" [("fallback", "allow")] p.model ++ topology p) = true := by
      rw [allProper_append, allProper_append, given_proper (by decide) (by simp),
        given_proper (by decide) (by decide), topology_proper]
      rfl
    have cpu : (Node.frame "cpu" [("match", "minimum")] _).isProper = true :=
      isProper_frame (by decide) (by decide) inner
    simp only [allProper, cpu, Bool.and_self]

theorem clock_proper (c : Clock) : allProper (clock c) = true := by
  unfold clock
  split
  · rfl
  · decide
  · split
    · decide
    · simp only [allProper, Node.isProper, List.all_cons, List.all_nil]
      decide

theorem features_proper (p : Processor) : (features p).isProper = true := by
  refine isProper_frame (by decide) (by simp) (allProper_of_forall ?_)
  intro n listed
  obtain ⟨f, kept, rfl⟩ := List.mem_map.mp listed
  have flag := (List.mem_filter.mp kept).1
  simp only [List.mem_cons, List.not_mem_nil, or_false] at flag
  rcases flag with rfl | rfl | rfl
  · exact (by decide : (Node.bare "acpi" []).isProper = true)
  · exact (by decide : (Node.bare "apic" []).isProper = true)
  · exact (by decide : (Node.bare "pae" []).isProper = true)

/-- A bare element with one attribute. -/
theorem marked_proper {name key : String} (named : isName name.toList = true)
    (keyNamed : isName key.toList = true) (value : String) :
    (Node.bare name [(key, value)]).isProper = true := by
  simp [Node.isProper, named, keyNamed]

theorem disk_proper (target : String) (port : Value) : (disk target port).isProper = true := by
  have host : (Node.bare "host" [("name", "localhost"), ("port", portText port)]).isProper =
      true := by
    simp only [Node.isProper, List.all_cons, List.all_nil]
    decide
  have source : (Node.frame "source" [("protocol", "nbd")] _).isProper = true :=
    isProper_frame (by decide) (by decide)
      (allProper_of_forall (List.forall_mem_singleton.mpr host))
  have driver : (Node.bare "driver" [("name", "qemu"), ("type", "raw")]).isProper = true := by
    decide
  have targetMarked : (Node.bare "target" [("dev", target)]).isProper = true :=
    marked_proper (by decide) (by decide) target
  refine isProper_frame (by decide) (by decide) ?_
  simp only [allProper, driver, source, targetMarked, Bool.and_self]

theorem removable_proper (device : String) : (removable device).isProper = true := by
  have driver : (Node.bare "driver" [("name", "qemu"), ("type", "raw")]).isProper = true := by
    decide
  have targetMarked : (Node.bare "target" [("dev", device)]).isProper = true :=
    marked_proper (by decide) (by decide) device
  refine isProper_frame (by decide) (by decide) ?_
  simp only [allProper, driver, targetMarked, Bool.and_self]

theorem interface_proper (m : Machine) (addressOf : String → Option String) (name : String) :
    (interface m addressOf name).isProper = true := by
  have source : (Node.bare "source" [("network", network m name)]).isProper = true :=
    marked_proper (by decide) (by decide) (network m name)
  have target : (Node.bare "target" [("dev", name)]).isProper = true :=
    marked_proper (by decide) (by decide) name
  have mac : allProper (address (addressOf name)) = true := by
    cases addressOf name with
    | none => rfl
    | some text =>
      have marked : (Node.bare "mac" [("address", text)]).isProper = true :=
        marked_proper (by decide) (by decide) text
      simp only [address, allProper, marked, Bool.and_self]
  refine isProper_frame (by decide) (by decide) ?_
  rw [allProper_append, mac]
  simp only [allProper, source, target, Bool.and_self]

theorem devices_proper (m : Machine) (ports : List Value) (addressOf : String → Option String) :
    (devices m ports addressOf).isProper = true := by
  refine isProper_frame (by decide) (by simp) (allProper_of_forall ?_)
  intro n listed
  simp only [List.mem_append] at listed
  rcases listed with (listed | listed) | listed
  · rw [disks, ← List.map_uncurry_zip_eq_zipWith] at listed
    obtain ⟨⟨target, port⟩, -, rfl⟩ := List.mem_map.mp listed
    exact disk_proper _ _
  · obtain ⟨device, -, rfl⟩ := List.mem_map.mp listed
    exact removable_proper device
  · obtain ⟨name, -, rfl⟩ := List.mem_map.mp listed
    exact interface_proper m addressOf name

theorem nodes_proper (o : Order) (addressOf : String → Option String)
    (allowed : hasDoubleHyphen o.program.toList = false) :
    allProper (nodes o addressOf) = true := by
  have bannerProper : (Node.comment (banner o.program)).isProper = true := by
    rw [Node.isProper, isComment_banner, allowed]
    rfl
  have noteProper : (Node.comment note).isProper = true := isComment_note
  have heads : allProper [.labelled "name" [] o.machine.name,
      .labelled "memory" [("unit", "KiB")] (numeral (o.machine.memory / 1024)),
      .labelled "currentMemory" [("unit", "KiB")] (numeral (o.machine.memory / 1024)),
      .labelled "vcpu" [] (numeral o.machine.processors)] = true := by
    simp only [allProper, Node.isProper, List.all_cons, List.all_nil]
    decide
  have system : (Node.frame "os" [] [.labelled "type" [("arch", o.architecture)] "hvm"]).isProper =
      true := by
    have type : (Node.labelled "type" [("arch", o.architecture)] "hvm").isProper = true := by
      simp only [Node.isProper, List.all_cons, List.all_nil]
      decide
    exact isProper_frame (by decide) (by simp) (by simp only [allProper, type, Bool.and_self])
  have inner : allProper (parts o addressOf) = true := by
    rw [parts, allProper_append, allProper_append, allProper_append, heads, processor_proper,
      clock_proper]
    simp only [allProper, system, features_proper, devices_proper, Bool.and_self]
  have rootProper : (root o addressOf).isProper = true :=
    isProper_frame (by decide) (by decide) inner
  simp only [nodes_eq, allProper, bannerProper, noteProper, rootProper, Bool.and_self]

theorem countP_nodes (o : Order) (addressOf : String → Option String) :
    (nodes o addressOf).countP Node.isElement ≤ 1 := by
  rw [nodes, List.countP_cons_of_neg (by simp [Node.isElement]),
    List.countP_cons_of_neg (by simp [Node.isElement])]
  exact List.countP_le_length

/-- **The text of an outline is read back as its nodes.** -/
theorem readDocument_text (o : Order) (addressOf : String → Option String)
    (allowed : hasDoubleHyphen o.program.toList = false) :
    readDocument (text o addressOf) = some (nodes o addressOf) := by
  have blank : (defaultIndent.toList.all fun c => c.isWhitespace) = true := by decide
  exact readDocument_render (List.all_eq_true.mp blank) (nodes_proper o addressOf allowed)
    (countP_nodes o addressOf)

end Outline

end MachineDescriptor.Document
