import MachineDescriptor.Proofs.Decoding
import MachineDescriptor.Proofs.Processing

/-!
What a processor of XML makes of the document about a machine. Every string that the document is
given is escaped and nothing more, so that it comes back as it was only if it has no character that
a document may not have, no carriage return, and, in an attribute, no tab and no line feed either.
-/
namespace MachineDescriptor.Document

open Xml

/-- The strings that a document is given for its comments and texts. -/
def Order.texts (o : Order) : List String :=
  o.program :: o.machine.name ::
    (o.machine.processor.vendor.toList ++ o.machine.processor.model.toList)

/-- The strings that a document is given for values of attributes. -/
def Order.values (o : Order) (addressOf : String → Option String) : List String :=
  o.architecture ::
    (((Outline.targets o.machine.disks).zip o.ports).flatMap
        (fun d => [d.1, Outline.portText d.2]) ++
      o.machine.removable.getD [] ++
      (o.machine.interfaces.getD []).flatMap fun i =>
        Outline.network o.machine i :: i :: (addressOf i).toList)

namespace Outline

variable {P Q : Char → Prop}

theorem every_frame {p q : String → Prop} (name : String) (attributes : List (String × String))
    (children : List Xml.Node) :
    (Node.frame name attributes children).Every p q ↔
      (∀ a ∈ attributes, q a.2) ∧ Everywhere p q children := by
  cases children with
  | nil => simp [Node.frame, Node.Every, Everywhere]
  | cons n rest => rfl

theorem everywhere_append {p q : String → Prop} (as bs : List Xml.Node) :
    Everywhere p q (as ++ bs) ↔ Everywhere p q as ∧ Everywhere p q bs := by
  induction as with
  | nil => simp [Everywhere]
  | cons n rest ih => simp [Everywhere, ih, and_assoc]

theorem everywhere_iff {p q : String → Prop} (nodes : List Xml.Node) :
    Everywhere p q nodes ↔ ∀ n ∈ nodes, n.Every p q := by
  induction nodes with
  | nil => simp [Everywhere]
  | cons n rest ih => simp [Everywhere, ih]

theorem each_of_graphic (plain : ∀ c, isGraphic c = true → P c) {s : String}
    (graphic : s.toList.all isGraphic = true) : Each P s :=
  fun c listed => plain c (List.all_eq_true.mp graphic c listed)

theorem each_numeral (plain : ∀ c, isGraphic c = true → P c) (n : Int) : Each P (numeral n) := by
  refine each_of_graphic plain (List.all_eq_true.mpr fun c listed => ?_)
  rw [numeral_toList, Integer.text, List.mem_append] at listed
  rcases listed with sign | digit
  · obtain rfl : c = '-' := by
      split at sign
      · exact List.mem_singleton.mp sign
      · cases sign
    decide
  · have isDigit := Nat.isDigit_of_mem_toDigits (by omega) (by omega) digit
    have bounds : 48 ≤ c.toNat ∧ c.toNat ≤ 57 := by
      simpa [Char.isDigit, UInt32.le_iff_toNat_le] using isDigit
    exact isGraphic_iff.mpr (by omega)

theorem each_banner (plain : ∀ c, isGraphic c = true → P c) (program : String) :
    Each P (banner program) ↔ Each P program := by
  have blank : Each P " " := each_of_graphic plain (by decide)
  have number : Each P version := each_of_graphic plain (by decide)
  rw [Each] at blank number
  simp only [Each, banner, String.toList_append, List.forall_mem_append, and_true, true_and,
    eq_true blank, eq_true number]

theorem given_every {p q : String → Prop} (name : String) {attributes : List (String × String)}
    (marked : ∀ a ∈ attributes, q a.2) (text : Option String) :
    Everywhere p q (given name attributes text) ↔ ∀ s ∈ text.toList, p s := by
  cases text with
  | none => simp [given, Everywhere]
  | some s => simpa [given, Everywhere, Node.Every] using fun _ a b => marked (a, b)

theorem counted_every (plain : ∀ c, isGraphic c = true → Q c) (name : String) (n : Int) :
    ∀ a ∈ counted name n, Each Q a.2 := by
  unfold counted
  split
  · simp
  · exact List.forall_mem_singleton.mpr (each_numeral plain n)

theorem topology_every (plain : ∀ c, isGraphic c = true → Q c) (p : Processor) :
    Everywhere (Each P) (Each Q) (topology p) := by
  unfold topology
  split
  · trivial
  · refine ⟨?_, trivial⟩
    simp only [Node.Every, List.forall_mem_append]
    exact ⟨⟨counted_every plain _ _, counted_every plain _ _⟩, counted_every plain _ _⟩

theorem processor_every (plain : ∀ c, isGraphic c = true → Q c) (p : Processor) :
    Everywhere (Each P) (Each Q) (processor p) ↔
      ∀ s ∈ p.vendor.toList ++ p.model.toList, Each P s := by
  unfold processor
  split
  · next unknown =>
    obtain ⟨vendor, model, -⟩ := unknown
    simp [vendor, model, Everywhere]
  · have minimum : ∀ a ∈ [("match", "minimum")], Each Q a.2 :=
      List.forall_mem_singleton.mpr (each_of_graphic plain (by decide))
    have fallback : ∀ a ∈ [("fallback", "allow")], Each Q a.2 :=
      List.forall_mem_singleton.mpr (each_of_graphic plain (by decide))
    simp only [Everywhere, every_frame, everywhere_append, topology_every plain, and_true,
      given_every _ fallback, given_every _ (List.forall_mem_nil _), List.forall_mem_append]
    exact and_iff_right minimum

theorem clock_every (plain : ∀ c, isGraphic c = true → Q c) (c : Clock) :
    Everywhere (Each P) (Each Q) (clock c) := by
  unfold clock
  split
  · trivial
  · exact ⟨List.forall_mem_singleton.mpr (each_of_graphic plain (by decide)), trivial⟩
  · refine ⟨?_, trivial⟩
    rw [Node.Every]
    split
    · exact List.forall_mem_singleton.mpr (each_of_graphic plain (by decide))
    · simp only [List.forall_mem_cons]
      refine ⟨each_of_graphic plain (by decide), each_of_graphic plain (by decide),
        each_numeral plain _, List.forall_mem_nil _⟩

theorem features_every (p : Processor) : (features p).Every (Each P) (Each Q) := by
  rw [features, every_frame, everywhere_iff]
  refine ⟨List.forall_mem_nil _, fun n listed => ?_⟩
  obtain ⟨f, -, rfl⟩ := List.mem_map.mp listed
  exact List.forall_mem_nil _

theorem disk_every (plain : ∀ c, isGraphic c = true → Q c) (target : String) (port : Value) :
    (disk target port).Every (Each P) (Each Q) ↔ Each Q target ∧ Each Q (portText port) := by
  simp (disch := decide) only [disk, every_frame, Everywhere, Node.Every, List.forall_mem_cons,
    List.not_mem_nil, false_implies, implies_true, each_of_graphic plain, and_true, true_and]
  exact and_comm

theorem removable_every (plain : ∀ c, isGraphic c = true → Q c) (device : String) :
    (removable device).Every (Each P) (Each Q) ↔ Each Q device := by
  simp (disch := decide) only [removable, every_frame, Everywhere, Node.Every, List.forall_mem_cons,
    List.not_mem_nil, false_implies, implies_true, each_of_graphic plain, and_true, true_and]

theorem interface_every (plain : ∀ c, isGraphic c = true → Q c) (m : Machine)
    (addressOf : String → Option String) (name : String) :
    (interface m addressOf name).Every (Each P) (Each Q) ↔
      ∀ s ∈ network m name :: name :: (addressOf name).toList, Each Q s := by
  have mac : Everywhere (Each P) (Each Q) (address (addressOf name)) ↔
      ∀ s ∈ (addressOf name).toList, Each Q s := by
    cases addressOf name with
    | none => simp [address, Everywhere]
    | some text => simp [address, Everywhere, Node.Every]
  simp (disch := decide) only [interface, every_frame, everywhere_append, Everywhere, Node.Every,
    List.forall_mem_cons, List.not_mem_nil, false_implies, implies_true, each_of_graphic plain,
    and_true, true_and, mac, and_assoc]

theorem devices_every (plain : ∀ c, isGraphic c = true → Q c) (m : Machine) (ports : List Value)
    (addressOf : String → Option String) :
    (devices m ports addressOf).Every (Each P) (Each Q) ↔
      ∀ s ∈ ((targets m.disks).zip ports).flatMap (fun d => [d.1, portText d.2]) ++
        m.removable.getD [] ++
        (m.interfaces.getD []).flatMap fun i => network m i :: i :: (addressOf i).toList,
        Each Q s := by
  have drives : Everywhere (Each P) (Each Q) (disks m ports) ↔
      ∀ s ∈ ((targets m.disks).zip ports).flatMap (fun d => [d.1, portText d.2]),
        Each Q s := by
    rw [disks, ← List.map_uncurry_zip_eq_zipWith, everywhere_iff, List.forall_mem_map,
      List.forall_mem_flatMap]
    refine forall₂_congr fun d _ => (disk_every plain d.1 d.2).trans ?_
    simp only [List.forall_mem_cons, List.not_mem_nil, false_implies, implies_true, and_true]
  simp only [devices, every_frame, List.not_mem_nil, false_implies, implies_true, true_and,
    everywhere_append, drives, List.forall_mem_append]
  simp only [everywhere_iff, List.forall_mem_map, removable_every plain, interface_every plain,
    List.forall_mem_flatMap]

theorem note_graphic : (note.toList.all fun c => isGraphic c || c == '\n') = true := by
  unfold note
  repeat rw [← String.ofList_append]
  rw [String.toList_ofList]
  decide +kernel

/-- Every character in the nodes of a document has a property, in the texts one and in the values of
attributes another, if the strings that the document is given have them. -/
theorem nodes_every (plainP : ∀ c, isGraphic c = true → P c) (feed : P '\n')
    (plainQ : ∀ c, isGraphic c = true → Q c) (o : Order) (addressOf : String → Option String) :
    Everywhere (Each P) (Each Q) (nodes o addressOf) ↔
      (∀ s ∈ o.texts, Each P s) ∧ ∀ s ∈ o.values addressOf, Each Q s := by
  have noteEach : Each P note := by
    intro c listed
    rcases (Bool.or_eq_true _ _).mp (List.all_eq_true.mp note_graphic c listed) with graphic | e
    · exact plainP c graphic
    · rwa [beq_iff_eq.mp e]
  have whole : nodes o addressOf = [.comment (banner o.program), .comment note,
      .frame "domain" [("type", "physical")] (parts o addressOf)] := nodes_eq o addressOf
  rw [whole, Everywhere, Everywhere, Node.Every, Node.Every, each_banner plainP,
    and_iff_right noteEach, Order.texts, List.forall_mem_cons, and_assoc]
  simp (disch := decide) only [parts, every_frame, everywhere_append, Everywhere,
    Node.Every, List.forall_mem_cons, List.not_mem_nil, false_implies, implies_true,
    each_of_graphic plainP, each_of_graphic plainQ, each_numeral plainP,
    processor_every plainQ, clock_every plainQ, features_every, devices_every plainQ, and_true,
    true_and, Order.values]

end Outline

/-- **A document is processed to its nodes if its strings allow it.** The characters of a document
that is rendered may stand in one if those of the strings that it is given may. Then a processor
takes from it the nodes with line feeds for other line ends, and with spaces for breaks in values of
attributes. These are the nodes as they were if no comment and no text is given a carriage return,
and no value of an attribute a break. -/
theorem process_of_rendered {o : Order} {tree : Files.Tree} {journal : Log.Journal} {text : String}
    (undisturbed : o.Undisturbed tree journal.files)
    (rendered : (render o tree journal).1 = .ok text) :
    let addressOf := Outline.addresses tree o.interfaces
    (Each (isCharacter o.letters · = true) text ↔
      (∀ s ∈ o.texts, Each (isCharacter o.letters · = true) s) ∧
        ∀ s ∈ o.values addressOf, Each (isCharacter o.letters · = true) s) ∧
    (Each (isCharacter o.letters · = true) text →
      process o.letters text = some (mapAll lineFed (spacedOut ∘ lineFed) (Outline.nodes o addressOf))) ∧
    (process o.letters text = some (Outline.nodes o addressOf) ↔
      (∀ s ∈ o.texts, Each (fun c => isCharacter o.letters c = true ∧ c ≠ '\r') s) ∧
        ∀ s ∈ o.values addressOf,
          Each (fun c => isCharacter o.letters c = true ∧ isBreak c = false) s) := by
  intro addressOf
  obtain ⟨allowed, rfl⟩ := text_of_rendered undisturbed rendered
  have proper := Outline.nodes_proper o addressOf allowed
  have single := Outline.countP_nodes o addressOf
  have characters : Allowed o.letters (Outline.text o addressOf) ↔ _ := allowed_document proper
  refine ⟨?_, ?_, ?_⟩
  · rw [← Outline.nodes_every (fun _ => isCharacter_of_isGraphic) isCharacter_lineFeed
      (fun _ => isCharacter_of_isGraphic)]
    exact characters
  · exact fun each => (process_render proper single).1 (characters.mp each)
  · have noReturn : ∀ c, isGraphic c = true → isCharacter o.letters c = true ∧ c ≠ '\r' := by
      intro c graphic
      refine ⟨isCharacter_of_isGraphic graphic, ?_⟩
      rintro rfl
      cases graphic
    have noBreak : ∀ c, isGraphic c = true → isCharacter o.letters c = true ∧ isBreak c = false := by
      intro c graphic
      refine ⟨isCharacter_of_isGraphic graphic, eq_false_of_ne_true fun breaks => ?_⟩
      simp only [isBreak, Bool.or_eq_true, beq_iff_eq] at breaks
      rcases breaks with (rfl | rfl) | rfl <;> cases graphic
    rw [← Outline.nodes_every noReturn ⟨isCharacter_lineFeed, by decide⟩ noBreak]
    exact process_render_eq_iff proper single

/-- An order with a removable drive that has a tab in its name. -/
def tabbedOrder : Order :=
  { smallOrder with machine := { smallOrder.machine with removable := some ["cd\t0"] } }

/-- A tab in the name of a drive does not come back. -/
theorem process_tabbedOrder :
    (render tabbedOrder smallTree smallJournal).1 =
      .ok (Outline.text tabbedOrder (Outline.addresses smallTree tabbedOrder.interfaces)) ∧
    process .plain (Outline.text tabbedOrder (Outline.addresses smallTree tabbedOrder.interfaces)) ≠
      some (Outline.nodes tabbedOrder (Outline.addresses smallTree tabbedOrder.interfaces)) := by
  have undisturbed : tabbedOrder.Undisturbed smallTree smallJournal.files :=
    tabbedOrder.undisturbed_fresh smallTree _
  have faults : tabbedOrder.faults (tabbedOrder.found smallTree) = [] := faults_smallOrder
  have allowed : hasDoubleHyphen tabbedOrder.program.toList = false := by decide
  have rendered : (render tabbedOrder smallTree smallJournal).1 =
      .ok (Outline.text tabbedOrder (Outline.addresses smallTree tabbedOrder.interfaces)) := by
    rw [render_outcome undisturbed, Order.outcome, allowed, if_neg Bool.false_ne_true, faults,
      text_found (answered_of_faultless faults)]
  obtain ⟨-, -, faithful⟩ := process_of_rendered undisturbed rendered
  refine ⟨rendered, fun same => ?_⟩
  have given : "cd\t0" ∈
      tabbedOrder.values (Outline.addresses smallTree tabbedOrder.interfaces) := by
    simp [Order.values, tabbedOrder]
  have plain := (faithful.mp same).2 "cd\t0" given '\t' (by decide)
  exact absurd plain.2 (by decide)

end MachineDescriptor.Document
