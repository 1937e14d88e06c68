import MachineDescriptor.Proofs.Rendering

/-!
The addresses of interfaces do not stand in the way of a document. An address that cannot be read is
missing, whatever the tree and the names are; only a path that cannot be encoded or has a null
character in it stops the lookup, and with it the document.
-/
namespace MachineDescriptor

/-! ## Null characters in paths -/

namespace Files.Path

/-- A character other than the separator is in one of the parts. -/
theorem exists_mem_splitAfter {separator c : Char} (other : c ≠ separator) {begun cs : List Char}
    (inside : c ∈ begun ∨ c ∈ cs) : ∃ part ∈ Text.splitAfter separator begun cs, c ∈ part := by
  induction cs generalizing begun with
  | nil =>
    have before : c ∈ begun := inside.resolve_right List.not_mem_nil
    exact ⟨begun.reverse, List.mem_singleton.mpr rfl, List.mem_reverse.mpr before⟩
  | cons d rest ih =>
    by_cases ends : d = separator
    · rw [Text.splitAfter, if_pos ends]
      obtain before | here := inside
      · exact ⟨begun.reverse, List.mem_cons_self, List.mem_reverse.mpr before⟩
      · have later : c ∈ rest :=
          (List.mem_cons.mp here).resolve_left fun same => other (same.trans ends)
        obtain ⟨part, listed, found⟩ : ∃ part ∈ Text.splitAfter separator [] rest, c ∈ part :=
          ih (.inr later)
        exact ⟨part, List.mem_cons_of_mem _ listed, found⟩
    · rw [Text.splitAfter, if_neg ends]
      refine ih ?_
      obtain before | here := inside
      · exact .inl (List.mem_cons_of_mem d before)
      · obtain rfl | later := List.mem_cons.mp here
        · exact .inl List.mem_cons_self
        · exact .inr later

theorem hasNull_ofString_iff (s : String) : (ofString s).hasNull = true ↔ '\x00' ∈ s.toList := by
  constructor
  · intro null
    refine Classical.byContradiction fun clear => ?_
    rw [Document.hasNull_ofString clear] at null
    cases null
  · intro inside
    have other : '\x00' ≠ '/' := by decide
    obtain ⟨part, listed, null⟩ : ∃ part ∈ Text.split '/' s.toList, '\x00' ∈ part :=
      exists_mem_splitAfter other (.inr inside)
    have kept : part ∈ (Text.split '/' s.toList).filter fun part =>
        !part.isEmpty && part != ['.'] := by
      refine List.mem_filter.mpr ⟨listed, ?_⟩
      have filled : part ≠ [] := List.ne_nil_of_mem null
      have noDot : part ≠ ['.'] := by
        rintro rfl
        exact absurd null (by decide)
      simp [filled, noDot]
    refine List.any_eq_true.mpr ⟨String.ofList part, List.mem_map_of_mem kept, ?_⟩
    rw [String.toList_ofList, List.contains_iff_mem]
    exact null

theorem root_ofString_iff (s : String) :
    (ofString s).root = .current ↔ s.toList.head? ≠ some '/' := by
  change rootOf s.toList = .current ↔ _
  cases s.toList with
  | nil => decide
  | cons c rest =>
    by_cases slash : c = '/'
    · subst slash
      unfold rootOf
      split <;> simp_all
    · simp [rootOf, slash]

theorem hasNull_join_eq (p q : Path) :
    (p.join q).hasNull = (q.hasNull || (decide (q.root = .current) && p.hasNull)) := by
  unfold join
  cases q.root with
  | current => simp [hasNull, Bool.or_comm]
  | root | doubleRoot => simp

end Files.Path

namespace Network

open Files (Path)

/-- Whether the name of an interface, put below a directory, is free of null characters. A name that
is itself a path from the root leads away from the directory. -/
def IsClear (directory : Path) (interface : String) : Prop :=
  '\x00' ∉ interface.toList ∧ (interface.toList.head? = some '/' ∨ directory.hasNull = false)

theorem hasNull_addressPath_iff (directory : Path) (interface : String) :
    (addressPath directory interface).hasNull = false ↔ IsClear directory interface := by
  have inName := Path.hasNull_ofString_iff interface
  have fromRoot := Path.root_ofString_iff interface
  have inFile : (Files.Path.mk .current [addressFile]).hasNull = false := by decide
  rw [addressPath, Path.hasNull_join_eq, Path.hasNull_join_eq, inFile, IsClear, ← inName]
  by_cases current : (Path.ofString interface).root = .current
  · have below := fromRoot.mp current
    simp [current, below]
  · have away : interface.toList.head? = some '/' := Classical.not_not.mp (mt fromRoot.mpr current)
    simp [current, away]

/-- Whether the path of an interface's address can be encoded: no surrogate code is in it but for
those that stand for bytes. -/
def IsEncodable (letters : Text.Letters) (directory : Path) (interface : String) : Prop :=
  ∀ c ∈ (Document.Outline.addressPath directory interface).toString.toList,
    ∀ code, letters.code? c = some code → 0xdc80 ≤ code ∧ code ≤ 0xdcff

theorem isEncodable_iff (letters : Text.Letters) (directory : Path) (interface : String) :
    IsEncodable letters directory interface ↔
      unencodable? letters directory interface = none := by
  rw [← Document.Outline.unencodable?_eq, Document.Outline.unencodable?,
    Text.Letters.pathFault?_eq_none_iff]
  simp only [IsEncodable, Text.Letters.isByte, Bool.and_eq_true, decide_eq_true_eq]

/-- Whether the address of an interface may be looked up. -/
def IsHarmless (letters : Text.Letters) (directory : Path) (interface : String) : Prop :=
  IsClear directory interface ∧ IsEncodable letters directory interface

/-- The lookup of an address answers, unless its path cannot be encoded or there is a null character
in it. -/
theorem lookUp_answers (letters : Text.Letters) (tree : Files.Tree) (directory : Path)
    (interface : String) :
    (IsHarmless letters directory interface →
      ∃ finding, lookUp letters tree directory interface = .ok finding) ∧
    (IsEncodable letters directory interface → ¬IsClear directory interface →
      lookUp letters tree directory interface = .error .nullInPath) ∧
    (¬IsEncodable letters directory interface →
      ∃ codes, lookUp letters tree directory interface = .error (.unencodable codes)) := by
  rw [IsHarmless, isEncodable_iff, ← hasNull_addressPath_iff]
  rcases lookUp_cases letters tree directory interface with
    ⟨codes, fault, stray⟩ |
      ⟨encoded, ⟨null, failed⟩ | ⟨clear, ⟨bytes, -, found⟩ | ⟨why, -, unreadable⟩⟩⟩
  · simp [fault, stray]
  · simp [encoded, null, failed]
  · simp [encoded, clear, found]
  · simp [encoded, clear, unreadable]

end Network

/-! ## Documents with any interfaces -/

namespace Document

open Xml

/-- What is found out about an interface as far as a document depends on it: whether it may be
looked up. -/
def lookedUp (letters : Text.Letters) (directory : Files.Path) (interface : String) : Found :=
  match Network.unencodable? letters directory interface with
  | some codes => .error (.unencodable codes)
  | none =>
    if (Network.addressPath directory interface).hasNull then .error .nullInPath else .ok none

/-- A stream in memory that takes every text, whatever is on it and whatever the files hold. -/
def OpenMemory (m : Memory × Files.Tree) (_ : String) : Prop := ∃ t, m.1.Holds t

theorem OpenMemory.faithful : Faithful OpenMemory where
  write := by
    rintro ⟨m, tree⟩ _ ⟨t, held⟩ u
    obtain ⟨m', put, held'⟩ := Memory.faithful.write held u
    refine ⟨(m', tree), ?_, _, held'⟩
    simp only [Stream.write, besideTree] at put ⊢
    rw [put]
  flush := by
    rintro ⟨m, tree⟩ _ ⟨t, held⟩
    obtain ⟨m', flushed, held'⟩ := Memory.faithful.flush held
    refine ⟨(m', tree), ?_, _, held'⟩
    simp only [Stream.flush, besideTree] at flushed ⊢
    rw [flushed]

theorem OpenMemory.bears (m : Memory) (t : String) (files : List Files.Location) :
    Log.Journal.Bears (fun tree => OpenMemory (m, tree) t) files :=
  fun _ _ _ _ held => held

variable {indent : String} {path : Option String}

/-- On a stream of which only that it takes texts is known, one node is like another. -/
theorem exchange_lays {a : Work Memory Unit} {faults : List Fault} {n : Xml.Node}
    (lays : Lays (Desk.Holds OpenMemory) indent path a faults [n]) (n' : Xml.Node) :
    Lays (Desk.Holds OpenMemory) indent path a faults [n'] := by
  intro closed d outer ns stream room held
  have comes := lays closed d outer ns stream room held
  cases faults with
  | nil =>
    obtain ⟨stream', done, held'⟩ := comes
    exact ⟨stream', done, held'⟩
  | cons f rest => exact comes

/-- An action that goes on with the address of an interface, whatever that turns out to be. -/
theorem lookUpAddress_lays_of_all {letters : Text.Letters} {directory : Files.Path}
    {interface : String} {next : Option String → Work Memory Unit} {n : Xml.Node}
    (lays : ∀ address, Lays (Desk.Holds OpenMemory) indent path (next address) [] [n]) :
    Lays (Desk.Holds OpenMemory) indent path (lookUpAddress letters directory interface >>= next)
      (foundFaults (lookedUp letters directory interface)) [n] := by
  intro closed d outer ns stream room held
  unfold lookUpAddress theTree lookedUp
  simp only [bind_assoc, pure_bind]
  rw [get_bind]
  simp only [Scaffold.writer]
  rcases Network.lookUp_cases letters stream.tree directory interface with
    ⟨codes, fault, stray⟩ |
      ⟨encoded, ⟨null, failed⟩ | ⟨clear, ⟨bytes, -, found⟩ | ⟨why, -, unreadable⟩⟩⟩
  · rw [stray, fault]
    exact Lays.of_fault (fun w => rfl) [n] closed d outer ns stream room held
  · rw [failed, encoded, null]
    exact Lays.of_fault (fun w => rfl) [n] closed d outer ns stream room held
  · rw [found, encoded, clear]
    exact lays _ closed d outer ns stream room held
  · rw [unreadable, encoded, clear]
    exact Lays.bind (say_lays _ _ _ _) (lays none) closed d outer ns stream room held

theorem laysInterfaces_openMemory (o : Order) :
    LaysInterfaces OpenMemory indent path o (lookedUp o.letters o.interfaces) := by
  intro interface _
  rw [writeInterface_eq]
  exact lookUpAddress_lays_of_all fun address =>
    exchange_lays (writeAddressed_lays OpenMemory.faithful o interface address) _

/-- Whatever the addresses are and wherever the journal writes to, a document comes to the outcome
that it has when no interface has an address, up to its text. -/
theorem render_verdict (o : Order) (tree : Files.Tree) (journal : Log.Journal) :
    (render o tree journal).1.map (fun _ => ()) =
      (o.outcome none (lookedUp o.letters o.interfaces)).map fun _ => () := by
  have held : Desk.Holds OpenMemory ⟨Memory.empty, tree, journal⟩ "" :=
    ⟨⟨"", Memory.empty_holds⟩, fun m t => OpenMemory.bears m t _⟩
  unfold render outcomeOf Order.outcome
  cases allowed : hasDoubleHyphen o.program.toList with
  | true =>
    obtain ⟨w, failed, -⟩ := write_of_refused defaultIndent none OpenMemory.faithful o allowed held
    rw [Writer.inMemory, bind_of_error failed]
    rfl
  | false =>
    have comes := write_comes_of_interfaces defaultIndent none OpenMemory.faithful o
      (laysInterfaces_openMemory o) allowed held
    cases faults : o.faults (lookedUp o.letters o.interfaces) with
    | nil =>
      rw [faults] at comes
      obtain ⟨d, done, ⟨t, held'⟩, -⟩ := comes
      have value : Stream.value d = .ok t := Memory.value_of_holds held'
      rw [Writer.inMemory, bind_of_ok done]
      simp only [contents, Scaffold.writer, value]
      rfl
    | cons f rest =>
      rw [faults] at comes
      obtain ⟨w, t, failed, -⟩ := comes
      rw [Writer.inMemory, bind_of_error failed]
      rfl

/-- A document is rendered when no fault but those of addresses is met and every address may be looked
up. -/
theorem rendered_iff (o : Order) (tree : Files.Tree) (journal : Log.Journal) :
    (∃ text, (render o tree journal).1 = .ok text) ↔
      hasDoubleHyphen o.program.toList = false ∧ o.faults (lookedUp o.letters o.interfaces) = [] := by
  have verdict := render_verdict o tree journal
  unfold Order.outcome at verdict
  cases allowed : hasDoubleHyphen o.program.toList with
  | true =>
    rw [allowed, if_pos rfl] at verdict
    refine ⟨?_, fun proper => absurd proper.1 (by decide)⟩
    rintro ⟨text, rendered⟩
    rw [rendered] at verdict
    cases verdict
  | false =>
    rw [allowed, if_neg Bool.false_ne_true] at verdict
    cases faults : o.faults (lookedUp o.letters o.interfaces) with
    | nil =>
      refine ⟨fun _ => ⟨rfl, rfl⟩, fun _ => ?_⟩
      cases outcome : (render o tree journal).1 with
      | ok text => exact ⟨text, rfl⟩
      | error f =>
        rw [outcome, faults] at verdict
        cases verdict
    | cons f rest =>
      refine ⟨?_, fun proper => absurd proper.2 (List.cons_ne_nil f rest)⟩
      rintro ⟨text, rendered⟩
      rw [rendered, faults] at verdict
      cases verdict

theorem render_of_fault {o : Order} {tree : Files.Tree} {journal : Log.Journal} {f : Fault}
    {rest : List Fault} (allowed : hasDoubleHyphen o.program.toList = false)
    (faults : o.faults (lookedUp o.letters o.interfaces) = f :: rest) :
    (render o tree journal).1 = .error (.fault f) := by
  have verdict := render_verdict o tree journal
  rw [Order.outcome, allowed, if_neg Bool.false_ne_true, faults] at verdict
  cases outcome : (render o tree journal).1 with
  | ok text =>
    rw [outcome] at verdict
    cases verdict
  | error failure =>
    rw [outcome] at verdict
    rw [Except.error.inj verdict]

/-- The order for the machine with other interfaces. -/
def Order.withInterfaces (o : Order) (interfaces : Option (List String)) : Order :=
  { o with machine := { o.machine with interfaces } }

theorem faults_withInterfaces (o : Order) (names : List String) (found : String → Found) :
    (o.withInterfaces (some names)).faults found =
      (o.withInterfaces none).faults found ++ names.flatMap fun i => foundFaults (found i) := by
  simp only [Order.faults, Order.withInterfaces, Option.getD_some, Option.getD_none,
    List.flatMap_nil, List.append_nil, List.append_assoc]

theorem lookedUp_of_harmless {letters : Text.Letters} {directory : Files.Path} {interface : String}
    (harmless : Network.IsHarmless letters directory interface) :
    lookedUp letters directory interface = .ok none := by
  obtain ⟨clear, encodable⟩ := harmless
  rw [Network.isEncodable_iff] at encodable
  rw [lookedUp, encodable]
  dsimp only
  rw [(Network.hasNull_addressPath_iff directory interface).mpr clear, if_neg Bool.false_ne_true]

/-- Of a name that does harm the lookup fails, and what a document depends on fails alike. -/
theorem lookedUp_of_harmful {letters : Text.Letters} {directory : Files.Path} {interface : String}
    (harmful : ¬Network.IsHarmless letters directory interface) (tree : Files.Tree) :
    ∃ f, Network.lookUp letters tree directory interface = .error f ∧
      lookedUp letters directory interface = .error f := by
  rw [Network.IsHarmless, Network.isEncodable_iff, ← Network.hasNull_addressPath_iff] at harmful
  unfold lookedUp
  rcases Network.lookUp_cases letters tree directory interface with
    ⟨codes, fault, stray⟩ | ⟨encoded, ⟨null, failed⟩ | ⟨clear, -⟩⟩
  · exact ⟨_, stray, by rw [fault]⟩
  · refine ⟨_, failed, ?_⟩
    rw [encoded]
    dsimp only
    rw [null, if_pos rfl]
  · exact absurd ⟨clear, encoded⟩ harmful

theorem lookedUpFaults_of_harmless {letters : Text.Letters} {directory : Files.Path}
    {names : List String} (harmless : ∀ i ∈ names, Network.IsHarmless letters directory i) :
    (names.flatMap fun i => foundFaults (lookedUp letters directory i)) = [] := by
  refine List.flatMap_eq_nil_iff.mpr fun i listed => ?_
  rw [lookedUp_of_harmless (harmless i listed)]
  rfl

/-- **An interface stands in the way of nothing but by a path that cannot be encoded or has a null
character in it.** Whatever the tree holds, the lookup of an address answers unless that is so, and
then it is a fault. A document that is rendered without interfaces is rendered with any names that
may be looked up, and else fails with the fault of the first that may not. -/
theorem interfaces_bestEffort (o : Order) (tree : Files.Tree) (journal : Log.Journal)
    (names : List String) :
    (∀ (letters : Text.Letters) (directory : Files.Path) (interface : String),
      (Network.IsHarmless letters directory interface →
        ∃ finding, Network.lookUp letters tree directory interface = .ok finding) ∧
      (Network.IsEncodable letters directory interface → ¬Network.IsClear directory interface →
        Network.lookUp letters tree directory interface = .error .nullInPath) ∧
      (¬Network.IsEncodable letters directory interface →
        ∃ codes, Network.lookUp letters tree directory interface = .error (.unencodable codes))) ∧
    ∀ text, (render (o.withInterfaces none) tree journal).1 = .ok text →
      ((∀ i ∈ names, Network.IsHarmless o.letters o.interfaces i) →
        ∃ text, (render (o.withInterfaces (some names)) tree journal).1 = .ok text) ∧
      ∀ before i after, names = before ++ i :: after →
        (∀ j ∈ before, Network.IsHarmless o.letters o.interfaces j) →
        ¬Network.IsHarmless o.letters o.interfaces i →
        ∃ f, Network.lookUp o.letters tree o.interfaces i = .error f ∧
          (render (o.withInterfaces (some names)) tree journal).1 = .error (.fault f) := by
  refine ⟨fun letters => Network.lookUp_answers letters tree, fun text rendered => ?_⟩
  have proper := (rendered_iff (o.withInterfaces none) tree journal).mp ⟨text, rendered⟩
  obtain ⟨allowed, faultless⟩ : hasDoubleHyphen o.program.toList = false ∧
    (o.withInterfaces none).faults (lookedUp o.letters o.interfaces) = [] := proper
  have faults := faults_withInterfaces o names (lookedUp o.letters o.interfaces)
  rw [faultless, List.nil_append] at faults
  constructor
  · intro harmless
    exact (rendered_iff _ tree journal).mpr
      ⟨allowed, faults.trans (lookedUpFaults_of_harmless harmless)⟩
  · rintro before i after rfl harmless harmful
    obtain ⟨f, failed, first⟩ := lookedUp_of_harmful harmful tree
    rw [List.flatMap_append, lookedUpFaults_of_harmless harmless, List.flatMap_cons, first] at faults
    exact ⟨f, failed, render_of_fault allowed faults⟩

theorem smallOrder_withoutInterfaces :
    ∃ text, (render (smallOrder.withInterfaces none) smallTree smallJournal).1 = .ok text := by
  have given : (smallOrder.withInterfaces none).ports = [10809].map .int := rfl
  refine (rendered_iff _ smallTree smallJournal).mpr ⟨by decide, ?_⟩
  rw [faults_of_short given smallOrder_short]
  rfl

/-- Names that lead out of the directory, or to it, do no harm; a null character and a surrogate
code do. -/
theorem interfaces_smallOrder :
    (∃ finding, Network.lookUp .plain smallTree ⟨.root, ["net"]⟩ "../eth0" = .ok finding) ∧
    Network.lookUp .plain smallTree ⟨.root, ["net"]⟩ "a\x00b" = .error .nullInPath ∧
    (∃ codes, Network.lookUp .first smallTree ⟨.root, ["net"]⟩
      (String.singleton (Text.Letters.first.letter 0xd800)) = .error (.unencodable codes)) ∧
    (∃ text, (render (smallOrder.withInterfaces (some ["", "eth0", "/", ".."])) smallTree
      smallJournal).1 = .ok text) ∧
    (render (smallOrder.withInterfaces (some ["eth0", "a\x00b"])) smallTree smallJournal).1 =
      .error (.fault .nullInPath) := by
  obtain ⟨text, rendered⟩ := smallOrder_withoutInterfaces
  have encodable (directory : Files.Path) (i : String) : Network.IsEncodable .plain directory i := by
    rintro c - code ⟨⟩
  have clear : Network.IsClear ⟨.root, ["net"]⟩ "../eth0" := ⟨by decide, .inr (by decide)⟩
  have null : ¬Network.IsClear ⟨.root, ["net"]⟩ "a\x00b" := fun clear =>
    absurd clear.1 (by decide)
  have stray : ¬Network.IsEncodable .first ⟨.root, ["net"]⟩
      (String.singleton (Text.Letters.first.letter 0xd800)) := by
    rw [Network.isEncodable_iff]
    decide +kernel
  have allClear : ∀ i ∈ ["", "eth0", "/", ".."],
      Network.IsHarmless smallOrder.letters smallOrder.interfaces i := by
    simp only [List.forall_mem_cons]
    exact ⟨⟨⟨by decide, .inr (by decide)⟩, encodable _ _⟩,
      ⟨⟨by decide, .inr (by decide)⟩, encodable _ _⟩,
      ⟨⟨by decide, .inr (by decide)⟩, encodable _ _⟩,
      ⟨⟨by decide, .inr (by decide)⟩, encodable _ _⟩, List.forall_mem_nil _⟩
  obtain ⟨lookups, harmless⟩ :=
    interfaces_bestEffort smallOrder smallTree smallJournal ["", "eth0", "/", ".."]
  obtain ⟨-, harmful⟩ :=
    interfaces_bestEffort smallOrder smallTree smallJournal ["eth0", "a\x00b"]
  obtain ⟨f, failed, refused⟩ := (harmful text rendered).2 ["eth0"] "a\x00b" [] rfl
    (List.forall_mem_singleton.mpr (allClear "eth0" (by decide))) fun harmless => null harmless.1
  have stopped := (lookups smallOrder.letters smallOrder.interfaces "a\x00b").2.1
    (encodable _ _) null
  rw [stopped] at failed
  obtain rfl := Except.error.inj failed
  exact ⟨(lookups .plain _ _).1 ⟨clear, encodable _ _⟩,
    stopped, (lookups _ _ _).2.2 stray,
    (harmless text rendered).1 allClear, refused⟩

end Document

end MachineDescriptor
