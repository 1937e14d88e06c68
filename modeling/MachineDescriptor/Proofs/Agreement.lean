import MachineDescriptor.Document.Outline

/-!
The outline's own rules say what writing goes by: numerals are the texts of integers, what is left
out is what is not known, and networks, targets and addresses are those that the machine's parts are
written with. Letters that come one after the other are those that positions are reckoned to have
(`lettersOf_eq`).
-/
namespace MachineDescriptor.Document.Outline

/-! ## Texts -/

theorem numeral_toList (n : Int) : (numeral n).toList = Integer.text n := by
  have digits : (toString n.natAbs).toList = Nat.toDigits 10 n.natAbs := String.toList_ofList
  unfold numeral Integer.text
  split
  · rw [String.toList_append, digits]
    rfl
  · exact digits

@[simp] theorem plainText_int (n : Int) : plainText (.int n) = numeral n := by
  apply String.toList_injective
  rw [numeral_toList, plainText, String.toList_ofList]
  rfl

@[simp] theorem plainText_text (s : String) : plainText (.text s) = s := by
  simp [plainText, Value.plain]

theorem portText_eq (port : Value) : portText port = plainText port := by
  cases port with
  | int n => exact (plainText_int n).symm
  | _ => rfl

theorem memoryUnits_eq (m : Machine) : m.memoryUnits = m.memory / 1024 :=
  Int.fdiv_eq_ediv_of_nonneg _ (by omega)

theorem banner_eq (program : String) :
    " " ++ program ++ " " ++ version ++ " " = " " ++ program ++ " 0.1.0 " := by
  have spelled : " " ++ version ++ " " = " 0.1.0 " := by decide
  rw [← spelled]
  simp only [String.append_assoc]

theorem note_eq : note = "\n".intercalate remark := by decide +kernel

/-! ## What is known of a processor -/

theorem hasTopology_iff (p : Processor) :
    p.hasTopology = false ↔ p.sockets = 0 ∧ p.cores = 0 ∧ p.threads = 0 := by
  simp [Processor.hasTopology, and_assoc]

theorem isKnown_iff (p : Processor) :
    p.isKnown = false ↔
      p.vendor = none ∧ p.model = none ∧ p.sockets = 0 ∧ p.cores = 0 ∧ p.threads = 0 := by
  rw [← hasTopology_iff, Processor.isKnown]
  simp [and_assoc]

/-! ## Targets -/

theorem letter_succ : ∀ digit < 25, Drive.letter digit ≠ 'z' ∧
    Char.ofNat ((Drive.letter digit).toNat + 1) = Drive.letter (digit + 1) := by
  decide

/-- The last letter of a position, and the letters in front of it. -/
theorem reverse_letters (index : Nat) :
    (Drive.letters index).reverse = Drive.letter (index % 26) ::
      if index < 26 then [] else (Drive.letters (index / 26 - 1)).reverse := by
  rw [Drive.letters]
  by_cases single : index < 26
  · simp [single, Nat.mod_eq_of_lt single]
  · simp [single]

/-- The letters of the next position come after those of a position. -/
theorem lettersAfter_reverse (index : Nat) :
    lettersAfter (Drive.letters index).reverse = (Drive.letters (index + 1)).reverse := by
  induction index using Nat.strongRecOn with
  | ind index ih =>
    rw [reverse_letters index, reverse_letters (index + 1), lettersAfter]
    by_cases last : index % 26 = 25
    · have wraps : (index + 1) % 26 = 0 := by omega
      have carried : (index + 1) / 26 - 1 = index / 26 := by omega
      have final : Drive.letter 25 = 'z' := by decide
      rw [last, if_pos final, wraps, carried, if_neg (by omega : ¬index + 1 < 26)]
      by_cases single : index < 26
      · rw [if_pos single, Nat.div_eq_of_lt single, reverse_letters 0]
        rfl
      · have before : index / 26 - 1 + 1 = index / 26 := by omega
        rw [if_neg single, ih (index / 26 - 1) (by omega), before]
        rfl
    · have steps : (index + 1) % 26 = index % 26 + 1 := by omega
      have same : (index + 1) / 26 = index / 26 := by omega
      obtain ⟨other, next⟩ := letter_succ (index % 26) (by omega)
      rw [if_neg other, next, steps, same]
      by_cases single : index < 26
      · rw [if_pos single, if_pos (by omega : index + 1 < 26)]
      · rw [if_neg single, if_neg (by omega : ¬index + 1 < 26)]

theorem lettersOf_eq (index : Nat) : (lettersOf index).reverse = Drive.letters index := by
  have reversed : lettersOf index = (Drive.letters index).reverse := by
    induction index with
    | zero => rw [lettersOf, reverse_letters]; rfl
    | succ index ih => rw [lettersOf, ih, lettersAfter_reverse]
  rw [reversed, List.reverse_reverse]

theorem target_eq (disk : String) (index : Nat) :
    target disk index = String.ofList (Drive.target disk.toList index) := by
  have path : "/".toList <+: disk.toList ↔ disk.toList.head? = some '/' := by
    cases disk.toList with
    | nil => simp
    | cons c rest => simp [List.cons_prefix_cons, eq_comm]
  have positional : Drive.isPositional disk.toList = true ↔
      "/".toList <+: disk.toList ∨ 63 < disk.length := by
    rw [path, ← String.length_toList, Drive.isPositional, Bool.or_eq_true, beq_iff_eq,
      decide_eq_true_eq]
    rfl
  unfold target Drive.target
  by_cases byPosition : "/".toList <+: disk.toList ∨ 63 < disk.length
  · rw [if_pos byPosition, if_pos (positional.mpr byPosition), Drive.positional,
      String.ofList_append, lettersOf_eq]
    rfl
  · rw [if_neg byPosition, if_neg (mt positional.mp byPosition), String.ofList_toList]

theorem targetsFrom_eq (index : Nat) (disks : List String) :
    (Drive.targetsFrom index (disks.map String.toList)).map String.ofList =
      disks.mapIdx fun i disk => target disk (index + i) := by
  induction disks generalizing index with
  | nil => rfl
  | cons disk rest ih =>
    rw [List.map_cons, Drive.targetsFrom, List.map_cons, List.mapIdx_cons, ih, ← target_eq]
    simp [Nat.add_assoc, Nat.add_comm 1]

/-- The targets of all disks are those of their positions. -/
theorem targets_eq (disks : List String) :
    targets disks = (Drive.targetsFrom 0 (disks.map String.toList)).map String.ofList := by
  rw [targetsFrom_eq]
  simp [targets]

/-! ## Networks -/

theorem networkBy_eq (interface : String) (rules : List String) :
    networkBy interface rules =
      String.ofList (((rules.map String.toList).findSome?
        (Network.network? interface.toList)).getD Network.fallback) := by
  have begins : (interface ++ ":").toList = interface.toList ++ [':'] := String.toList_append
  have long : (interface ++ ":").length = interface.toList.length + 1 := by
    rw [← String.length_toList, begins, List.length_append]
    rfl
  induction rules with
  | nil => rfl
  | cons rule rest ih =>
    rw [networkBy, begins, long, ih, List.map_cons, List.findSome?_cons, Network.network?]
    by_cases colon : ':' ∈ rule.toList
    · by_cases named : interface.toList ++ [':'] <+: rule.toList
      · simp [colon, named]
      · simp [colon, named]
    · simp [colon]

/-- Trying the rules is looking for the first that says something. -/
theorem network_eq (m : Machine) (interface : String) :
    network m interface = String.ofList (Network.ofInterface
      (m.networkRules.map fun rules => rules.map String.toList) interface.toList) := by
  rw [network, networkBy_eq]
  cases m.networkRules <;> rfl

/-! ## Addresses -/

theorem withoutLineFeed_eq (bytes : List UInt8) :
    withoutLineFeed (Text.Utf8.decodeLossy bytes) = Network.address bytes := by
  have last (cs : List Char) : ['\n'].isSuffixOf cs = true ↔ cs.getLast? = some '\n' := by
    rw [List.isSuffixOf_iff_suffix]
    simp [List.singleton_suffix_iff_getLast?_eq_some]
  unfold withoutLineFeed Network.address
  split
  · next ends => rw [if_pos ((last _).mp ends), List.dropLast_eq_take]
  · next other => rw [if_neg (mt (last _).mpr other)]

theorem addressPath_eq (directory : Files.Path) (interface : String) :
    addressPath directory interface = Network.addressPath directory interface := by
  have named : Files.Path.ofString "address" = ⟨.current, [Network.addressFile]⟩ := by decide
  rw [addressPath, named]
  rfl

theorem unencodable?_eq (letters : Text.Letters) (directory : Files.Path) (interface : String) :
    unencodable? letters directory interface =
      Network.unencodable? letters directory interface := by
  unfold unencodable? Network.unencodable?
  rw [addressPath_eq]

theorem unencodable?_plain (directory : Files.Path) (interface : String) :
    unencodable? .plain directory interface = none := by
  rw [unencodable?_eq, Network.unencodable?_plain]

/-- Where the address of an interface may be looked up, it is what its file says. -/
theorem addresses_eq {tree : Files.Tree} {directory : Files.Path} {interface : String}
    {finding : Network.Finding}
    (found : Network.findAddress tree directory interface = .ok finding) :
    addresses tree directory interface = finding.address?.map String.ofList := by
  unfold addresses
  rw [addressPath_eq]
  unfold Network.findAddress at found
  dsimp only at found ⊢
  split at found
  · cases found
  · cases read : tree.read (Network.addressPath directory interface) with
    | ok bytes =>
      rw [read] at found
      obtain rfl := Except.ok.inj found
      simp [Network.Finding.address?, withoutLineFeed_eq]
    | error refusal =>
      rw [read] at found
      obtain rfl := Except.ok.inj found
      rfl

/-! ## Outlines that agree -/

/-- An outline tells of the addresses of its own interfaces only. -/
theorem nodes_congr {o : Order} {f g : String → Option String}
    (same : ∀ i ∈ o.machine.interfaces.getD [], f i = g i) : nodes o f = nodes o g := by
  have interfaces : (o.machine.interfaces.getD []).map (interface o.machine f) =
      (o.machine.interfaces.getD []).map (interface o.machine g) :=
    List.map_congr_left fun i listed => by rw [interface, interface, same i listed]
  have devices : devices o.machine o.ports f = devices o.machine o.ports g := by
    unfold Outline.devices
    rw [interfaces]
  simp only [nodes, root, parts, devices]

theorem text_congr {o : Order} {f g : String → Option String}
    (same : ∀ i ∈ o.machine.interfaces.getD [], f i = g i) : text o f = text o g := by
  unfold text
  rw [nodes_congr same]

end MachineDescriptor.Document.Outline
