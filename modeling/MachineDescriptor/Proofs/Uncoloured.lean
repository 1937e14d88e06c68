import MachineDescriptor.Calendar
import MachineDescriptor.Proofs.SingleLines
import MachineDescriptor.Terminal.Colour

/-!
Texts without their colours. The sequences that set colours can be taken out of a text; what is put
together from such sequences and from texts that hold no escape character comes to these texts.
-/
namespace MachineDescriptor.Terminal

/-- The character that begins the sequences that set colours. -/
def escape : Char := '\x1b'

/-- What follows the sequence that sets colours at the beginning of a text: numbers apart by
semicolons stand in it between its introduction and its last letter. -/
def afterSetting : List Char → Option (List Char)
  | '\x1b' :: '[' :: rest =>
    match rest.dropWhile fun c => c.isDigit || c == ';' with
    | 'm' :: after => some after
    | _ => none
  | _ => none

theorem length_afterSetting {cs after : List Char} (found : afterSetting cs = some after) :
    after.length < cs.length := by
  unfold afterSetting at found
  split at found
  · next rest =>
    split at found
    · next left ended =>
      cases found
      have short : after.length + 1 ≤ rest.length := by
        rw [← List.length_cons (a := 'm'), ← ended]
        exact (List.dropWhile_sublist _).length_le
      simp only [List.length_cons]
      omega
    · cases found
  · cases found

/-- A text without the sequences in it that set colours. -/
def uncoloured : List Char → List Char
  | [] => []
  | c :: rest =>
    match _h : afterSetting (c :: rest) with
    | some after => uncoloured after
    | none => c :: uncoloured rest
termination_by cs => cs.length
decreasing_by
  · exact length_afterSetting _h
  · simp

/-- Whether a text can set no colours. -/
def IsBare (cs : List Char) : Prop := escape ∉ cs

instance (cs : List Char) : Decidable (IsBare cs) := inferInstanceAs (Decidable (escape ∉ cs))

theorem IsBare.append {cs ds : List Char} (first : IsBare cs) (second : IsBare ds) :
    IsBare (cs ++ ds) := fun found => (List.mem_append.mp found).elim first second

/-- Whether a text amounts to another one without its colours, whatever follows. -/
def ShowsAs (cs ds : List Char) : Prop := ∀ rest, uncoloured (cs ++ rest) = ds ++ uncoloured rest

theorem ShowsAs.append {cs ds cs' ds' : List Char} (first : ShowsAs cs ds)
    (second : ShowsAs cs' ds') : ShowsAs (cs ++ cs') (ds ++ ds') := fun rest => by
  rw [List.append_assoc, first, second, List.append_assoc]

theorem ShowsAs.uncoloured_eq {cs ds : List Char} (shows : ShowsAs cs ds) :
    uncoloured cs = ds := by
  have whole := shows []
  rwa [List.append_nil, uncoloured, List.append_nil] at whole

theorem IsBare.showsAs {cs : List Char} (bare : IsBare cs) : ShowsAs cs cs := by
  intro rest
  induction cs with
  | nil => rfl
  | cons c cs ih =>
    obtain ⟨other, others⟩ := not_or.mp fun found => bare (List.mem_cons.mpr found)
    have plain : afterSetting (c :: (cs ++ rest)) = none := by
      unfold afterSetting
      split
      · next begun => exact absurd (List.cons.inj begun).1.symm other
      · rfl
    rw [List.cons_append, uncoloured]
    split
    · next found => simp [plain] at found
    · rw [ih others, List.cons_append]

theorem showsAs_switch (code : Nat) : ShowsAs (switch code) [] := by
  intro rest
  have set : afterSetting (switch code ++ rest) = some rest := by
    have digits : ∀ c ∈ Nat.toDigits 10 code, (c.isDigit || c == ';') = true := fun c listed => by
      rw [Nat.isDigit_of_mem_toDigits (by omega) (by omega) listed]
      rfl
    have left : ((Nat.toDigits 10 code ++ ['m']) ++ rest).dropWhile
        (fun c => c.isDigit || c == ';') = 'm' :: rest := by
      rw [List.append_assoc, List.dropWhile_append_of_pos digits]
      rfl
    show (match ((Nat.toDigits 10 code ++ ['m']) ++ rest).dropWhile
        (fun c => c.isDigit || c == ';') with
      | 'm' :: after => some after
      | _ => none) = some rest
    simp only [left]
  have begun : ∃ c cs, switch code ++ rest = c :: cs := ⟨_, _, rfl⟩
  obtain ⟨c, cs, begun⟩ := begun
  rw [begun] at set ⊢
  rw [uncoloured]
  split
  · next found =>
    rw [set] at found
    rw [Option.some.inj found]
    rfl
  · next found => simp [set] at found

/-! ## What sets no colours -/

theorem isBare_digits (n : Nat) : IsBare (Nat.toDigits 10 n) := fun listed =>
  absurd (Nat.isDigit_of_mem_toDigits (by omega) (by omega) listed) (by decide)

theorem isBare_nat (n : Nat) : IsBare (toString n).toList := by
  rw [Nat.toString_eq_repr, Nat.toList_repr]
  exact isBare_digits n

theorem isBare_int (n : Int) : IsBare (toString n).toList := by
  cases n with
  | ofNat n => exact isBare_nat n
  | negSucc n =>
    show IsBare ("-" ++ toString (n + 1)).toList
    rw [String.toList_append]
    exact IsBare.append (by decide) (isBare_nat (n + 1))

theorem isBare_padded (width n : Nat) : IsBare (Calendar.padded width n).toList := by
  rw [Calendar.padded, String.toList_append, String.toList_ofList]
  refine IsBare.append (fun listed => ?_) (isBare_nat n)
  exact absurd (List.eq_of_mem_replicate listed) (by decide)

theorem isBare_time (t : Calendar.Time) : IsBare t.text.toList ∧ IsBare t.millis.toList := by
  have text : IsBare t.text.toList := by
    simp only [Calendar.Time.text, String.toList_append]
    exact ((((isBare_padded 2 t.hour).append (by decide)).append (isBare_padded 2 t.minute)).append
      (by decide)).append (isBare_padded 2 t.second)
  refine ⟨text, ?_⟩
  simp only [Calendar.Time.millis, String.toList_append]
  exact (text.append (by decide)).append (isBare_padded 3 _)

theorem isBare_of_sublist {cs ds : List Char} (part : cs.Sublist ds) (bare : IsBare ds) :
    IsBare cs := fun listed => bare (part.subset listed)

theorem isBare_joined {separator : List Char} (between : IsBare separator)
    {parts : List (List Char)} (each : ∀ part ∈ parts, IsBare part) :
    IsBare (Text.joined separator parts) := fun found =>
  (Text.mem_joined found).elim between fun ⟨part, listed, inside⟩ => each part listed inside

theorem isBare_intercalate {separator : String} (between : IsBare separator.toList)
    {parts : List String} (each : ∀ part ∈ parts, IsBare part.toList) :
    IsBare (separator.intercalate parts).toList := by
  rw [String.toList_intercalate, ← Text.joined_eq_intercalate]
  exact isBare_joined between (List.forall_mem_map.mpr each)

theorem mem_of_mem_linesAfter {begun cs line : List Char} {c : Char}
    (listed : line ∈ Text.linesAfter begun cs) (inside : c ∈ line) : c ∈ begun ∨ c ∈ cs := by
  fun_induction Text.linesAfter begun cs with
  | case1 => cases listed
  | case2 begun =>
    rw [List.mem_singleton.mp listed] at inside
    exact .inl (List.mem_reverse.mp inside)
  | case3 begun rest ih =>
    obtain rfl | later := List.mem_cons.mp listed
    · exact .inl (List.mem_reverse.mp inside)
    · have after := (ih later).resolve_left List.not_mem_nil
      exact .inr (List.mem_cons_of_mem _ (List.mem_cons_of_mem _ after))
  | case4 begun d rest _ _ ih =>
    obtain rfl | later := List.mem_cons.mp listed
    · exact .inl (List.mem_reverse.mp inside)
    · exact .inr (List.mem_cons_of_mem _ ((ih later).resolve_left List.not_mem_nil))
  | case5 begun d rest _ _ ih =>
    obtain before | after := ih listed
    · obtain rfl | earlier := List.mem_cons.mp before
      · exact .inr List.mem_cons_self
      · exact .inl earlier
    · exact .inr (List.mem_cons_of_mem _ after)

theorem isBare_of_mem_lines {cs line : List Char} (bare : IsBare cs)
    (listed : line ∈ Text.lines cs) : IsBare line := fun inside =>
  bare ((mem_of_mem_linesAfter listed inside).resolve_left List.not_mem_nil)

theorem isBare_escapeLineFeeds {cs : List Char} (bare : IsBare cs) :
    IsBare (Text.escapeLineFeeds cs) := by
  induction cs with
  | nil => exact List.not_mem_nil
  | cons c rest ih =>
    obtain ⟨other, others⟩ := not_or.mp fun found => bare (List.mem_cons.mpr found)
    rw [Text.escapeLineFeeds]
    refine IsBare.append ?_ (ih others)
    split
    · decide
    · split
      · decide
      · exact fun found => other (List.mem_singleton.mp found)

theorem isBare_cut {cs : List Char} (bare : IsBare cs) (limit : Int) {mark : List Char}
    (bareMark : IsBare mark) : IsBare (Text.cut limit mark cs) := by
  unfold Text.cut Text.upTo
  split
  · exact bare
  · refine IsBare.append ?_ bareMark
    split <;> exact isBare_of_sublist (List.take_sublist _ _) bare

end MachineDescriptor.Terminal
