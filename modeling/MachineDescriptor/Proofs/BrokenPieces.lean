import Mathlib.Data.List.Basic
import MachineDescriptor.Machine.Address
import MachineDescriptor.Proofs.Overlays
import MachineDescriptor.Proofs.Utf8

/-!
# Reading broken bytes

What reading with replacement makes of any bytes is said here by the bytes of characters alone: a
character where one stands, and one replacement for each longest beginning of a character where none
does.

* `isBeginning_cons`: the beginnings of characters are the bytes that are accepted one after another;
* `decodeLossy_iff`: reading with replacement is what the rule says, and nothing else is;
* `decodeLossy_around`: a text between any bytes is read as it is, and what is around it as if it
  stood alone;
* `address_tells`: the address of an interface is its file read so, without one last line feed.
-/
namespace MachineDescriptor.Text.Utf8

/-! ## The rule of replacement -/

/-- Whether bytes begin the bytes of a character, or are all of them. -/
def IsBeginning (part : List UInt8) : Prop := ∃ c, part <+: String.utf8EncodeChar c

/-- Whether bytes are replaced as one where certain bytes follow them: no character stands there, and
they are the longest beginning of one, or a single byte. -/
structure IsBroken (part rest : List UInt8) : Prop where
  noCharacter : ∀ c, ¬String.utf8EncodeChar c <+: part ++ rest
  begun : part.length = 1 ∨ part ≠ [] ∧ IsBeginning part
  longest : ∀ longer, IsBeginning longer → longer <+: part ++ rest → longer.length ≤ part.length

/-- The text that bytes are read as: characters, and one replacement for each broken part. -/
inductive ReadsAs : List UInt8 → List Char → Prop where
  | nil : ReadsAs [] []
  | char (c : Char) {rest : List UInt8} {cs : List Char} :
      ReadsAs rest cs → ReadsAs (String.utf8EncodeChar c ++ rest) (c :: cs)
  | broken {part rest : List UInt8} {cs : List Char} :
      IsBroken part rest → ReadsAs rest cs → ReadsAs (part ++ rest) ('\ufffd' :: cs)

theorem IsBroken.length_pos {part rest : List UInt8} (broken : IsBroken part rest) :
    0 < part.length := by
  obtain single | ⟨filled, -⟩ := broken.begun
  · omega
  · exact List.length_pos_iff.mpr filled

/-- Of two parts that are broken at one place, neither is longer. -/
theorem IsBroken.length_le {part rest part' rest' : List UInt8} (broken : IsBroken part rest)
    (broken' : IsBroken part' rest') (same : part ++ rest = part' ++ rest') :
    part'.length ≤ part.length := by
  obtain single | ⟨-, beginning⟩ := broken'.begun
  · have := broken.length_pos
    omega
  · apply broken.longest part' beginning
    rw [same]
    exact List.prefix_append _ _

theorem IsBroken.unique {part rest part' rest' : List UInt8} (broken : IsBroken part rest)
    (broken' : IsBroken part' rest') (same : part ++ rest = part' ++ rest') :
    part = part' ∧ rest = rest' := by
  have even : part.length = part'.length :=
    Nat.le_antisymm (broken'.length_le broken same.symm) (broken.length_le broken' same)
  exact List.append_inj same even

/-! ## Bytes that follow a first one -/

/-- Whether bytes may follow a first byte, the next of them between two bounds. -/
def MayFollow : Nat → Nat → List UInt8 → Prop
  | _, _, [] => True
  | low, high, b :: bs => (low ≤ b.toNat ∧ b.toNat ≤ high) ∧ MayFollow 0x80 0xbf bs

theorem MayFollow.of_append {low high : Nat} {s t : List UInt8}
    (follows : MayFollow low high (s ++ t)) : MayFollow low high s := by
  induction s generalizing low high with
  | nil => trivial
  | cons b s ih => exact ⟨follows.1, ih follows.2⟩

/-- Whatever may follow goes on after the first byte. -/
theorem MayFollow.last {low high : Nat} {s : List UInt8} {x : UInt8} (above : 0x80 ≤ low)
    (below : high ≤ 0xbf) (follows : MayFollow low high (s ++ [x])) :
    0x80 ≤ x.toNat ∧ x.toNat ≤ 0xbf := by
  induction s generalizing low high with
  | nil =>
    obtain ⟨⟨least, most⟩, -⟩ := follows
    omega
  | cons b s ih => exact ih (Nat.le_refl _) (Nat.le_refl _) follows.2

/-- Bytes that may follow can be filled up to any number. -/
theorem MayFollow.extend {low high : Nat} {s : List UInt8} (more : Nat) (bounds : low ≤ high)
    (small : high < 256) (follows : MayFollow low high s) (short : s.length ≤ more) :
    ∃ t, s <+: t ∧ t.length = more ∧ MayFollow low high t := by
  induction more generalizing low high s with
  | zero =>
    obtain rfl : s = [] := List.length_eq_zero_iff.mp (by omega)
    exact ⟨[], List.prefix_rfl, rfl, trivial⟩
  | succ more ih =>
    cases s with
    | nil =>
      obtain ⟨t, -, long, rest⟩ : ∃ t, [] <+: t ∧ t.length = more ∧ MayFollow 0x80 0xbf t :=
        ih (by omega) (by omega) trivial (Nat.zero_le _)
      have least : (UInt8.ofNat low).toNat = low := toNat_ofNat (by omega)
      refine ⟨UInt8.ofNat low :: t, List.nil_prefix, by simp [long], ?_, rest⟩
      omega
    | cons b s =>
      obtain ⟨t, begins, long, rest⟩ :=
        ih (by omega) (by omega) follows.2 (by simpa using short)
      exact ⟨b :: t, List.cons_prefix_cons.mpr ⟨rfl, begins⟩, by simp [long], follows.1, rest⟩

/-- The rest of a sequence is read to its end, or up to the first byte that may not follow. -/
theorem follow_cases (value used low high more : Nat) (bs : List UInt8) :
    (∃ taken rest c, bs = taken ++ rest ∧ taken.length = more ∧ MayFollow low high taken ∧
      follow value used low high more bs = (.char c, rest)) ∨
    ∃ taken rest why, bs = taken ++ rest ∧ taken.length < more ∧ MayFollow low high taken ∧
      (∀ x ∈ rest.head?, ¬MayFollow low high (taken ++ [x])) ∧
      follow value used low high more bs = (.broken (used + taken.length) why, rest) := by
  induction more generalizing value used low high bs with
  | zero => exact .inl ⟨[], bs, _, rfl, rfl, trivial, follow_zero ..⟩
  | succ more ih =>
    cases bs with
    | nil =>
      refine .inr ⟨[], [], .unexpectedEnd, rfl, Nat.succ_pos _, trivial, ?_, ?_⟩
      · intro x next
        cases next
      · rw [follow, List.length_nil, Nat.add_zero]
    | cons b bs =>
      rw [follow]
      by_cases within : low ≤ b.toNat ∧ b.toNat ≤ high
      · rw [if_pos within]
        obtain ⟨taken, rest, c, rfl, long, follows, reads⟩ |
          ⟨taken, rest, why, rfl, short, follows, stops, reads⟩ :=
          ih (value * 64 + (b.toNat - 0x80)) (used + 1) 0x80 0xbf bs
        · exact .inl ⟨b :: taken, rest, c, rfl, by simp [long], ⟨within, follows⟩, reads⟩
        · refine .inr ⟨b :: taken, rest, why, rfl, by simpa using short, ⟨within, follows⟩, ?_, ?_⟩
          · intro x next goesOn
            exact stops x next goesOn.2
          · rw [reads, List.length_cons, Nat.add_assoc, Nat.add_comm 1]
      · rw [if_neg within]
        refine .inr ⟨[], b :: bs, .invalidContinuation, rfl, Nat.succ_pos _, trivial, ?_, ?_⟩
        · intro x next goesOn
          obtain rfl : b = x := by simpa using next
          exact within goesOn.1
        · rw [List.length_nil, Nat.add_zero]

/-! ## First bytes -/

/-- What a first byte announces, by its number. -/
theorem lead?_cases {b : UInt8} {l : Lead} (lead : lead? b = some l) :
    (b.toNat < 0x80 ∧ l = ⟨b.toNat, 0, 0, 0⟩) ∨
    (0xc2 ≤ b.toNat ∧ b.toNat < 0xe0 ∧ l = ⟨b.toNat - 0xc0, 1, 0x80, 0xbf⟩) ∨
    (0xe0 ≤ b.toNat ∧ b.toNat < 0xf0 ∧
      l = ⟨b.toNat - 0xe0, 2, if b.toNat = 0xe0 then 0xa0 else 0x80,
        if b.toNat = 0xed then 0x9f else 0xbf⟩) ∨
    (0xf0 ≤ b.toNat ∧ b.toNat < 0xf5 ∧
      l = ⟨b.toNat - 0xf0, 3, if b.toNat = 0xf0 then 0x90 else 0x80,
        if b.toNat = 0xf4 then 0x8f else 0xbf⟩) := by
  unfold lead? at lead
  dsimp only at lead
  generalize b.toNat = n at lead ⊢
  split at lead
  · next one => exact .inl ⟨one, (Option.some.inj lead).symm⟩
  · split at lead
    · exact absurd lead (Option.some_ne_none l).symm
    · split at lead
      · exact .inr (.inl ⟨by omega, by omega, (Option.some.inj lead).symm⟩)
      · split at lead
        · exact .inr (.inr (.inl ⟨by omega, by omega, (Option.some.inj lead).symm⟩))
        · split at lead
          · exact .inr (.inr (.inr ⟨by omega, by omega, (Option.some.inj lead).symm⟩))
          · exact absurd lead (Option.some_ne_none l).symm

theorem lead?_bounds {b : UInt8} {l : Lead} (lead : lead? b = some l) :
    l.low ≤ l.high ∧ l.high < 256 ∧ (l.more = 0 ∨ 0x80 ≤ l.low ∧ l.high ≤ 0xbf) := by
  obtain ⟨-, rfl⟩ | ⟨-, -, rfl⟩ | ⟨-, -, rfl⟩ | ⟨-, -, rfl⟩ := lead?_cases lead
  · simp
  · simp
  · dsimp only
    split <;> split <;> omega
  · dsimp only
    split <;> split <;> omega

/-- A byte that goes on after a first one is none itself. -/
theorem lead?_of_following {x : UInt8} (above : 0x80 ≤ x.toNat) (below : x.toNat ≤ 0xbf) :
    lead? x = none := by
  cases lead : lead? x with
  | none => rfl
  | some l =>
    obtain ⟨range, -⟩ | ⟨range, -⟩ | ⟨range, -⟩ | ⟨range, -⟩ := lead?_cases lead
    all_goals omega

/-- The bytes of a character are a first byte and the bytes that it announces. -/
theorem encoded_shape (c : Char) :
    ∃ b t l, String.utf8EncodeChar c = b :: t ∧ lead? b = some l ∧ t.length = l.more ∧
      MayFollow l.low l.high t := by
  obtain ⟨b, t, encoded, piece⟩ := next_encoded c []
  rw [List.append_nil, next] at piece
  cases lead : lead? b with
  | none =>
    rw [lead] at piece
    cases piece
  | some l =>
    rw [lead] at piece
    refine ⟨b, t, l, encoded, lead, ?_⟩
    obtain ⟨taken, rest, d, rfl, long, follows, reads⟩ |
      ⟨taken, rest, why, rfl, -, -, -, reads⟩ := follow_cases l.bits 1 l.low l.high l.more t
    · obtain rfl : rest = [] := congrArg Prod.snd (reads.symm.trans piece)
      rw [List.append_nil]
      exact ⟨long, follows⟩
    · cases reads.symm.trans piece

/-- A number that is no surrogate and not beyond the last character is that of one. -/
theorem exists_char {n : Nat} (valid : n < 0xd800 ∨ 0xdfff < n ∧ n < 0x110000) :
    ∃ c : Char, c.toNat = n := ⟨Char.ofNatAux n valid, rfl⟩

theorem ofNat_eq {n : Nat} {b : UInt8} (same : n = b.toNat) : UInt8.ofNat n = b := by
  rw [same, UInt8.ofNat_toNat]

/-- A first byte and the bytes that it announces are those of a character. -/
theorem exists_encoded {b : UInt8} {l : Lead} {t : List UInt8} (lead : lead? b = some l)
    (long : t.length = l.more) (follows : MayFollow l.low l.high t) :
    ∃ c, String.utf8EncodeChar c = b :: t := by
  obtain ⟨one, rfl⟩ | ⟨above, below, rfl⟩ | ⟨above, below, rfl⟩ | ⟨above, below, rfl⟩ :=
    lead?_cases lead
  · obtain rfl : t = [] := List.length_eq_zero_iff.mp long
    obtain ⟨c, number⟩ : ∃ c : Char, c.toNat = b.toNat := exists_char (by omega)
    refine ⟨c, ?_⟩
    unfold String.utf8EncodeChar
    dsimp only
    rw [Char.toNat_val, number, if_pos (by omega), UInt8.ofNat_toNat]
  · obtain ⟨x, rfl⟩ := List.length_eq_one_iff.mp long
    obtain ⟨rangeX, -⟩ := follows
    dsimp only at rangeX
    obtain ⟨c, number⟩ : ∃ c : Char, c.toNat = (b.toNat - 0xc0) * 64 + (x.toNat - 0x80) :=
      exists_char (by omega)
    refine ⟨c, ?_⟩
    unfold String.utf8EncodeChar
    dsimp only
    rw [Char.toNat_val, number, if_neg (by omega), if_pos (by omega), ofNat_eq (b := b) (by omega),
      ofNat_eq (b := x) (by omega)]
  · obtain ⟨x, y, rfl⟩ := List.length_eq_two.mp long
    obtain ⟨rangeX, rangeY, -⟩ := follows
    dsimp only at rangeX
    -- the second byte is no further from the middle than overlong forms and surrogates allow
    have second : 0x80 ≤ x.toNat ∧ x.toNat ≤ 0xbf ∧ (b.toNat = 0xe0 → 0xa0 ≤ x.toNat) ∧
        (b.toNat = 0xed → x.toNat ≤ 0x9f) := by
      revert rangeX
      split <;> split <;> omega
    obtain ⟨c, number⟩ : ∃ c : Char, c.toNat =
        ((b.toNat - 0xe0) * 64 + (x.toNat - 0x80)) * 64 + (y.toNat - 0x80) :=
      exists_char (by omega)
    refine ⟨c, ?_⟩
    unfold String.utf8EncodeChar
    dsimp only
    rw [Char.toNat_val, number, if_neg (by omega), if_neg (by omega), if_pos (by omega),
      ofNat_eq (b := b) (by omega), ofNat_eq (b := x) (by omega), ofNat_eq (b := y) (by omega)]
  · obtain ⟨x, y, z, rfl⟩ := List.length_eq_three.mp long
    obtain ⟨rangeX, rangeY, rangeZ, -⟩ := follows
    dsimp only at rangeX
    have second : 0x80 ≤ x.toNat ∧ x.toNat ≤ 0xbf ∧ (b.toNat = 0xf0 → 0x90 ≤ x.toNat) ∧
        (b.toNat = 0xf4 → x.toNat ≤ 0x8f) := by
      revert rangeX
      split <;> split <;> omega
    obtain ⟨c, number⟩ : ∃ c : Char, c.toNat =
        (((b.toNat - 0xf0) * 64 + (x.toNat - 0x80)) * 64 + (y.toNat - 0x80)) * 64 +
          (z.toNat - 0x80) :=
      exists_char (by omega)
    refine ⟨c, ?_⟩
    unfold String.utf8EncodeChar
    dsimp only
    rw [Char.toNat_val, number, if_neg (by omega), if_neg (by omega), if_neg (by omega),
      ofNat_eq (b := b) (by omega), ofNat_eq (b := x) (by omega), ofNat_eq (b := y) (by omega),
      ofNat_eq (b := z) (by omega)]

/-- Bytes begin a character exactly when the first announces the others and each may follow. -/
theorem isBeginning_cons (b : UInt8) (bs : List UInt8) :
    IsBeginning (b :: bs) ↔
      ∃ l, lead? b = some l ∧ bs.length ≤ l.more ∧ MayFollow l.low l.high bs := by
  constructor
  · rintro ⟨c, begins⟩
    obtain ⟨d, t, l, encoded, lead, long, follows⟩ := encoded_shape c
    rw [encoded] at begins
    obtain ⟨rfl, within⟩ := List.cons_prefix_cons.mp begins
    refine ⟨l, lead, long ▸ within.length_le, ?_⟩
    obtain ⟨later, rfl⟩ := within
    exact follows.of_append
  · rintro ⟨l, lead, short, follows⟩
    obtain ⟨bounds, small, -⟩ := lead?_bounds lead
    obtain ⟨t, begins, long, whole⟩ := follows.extend l.more bounds small short
    obtain ⟨c, encoded⟩ := exists_encoded lead long whole
    exact ⟨c, encoded ▸ List.cons_prefix_cons.mpr ⟨rfl, begins⟩⟩

/-- A first byte does not stand inside of a character. -/
theorem not_isBeginning_of_lead {part : List UInt8} {x : UInt8} {l : Lead} (filled : part ≠ [])
    (lead : lead? x = some l) : ¬IsBeginning (part ++ [x]) := by
  intro beginning
  obtain ⟨b, bs, rfl⟩ := List.exists_cons_of_ne_nil filled
  obtain ⟨m, leads, short, follows⟩ := (isBeginning_cons b (bs ++ [x])).mp beginning
  obtain ⟨-, -, none | ⟨least, most⟩⟩ := lead?_bounds leads
  · rw [none, List.length_append, List.length_singleton] at short
    omega
  · obtain ⟨above, below⟩ := MayFollow.last least most follows
    rw [lead?_of_following above below] at lead
    cases lead

/-! ## Pieces -/

theorem encoded_begins {c : Char} {b : UInt8} {bs : List UInt8}
    (begins : String.utf8EncodeChar c <+: b :: bs) :
    ∃ t l, String.utf8EncodeChar c = b :: t ∧ lead? b = some l ∧ t.length = l.more ∧ t <+: bs := by
  obtain ⟨d, t, l, encoded, leads, long, -⟩ := encoded_shape c
  rw [encoded] at begins
  obtain ⟨rfl, within⟩ := List.cons_prefix_cons.mp begins
  exact ⟨t, l, encoded, leads, long, within⟩

/-- Where beginnings of characters reach no further than a part and none of them is a whole character,
the part is broken. -/
theorem isBroken_of_incomplete {part rest : List UInt8}
    (begun : part.length = 1 ∨ part ≠ [] ∧ IsBeginning part)
    (longest : ∀ longer, IsBeginning longer → longer <+: part ++ rest →
      longer.length ≤ part.length)
    (incomplete : ∀ c, ¬String.utf8EncodeChar c <+: part) : IsBroken part rest := by
  refine ⟨?_, begun, longest⟩
  intro c stands
  apply incomplete c
  apply List.prefix_of_prefix_length_le stands (List.prefix_append part rest)
  exact longest _ ⟨c, List.prefix_rfl⟩ stands

/-- No beginning of a character reaches past a byte that may not follow. -/
theorem length_le_of_stop {low high : Nat} {taken rest t : List UInt8}
    (stops : ∀ x ∈ rest.head?, ¬MayFollow low high (taken ++ [x])) (begins : t <+: taken ++ rest)
    (follows : MayFollow low high t) : t.length ≤ taken.length := by
  by_contra longer
  have within : taken <+: t :=
    List.prefix_of_prefix_length_le (List.prefix_append taken rest) begins (by omega)
  obtain ⟨past, rfl⟩ := within
  cases past with
  | nil => simp at longer
  | cons x past =>
    obtain ⟨later, rfl⟩ := (List.prefix_append_right_inj taken).mp begins
    apply stops x (by simp)
    rw [List.append_cons] at follows
    exact follows.of_append

/-- A piece that is a character is its bytes. -/
theorem next_char {b : UInt8} {bs rest : List UInt8} {c : Char}
    (reads : next b bs = (.char c, rest)) : b :: bs = String.utf8EncodeChar c ++ rest := by
  have piece := reads
  rw [next] at reads
  cases lead : lead? b with
  | none =>
    rw [lead] at reads
    cases reads
  | some l =>
    rw [lead] at reads
    obtain ⟨taken, more, d, rfl, long, follows, -⟩ |
      ⟨taken, more, why, rfl, -, -, -, found⟩ := follow_cases l.bits 1 l.low l.high l.more bs
    · obtain ⟨e, encoded⟩ := exists_encoded lead long follows
      obtain ⟨first, others, encoded', whole⟩ := next_encoded e more
      obtain ⟨rfl, rfl⟩ : b = first ∧ taken = others := by
        simpa using encoded.symm.trans encoded'
      obtain ⟨rfl, rfl⟩ : e = c ∧ more = rest := by simpa using whole.symm.trans piece
      rw [encoded]
      rfl
    · cases found.symm.trans reads

/-- A byte that begins no character is broken by itself. -/
theorem isBroken_of_no_lead {b : UInt8} (lead : lead? b = none) (rest : List UInt8) :
    IsBroken [b] rest := by
  apply isBroken_of_incomplete (.inl rfl)
  · intro longer beginning begins
    cases longer with
    | nil => simp
    | cons d t =>
      obtain ⟨rfl, -⟩ := List.cons_prefix_cons.mp begins
      obtain ⟨l, leads, -⟩ := (isBeginning_cons d t).mp beginning
      rw [lead] at leads
      cases leads
  · intro c begins
    obtain ⟨t, l, -, leads, -⟩ := encoded_begins begins
    rw [lead] at leads
    cases leads

/-- A first byte is broken with the fewer bytes that may follow it, up to one that may not. -/
theorem isBroken_of_stop {b : UInt8} {l : Lead} {taken rest : List UInt8} (lead : lead? b = some l)
    (short : taken.length < l.more) (follows : MayFollow l.low l.high taken)
    (stops : ∀ x ∈ rest.head?, ¬MayFollow l.low l.high (taken ++ [x])) :
    IsBroken (b :: taken) rest := by
  have beginning : IsBeginning (b :: taken) :=
    (isBeginning_cons b taken).mpr ⟨l, lead, Nat.le_of_lt short, follows⟩
  apply isBroken_of_incomplete (.inr ⟨List.cons_ne_nil _ _, beginning⟩)
  · intro longer begun begins
    cases longer with
    | nil => simp
    | cons d t =>
      obtain ⟨rfl, within⟩ := List.cons_prefix_cons.mp begins
      obtain ⟨m, leads, -, goesOn⟩ := (isBeginning_cons d t).mp begun
      obtain rfl : l = m := Option.some.inj (lead.symm.trans leads)
      have bounded := length_le_of_stop stops within goesOn
      simpa using bounded
  · intro c begins
    obtain ⟨t, m, -, leads, long, within⟩ := encoded_begins begins
    obtain rfl : l = m := Option.some.inj (lead.symm.trans leads)
    have bounded := within.length_le
    omega

/-- A piece that is none is a broken part. -/
theorem next_broken {b : UInt8} {bs rest : List UInt8} {n : Nat} {why : Defect}
    (reads : next b bs = (.broken n why, rest)) :
    ∃ part, b :: bs = part ++ rest ∧ IsBroken part rest := by
  rw [next] at reads
  cases lead : lead? b with
  | none =>
    rw [lead] at reads
    obtain rfl : bs = rest := congrArg Prod.snd reads
    exact ⟨[b], rfl, isBroken_of_no_lead lead bs⟩
  | some l =>
    rw [lead] at reads
    obtain ⟨taken, more, d, rfl, -, -, found⟩ |
      ⟨taken, more, why', rfl, short, follows, stops, found⟩ :=
      follow_cases l.bits 1 l.low l.high l.more bs
    · cases found.symm.trans reads
    · obtain rfl : more = rest := congrArg Prod.snd (found.symm.trans reads)
      exact ⟨b :: taken, rfl, isBroken_of_stop lead short follows stops⟩

/-! ## Reading -/

theorem decodeLossy_nil : decodeLossy [] = [] := by
  rw [decodeLossy, pieces]
  rfl

theorem decodeLossy_cons (b : UInt8) (bs : List UInt8) :
    decodeLossy (b :: bs) = (next b bs).1.lossy :: decodeLossy (next b bs).2 := by
  rw [decodeLossy, pieces_cons]
  rfl

theorem decodeLossy_encode_append (cs : List Char) (bs : List UInt8) :
    decodeLossy (encode cs ++ bs) = cs ++ decodeLossy bs := by
  rw [decodeLossy, pieces_encode_append, List.map_append, List.map_map]
  congr 1
  exact List.map_id cs

theorem decodeLossy_character (c : Char) (bs : List UInt8) :
    decodeLossy (String.utf8EncodeChar c ++ bs) = c :: decodeLossy bs := by
  have single : encode [c] = String.utf8EncodeChar c := List.flatMap_singleton _ _
  rw [← single, decodeLossy_encode_append]
  rfl

theorem decodeLossy_broken {part rest : List UInt8} (broken : IsBroken part rest) :
    decodeLossy (part ++ rest) = '\ufffd' :: decodeLossy rest := by
  obtain ⟨b, t, rfl⟩ := List.exists_cons_of_length_pos broken.length_pos
  rw [List.cons_append, decodeLossy_cons]
  cases reads : next b (t ++ rest) with
  | mk piece more =>
    cases piece with
    | char c =>
      have character := next_char reads
      exact absurd ⟨more, character.symm⟩ (broken.noCharacter c)
    | broken n why =>
      obtain ⟨part', same, broken'⟩ := next_broken reads
      obtain ⟨-, rfl⟩ := broken.unique broken' same
      rfl

/-- Reading with replacement gives a text by the rule. -/
theorem readsAs_decodeLossy (bs : List UInt8) : ReadsAs bs (decodeLossy bs) := by
  induction bs using pieces.induct with
  | case1 => exact decodeLossy_nil ▸ .nil
  | case2 b bs later =>
    rw [decodeLossy_cons]
    cases reads : next b bs with
    | mk piece rest =>
      rw [reads] at later
      cases piece with
      | char c => exact next_char reads ▸ .char c later
      | broken n why =>
        obtain ⟨part, same, broken⟩ := next_broken reads
        exact same ▸ .broken broken later

/-- The text of any bytes is the one that the rule gives, and the rule gives no other. -/
theorem decodeLossy_iff (bs : List UInt8) (cs : List Char) :
    decodeLossy bs = cs ↔ ReadsAs bs cs := by
  constructor
  · rintro rfl
    exact readsAs_decodeLossy bs
  · intro reads
    induction reads with
    | nil => exact decodeLossy_nil
    | char c _ ih => rw [decodeLossy_character, ih]
    | broken broken _ ih => rw [decodeLossy_broken broken, ih]

/-! ## Texts between other bytes -/

/-- What is broken stays so, and as long, when the bytes of a character come after. -/
theorem IsBroken.before_lead {part rest : List UInt8} (broken : IsBroken part rest) {x : UInt8}
    {l : Lead} (lead : lead? x = some l) (bs : List UInt8) :
    IsBroken part (rest ++ x :: bs) := by
  have longest : ∀ longer, IsBeginning longer → longer <+: part ++ (rest ++ x :: bs) →
      longer.length ≤ part.length := by
    intro longer beginning begins
    by_contra long
    have within : part <+: longer :=
      List.prefix_of_prefix_length_le (List.prefix_append _ _) begins (by omega)
    obtain ⟨past, rfl⟩ := within
    cases past with
    | nil => simp at long
    | cons y past =>
      -- one byte more than the part would begin a character
      have onward : IsBeginning (part ++ [y]) := by
        obtain ⟨c, whole⟩ := beginning
        refine ⟨c, List.IsPrefix.trans ⟨past, ?_⟩ whole⟩
        simp
      have follows := (List.prefix_append_right_inj part).mp begins
      cases rest with
      | nil =>
        obtain ⟨rfl, -⟩ := List.cons_prefix_cons.mp follows
        exact not_isBeginning_of_lead (List.length_pos_iff.mp broken.length_pos) lead onward
      | cons z rest =>
        obtain ⟨rfl, -⟩ := List.cons_prefix_cons.mp follows
        have bounded := broken.longest (part ++ [y]) onward ⟨rest, by simp⟩
        rw [List.length_append, List.length_singleton] at bounded
        omega
  apply isBroken_of_incomplete broken.begun longest
  intro c begins
  exact broken.noCharacter c (begins.trans (List.prefix_append part rest))

theorem ReadsAs.before_lead {bs : List UInt8} {cs : List Char} (reads : ReadsAs bs cs) {x : UInt8}
    {l : Lead} (lead : lead? x = some l) (more : List UInt8) :
    ReadsAs (bs ++ x :: more) (cs ++ decodeLossy (x :: more)) := by
  induction reads with
  | nil => exact readsAs_decodeLossy _
  | char c _ ih =>
    rw [List.append_assoc]
    exact .char c ih
  | broken broken _ ih =>
    rw [List.append_assoc]
    exact .broken (broken.before_lead lead more) ih

/-- A text between any bytes is read as it is, and what is around it as if it stood alone. -/
theorem decodeLossy_around (a b : List UInt8) {cs : List Char} (filled : cs ≠ []) :
    decodeLossy (a ++ encode cs ++ b) = decodeLossy a ++ cs ++ decodeLossy b := by
  obtain ⟨c, cs, rfl⟩ := List.exists_cons_of_ne_nil filled
  obtain ⟨x, t, l, encoded, lead, -⟩ := encoded_shape c
  have begins : encode (c :: cs) ++ b = x :: (t ++ encode cs ++ b) := by
    rw [encode, List.flatMap_cons, encoded]
    simp [encode]
  have reads := (readsAs_decodeLossy a).before_lead lead (t ++ encode cs ++ b)
  rw [← begins, decodeLossy_encode_append] at reads
  rw [List.append_assoc, (decodeLossy_iff _ _).mpr reads, List.append_assoc]

theorem decodeLossy_encode (cs : List Char) : decodeLossy (encode cs) = cs := by
  have whole := decodeLossy_encode_append cs []
  rwa [decodeLossy_nil, List.append_nil, List.append_nil] at whole

/-- Only no bytes at all are read as an empty text. -/
theorem decodeLossy_eq_nil {bs : List UInt8} (empty : decodeLossy bs = []) : bs = [] := by
  cases (decodeLossy_iff bs []).mp empty
  rfl

/-- Only a character itself is read as one that is no replacement. -/
theorem decodeLossy_eq_singleton {bs : List UInt8} {c : Char} (other : c ≠ '\ufffd')
    (single : decodeLossy bs = [c]) : bs = String.utf8EncodeChar c := by
  cases (decodeLossy_iff bs [c]).mp single with
  | char _ rest =>
    cases rest
    exact List.append_nil _
  | broken => exact absurd rfl other

end MachineDescriptor.Text.Utf8

namespace MachineDescriptor.Network

open Text

theorem address_of_ends {bytes : List UInt8} {text : List Char}
    (ends : Utf8.decodeLossy bytes = text ++ ['\n']) : address bytes = text := by
  simp [address, ends]

theorem address_of_not {bytes : List UInt8} {text : List Char}
    (read : Utf8.decodeLossy bytes = text) (goesOn : text.getLast? ≠ some '\n') :
    address bytes = text := by
  rw [address, read]
  exact if_neg goesOn

theorem address_eq_nil_iff (bytes : List UInt8) :
    address bytes = [] ↔ bytes = [] ∨ bytes = Utf8.encode ['\n'] := by
  constructor
  · intro empty
    by_cases ends : (Utf8.decodeLossy bytes).getLast? = some '\n'
    · obtain ⟨text, read⟩ := List.getLast?_eq_some_iff.mp ends
      obtain rfl : text = [] := (address_of_ends read).symm.trans empty
      exact .inr (Utf8.decodeLossy_eq_singleton (by decide) read)
    · rw [address_of_not rfl ends] at empty
      exact .inl (Utf8.decodeLossy_eq_nil empty)
  · rintro (rfl | rfl)
    · exact address_of_not Utf8.decodeLossy_nil (by simp)
    · exact address_of_ends (Utf8.decodeLossy_encode _)

/-- **The address of an interface is what its file says, as far as it can be read.** A file that can be
read gives its text without one last line feed. The text has a character where the bytes of one
stand, and one replacement for each broken part, so that a text between any bytes is read as it is;
it is empty only for an empty file and for a single line feed. -/
theorem address_tells :
    (∀ (tree : Files.Tree) (directory : Files.Path) (interface : String) (bytes : List UInt8),
      (addressPath directory interface).hasNull = false →
      tree.read (addressPath directory interface) = .ok bytes →
      findAddress tree directory interface = .ok (.address (address bytes))) ∧
    (∀ bytes text, Utf8.decodeLossy bytes = text ↔ Utf8.ReadsAs bytes text) ∧
    (∀ bytes text, Utf8.decodeLossy bytes = text ++ ['\n'] → address bytes = text) ∧
    (∀ bytes text, Utf8.decodeLossy bytes = text → text.getLast? ≠ some '\n' →
      address bytes = text) ∧
    (∀ a text b, text ≠ [] →
      Utf8.decodeLossy (a ++ Utf8.encode text ++ b) =
        Utf8.decodeLossy a ++ text ++ Utf8.decodeLossy b) ∧
    (∀ text, Utf8.decodeLossy (Utf8.encode text) = text) ∧
    (∀ bytes, address bytes = [] ↔ bytes = [] ∨ bytes = Utf8.encode ['\n']) ∧
    ∀ text, address (Utf8.encode text ++ Utf8.encode ['\n']) = text := by
  refine ⟨?_, Utf8.decodeLossy_iff, fun _ _ => address_of_ends, fun _ _ => address_of_not,
    fun a _ b => Utf8.decodeLossy_around a b, Utf8.decodeLossy_encode, address_eq_nil_iff, ?_⟩
  · intro tree directory interface bytes clear read
    rw [findAddress]
    simp only [clear, read, Bool.false_eq_true, if_false]
  · intro text
    apply address_of_ends
    rw [Utf8.decodeLossy_encode_append, Utf8.decodeLossy_encode]

/-- The bytes of an address of which a part is broken off, with two line feeds at the end. -/
def brokenBytes : List UInt8 := Utf8.encode ['5', '2', ':'] ++ [0xe2, 0x82, 0xff, 0x0a, 0x0a]

/-- A directory of one interface whose address is broken. -/
def brokenTree : Files.Tree :=
  ⟨[(["net"], .directory), (["net", "eth0"], .directory),
    (["net", "eth0", "address"], .file brokenBytes)], [], true⟩

theorem brokenTree_read :
    brokenTree.read (addressPath ⟨.current, ["net"]⟩ "eth0") = .ok brokenBytes := by
  have spelled : addressPath ⟨.current, ["net"]⟩ "eth0" =
      ⟨.current, ["net", "eth0", "address"]⟩ := by
    decide +kernel
  have short : ¬Files.Tree.maxPath <
      (Files.Path.mk .current ["net", "eth0", "address"]).toString.utf8ByteSize := by
    decide +kernel
  rw [spelled, Files.Tree.read, Files.Tree.resolve, if_neg short,
    Files.Tree.walk_of_entry (e := .directory) rfl (by decide) (by decide) rfl (by rintro target ⟨⟩)
      true _ (List.cons_ne_nil _ _),
    Files.Tree.walk_of_entry (e := .directory) rfl (by decide) (by decide) rfl (by rintro target ⟨⟩)
      true _ (List.cons_ne_nil _ _),
    Files.Tree.walk_of_last rfl (by decide) (by decide) (by rintro target ⟨⟩)]
  rfl

/-- Two broken parts are two replacements, and one of two line feeds stays. -/
theorem address_brokenTree :
    findAddress brokenTree ⟨.current, ["net"]⟩ "eth0" =
      .ok (.address ['5', '2', ':', '\ufffd', '\ufffd', '\n']) ∧
    Utf8.decodeLossy ([0xe2, 0x82] ++ Utf8.encode ['x'] ++ [0xff]) =
      Utf8.decodeLossy [0xe2, 0x82] ++ ['x'] ++ Utf8.decodeLossy [0xff] ∧
    address (Utf8.encode ['x', '\n', 'y']) = ['x', '\n', 'y'] := by
  have text : Utf8.decodeLossy brokenBytes =
      ['5', '2', ':', '\ufffd', '\ufffd', '\n'] ++ ['\n'] := by
    decide +kernel
  obtain ⟨finds, -, ends, goesOn, around, whole, -⟩ := address_tells
  have found := finds brokenTree ⟨.current, ["net"]⟩ "eth0" brokenBytes (by decide +kernel)
    brokenTree_read
  rw [ends _ _ text] at found
  refine ⟨found, ?_, ?_⟩
  · exact around [0xe2, 0x82] ['x'] [0xff] (by decide)
  · exact goesOn _ _ (whole ['x', '\n', 'y']) (by decide)

end MachineDescriptor.Network
