import Mathlib.Data.List.Sort
import MachineDescriptor.Context

/-!
The bindings of a context: the value that each name stands for. What is put in last under a name is
bound to it. Contexts with the same bindings have the same entries, which in the order of their
names are one list.
-/
namespace MachineDescriptor.Context

/-- The value under a name. -/
def find? (c : Context) (name : String) : Option Value := c.entries.lookup name

theorem lookup_cons_eq (n : String) (v : Value) (rest : List (String × Value)) (name : String) :
    ((n, v) :: rest).lookup name = if name = n then some v else rest.lookup name := by
  rw [List.lookup_cons]
  by_cases same : name = n
  · simp [same]
  · rw [if_neg same, beq_eq_false_iff_ne.mpr same]

/-! ## What is put in -/

theorem find?_empty (name : String) : empty.find? name = none := rfl

theorem lookup_putEntry (name : String) (value : Value) (es : List (String × Value))
    (wanted : String) : (putEntry name value es).lookup wanted =
      if wanted = name then some value else es.lookup wanted := by
  induction es with
  | nil => exact lookup_cons_eq name value [] wanted
  | cons e rest ih =>
    obtain ⟨n, v⟩ := e
    by_cases known : n = name
    · rw [putEntry, if_pos known, lookup_cons_eq, lookup_cons_eq, known]
      split <;> rfl
    · rw [putEntry, if_neg known, lookup_cons_eq, lookup_cons_eq, ih]
      by_cases first : wanted = n
      · rw [if_pos first, if_pos first, if_neg (first ▸ known)]
      · rw [if_neg first, if_neg first]

theorem find?_put (c : Context) (name : String) (value : Value) (wanted : String) :
    (c.put name value).find? wanted = if wanted = name then some value else c.find? wanted :=
  lookup_putEntry name value c.entries wanted

theorem lookup_eq_none_of_not_mem {es : List (String × Value)} {name : String}
    (absent : name ∉ es.map Prod.fst) : es.lookup name = none := by
  rw [List.lookup_eq_none_iff]
  intro e listed
  rw [bne_iff_ne]
  rintro rfl
  exact absent (List.mem_map_of_mem listed)

theorem find?_puts {es : List (String × Value)} (distinct : (es.map Prod.fst).Nodup) (c : Context)
    (name : String) :
    (es.foldl (fun c e => c.put e.1 e.2) c).find? name = (es.lookup name).or (c.find? name) := by
  induction es generalizing c with
  | nil => rfl
  | cons e rest ih =>
    obtain ⟨apart, others⟩ := List.nodup_cons.mp distinct
    rw [List.foldl_cons, ih others, find?_put, lookup_cons_eq]
    by_cases first : name = e.1
    · rw [if_pos first, if_pos first, first, lookup_eq_none_of_not_mem apart]
      rfl
    · rw [if_neg first, if_neg first]

/-- The value under a name after a merge is the merged one, and the one before where there is none. -/
theorem find?_merge (c d : Context) (name : String) :
    (c.merge d).find? name = (d.find? name).or (c.find? name) :=
  find?_puts d.distinct c name

/-! ## Contexts with the same bindings -/

theorem mem_iff_lookup {es : List (String × Value)} (distinct : (es.map Prod.fst).Nodup)
    (e : String × Value) : e ∈ es ↔ es.lookup e.1 = some e.2 := by
  induction es with
  | nil => simp
  | cons first rest ih =>
    obtain ⟨apart, others⟩ := List.nodup_cons.mp distinct
    rw [List.mem_cons, ih others, lookup_cons_eq]
    by_cases same : e.1 = first.1
    · rw [if_pos same, same, lookup_eq_none_of_not_mem apart, Prod.ext_iff, Option.some_inj]
      simp [same, eq_comm]
    · rw [if_neg same, Prod.ext_iff]
      simp [same]

theorem perm_of_find? {c d : Context} (same : ∀ name, c.find? name = d.find? name) :
    c.entries.Perm d.entries := by
  rw [List.perm_ext_iff_of_nodup (List.Nodup.of_map _ c.distinct) (List.Nodup.of_map _ d.distinct)]
  intro e
  rw [mem_iff_lookup c.distinct, mem_iff_lookup d.distinct]
  exact iff_of_eq (congrArg (· = some e.2) (same e.1))

theorem isEmpty_of_find? {c d : Context} (same : ∀ name, c.find? name = d.find? name) :
    c.isEmpty = d.isEmpty := by
  unfold isEmpty
  rw [Bool.eq_iff_iff, List.isEmpty_iff_length_eq_zero, List.isEmpty_iff_length_eq_zero,
    (perm_of_find? same).length_eq]

theorem isWritable_of_find? {c d : Context} (same : ∀ name, c.find? name = d.find? name) :
    c.isWritable = d.isWritable :=
  (perm_of_find? same).all_eq

theorem find?_of_perm {c d : Context} (perm : c.entries.Perm d.entries) (name : String) :
    c.find? name = d.find? name := by
  apply Option.ext
  intro v
  have first := mem_iff_lookup c.distinct (name, v)
  have second := mem_iff_lookup d.distinct (name, v)
  unfold find?
  rw [← first, ← second]
  exact perm.mem_iff

/-! ## The order of the names -/

theorem sorted_perm (c : Context) : c.sorted.Perm c.entries := List.mergeSort_perm _ _

theorem sorted_le (c : Context) : c.sorted.Pairwise fun e e' => e.1 ≤ e'.1 := by
  have sorted := @List.pairwise_mergeSort _ (fun e e' : String × Value => decide (e.1 ≤ e'.1))
    (fun _ _ _ low high =>
      decide_eq_true (String.le_trans (of_decide_eq_true low) (of_decide_eq_true high)))
    (fun e e' => by simp [String.le_total e.1 e'.1]) c.entries
  exact sorted.imp of_decide_eq_true

/-- The names of a context ascend in its order, because every name occurs once. -/
theorem sorted_lt (c : Context) : c.sorted.Pairwise fun e e' => e.1 < e'.1 := by
  have distinct : (c.sorted.map Prod.fst).Nodup :=
    ((c.sorted_perm.map Prod.fst).nodup_iff).mpr c.distinct
  have apart : c.sorted.Pairwise fun e e' => e.1 ≠ e'.1 := List.pairwise_map.mp distinct
  apply (c.sorted_le.and apart).imp
  rintro e e' ⟨low, other⟩
  apply String.not_le.mp
  intro back
  exact other (String.le_antisymm low back)

/-- **In the order of their names, the entries are determined by the bindings.** -/
theorem sorted_of_find? {c d : Context} (same : ∀ name, c.find? name = d.find? name) :
    c.sorted = d.sorted := by
  have perm : c.sorted.Perm d.sorted :=
    c.sorted_perm.trans ((perm_of_find? same).trans d.sorted_perm.symm)
  apply perm.eq_of_pairwise _ c.sorted_lt d.sorted_lt
  intro e e' _ _ low high
  exact absurd high (String.lt_asymm low)

end MachineDescriptor.Context
