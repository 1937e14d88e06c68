import MachineDescriptor.Proofs.Bindings
import MachineDescriptor.Proofs.Recording

/-!
Merged contexts. A context is determined by the order of its names and the values under them; in a
merge a name keeps the place that it has first, and the value that it has last (`entries_merge`).
So merging is associative with the empty context on either side (`merge_assoc`), and what is merged
from left to right does not depend on how it is grouped (`mergeAll_flatten`). The record of a
speaker has the merge of all that was bound to the speaker, with the context of the call on top.
-/
namespace MachineDescriptor

namespace Context

/-! ## Names and values -/

def names (c : Context) : List String := c.entries.map Prod.fst

/-- Lists of entries with the same names in the same order and the same values are equal. -/
theorem eq_of_lookup {es es' : List (String × Value)} (names : es.map Prod.fst = es'.map Prod.fst)
    (distinct : (es.map Prod.fst).Nodup) (same : ∀ name, es.lookup name = es'.lookup name) :
    es = es' := by
  induction es generalizing es' with
  | nil => exact (List.map_eq_nil_iff.mp names.symm).symm
  | cons e rest ih =>
    cases es' with
    | nil => cases names
    | cons e' rest' =>
      obtain ⟨first, others⟩ := List.cons.inj names
      obtain ⟨absent, distinct⟩ := List.nodup_cons.mp distinct
      have value : e.2 = e'.2 := by
        have here := same e.1
        rw [lookup_cons_eq, lookup_cons_eq, if_pos rfl, if_pos first] at here
        exact Option.some.inj here
      have later : rest = rest' := by
        apply ih others distinct
        intro name
        by_cases known : name = e.1
        · rw [known, lookup_eq_none_of_not_mem absent,
            lookup_eq_none_of_not_mem (others ▸ absent)]
        · have there := same name
          rwa [lookup_cons_eq, lookup_cons_eq, if_neg known, if_neg (first ▸ known)] at there
      rw [later, Prod.ext first value]

/-- A context is determined by the order of its names and the values under them. -/
theorem eq_of_find? {c d : Context} (order : c.names = d.names)
    (same : ∀ name, c.find? name = d.find? name) : c = d := by
  have entries : c.entries = d.entries := eq_of_lookup order c.distinct same
  cases c
  cases d
  congr

theorem names_put (c : Context) (name : String) (value : Value) :
    (c.put name value).names = if name ∈ c.names then c.names else c.names ++ [name] :=
  names_putEntry name value c.entries

theorem names_puts {es : List (String × Value)} (distinct : (es.map Prod.fst).Nodup)
    (c : Context) :
    (es.foldl (fun c e => c.put e.1 e.2) c).names =
      c.names ++ (es.map Prod.fst).filter (fun name => name ∉ c.names) := by
  induction es generalizing c with
  | nil => simp
  | cons e rest ih =>
    obtain ⟨absent, others⟩ := List.nodup_cons.mp distinct
    rw [List.foldl_cons, ih others, names_put, List.map_cons]
    by_cases known : e.1 ∈ c.names
    · rw [if_pos known, List.filter_cons_of_neg (by simpa using known)]
    · rw [if_neg known, List.filter_cons_of_pos (by simpa using known), List.append_assoc,
        List.singleton_append]
      congr 2
      apply List.filter_congr
      intro name listed
      have other : name ≠ e.1 := by
        rintro rfl
        exact absent listed
      simp [other]

/-- A merge has the names of the first context and then those that only the second one has. -/
theorem names_merge (c d : Context) :
    (c.merge d).names = c.names ++ d.names.filter (fun name => name ∉ c.names) :=
  names_puts d.distinct c

/-! ## Merging -/

theorem merge_empty (c : Context) : c.merge empty = c := rfl

theorem empty_merge (c : Context) : empty.merge c = c := by
  apply eq_of_find?
  · rw [names_merge]
    simp [names, empty]
  · intro name
    rw [find?_merge, find?_empty, Option.or_none]

/-- **Merging is associative**, in the values and in the order of the names. -/
theorem merge_assoc (a b c : Context) : (a.merge b).merge c = a.merge (b.merge c) := by
  apply eq_of_find?
  · simp only [names_merge, List.filter_append, List.filter_filter, List.append_assoc]
    congr 2
    apply List.filter_congr
    intro name _
    simp only [List.mem_append, List.mem_filter]
    grind
  · intro name
    simp only [find?_merge, Option.or_assoc]

instance : Std.Associative merge := ⟨merge_assoc⟩

/-- The entries of two contexts with every name at the place that it has first and with the value
that it has last. -/
def overlaid (c d : Context) : List (String × Value) :=
  c.entries.map (fun e => (e.1, (d.find? e.1).getD e.2)) ++
    d.entries.filter fun e => (c.find? e.1).isNone

theorem find?_eq_none_iff (c : Context) (name : String) :
    c.find? name = none ↔ name ∉ c.names := by
  constructor
  · intro unknown listed
    obtain ⟨e, known, rfl⟩ := List.mem_map.mp listed
    have bound := (mem_iff_lookup c.distinct e).mp known
    rw [find?, bound] at unknown
    cases unknown
  · exact lookup_eq_none_of_not_mem

theorem lookup_map (f : String → Value → Value) (es : List (String × Value)) (name : String) :
    (es.map fun e => (e.1, f e.1 e.2)).lookup name = (es.lookup name).map (f name) := by
  induction es with
  | nil => rfl
  | cons e rest ih =>
    rw [List.map_cons, lookup_cons_eq, lookup_cons_eq, ih]
    by_cases same : name = e.1
    · rw [if_pos same, if_pos same, same]
      rfl
    · rw [if_neg same, if_neg same]

theorem lookup_filter (p : String → Bool) (es : List (String × Value)) (name : String) :
    (es.filter fun e => p e.1).lookup name = if p name then es.lookup name else none := by
  induction es with
  | nil => simp
  | cons e rest ih =>
    obtain ⟨n, value⟩ := e
    rw [List.filter_cons, lookup_cons_eq]
    by_cases same : name = n
    · subst same
      cases kept : p name with
      | true => simp
      | false => simp [ih, kept]
    · rw [if_neg same, ← ih]
      cases kept : p n with
      | true => rw [if_pos rfl, lookup_cons_eq, if_neg same]
      | false => rw [if_neg Bool.false_ne_true]

/-- **In a merge every name has its first place and its last value.** -/
theorem entries_merge (c d : Context) : (c.merge d).entries = overlaid c d := by
  have unknown : (fun name => decide (name ∉ c.names)) = fun name => (c.find? name).isNone := by
    funext name
    rw [Bool.eq_iff_iff, decide_eq_true_eq, Option.isNone_iff_eq_none]
    exact (c.find?_eq_none_iff name).symm
  apply eq_of_lookup _ (c.merge d).distinct
  · intro name
    have merged : (c.merge d).entries.lookup name = _ := find?_merge c d name
    rw [merged, overlaid, List.lookup_append,
      lookup_map (fun name value => (d.find? name).getD value),
      lookup_filter fun name => (c.find? name).isNone]
    change _ = ((c.find? name).map _).or (if _ then d.find? name else none)
    cases c.find? name with
    | none => simp
    | some value => cases d.find? name <;> rfl
  · have order : (c.merge d).entries.map Prod.fst = _ := names_merge c d
    rw [order, unknown, overlaid, List.map_append, List.map_map, names, names, List.filter_map]
    rfl

/-! ## Many contexts -/

/-- The merge of contexts from left to right. -/
def mergeAll (cs : List Context) : Context := cs.foldl merge empty

theorem foldl_merge (c : Context) (cs : List Context) :
    cs.foldl merge c = c.merge (mergeAll cs) := by
  have grouped : cs.foldl merge (c.merge empty) = c.merge (cs.foldl merge empty) :=
    List.foldl_assoc
  rwa [merge_empty] at grouped

theorem mergeAll_append (cs ds : List Context) :
    mergeAll (cs ++ ds) = (mergeAll cs).merge (mergeAll ds) := by
  rw [mergeAll, List.foldl_append, foldl_merge]
  rfl

theorem mergeAll_singleton (c : Context) : mergeAll [c] = c := empty_merge c

/-- Groups of contexts may be merged first. -/
theorem mergeAll_flatten (groups : List (List Context)) :
    mergeAll groups.flatten = mergeAll (groups.map mergeAll) := by
  induction groups with
  | nil => rfl
  | cons group rest ih =>
    rw [List.flatten_cons, mergeAll_append, ih, List.map_cons, ← List.singleton_append,
      mergeAll_append, mergeAll_singleton]

end Context

namespace Log

/-! ## Speakers -/

/-- All that is bound to a speaker, from the inside out. -/
def Speaker.bindings : Speaker → List Context
  | .logger _ => []
  | .bound inner own => inner.bindings ++ [own]

/-- The context of a record is all that is bound to its speaker with that of the call on top. -/
theorem contextOf_bound (inner : Speaker) (own : Context) (call : Option Context) :
    (inner.bound own).contextOf call =
      some (Context.mergeAll ((inner.bound own).bindings ++ [call.getD .empty])) := by
  induction inner generalizing own call with
  | logger name =>
    rw [Speaker.bindings, Speaker.bindings, List.nil_append, Context.mergeAll_append,
      Context.mergeAll_singleton, Context.mergeAll_singleton]
    rfl
  | bound inner outer ih =>
    rw [Speaker.contextOf, ih]
    simp only [Speaker.bindings, Context.mergeAll_append, Context.mergeAll_singleton,
      Context.merge_assoc, Option.getD_some]

/-- A call that binds a context: around a speaker, or in the innermost binding of one. -/
inductive Binding where
  | around (context : Context)
  | within (context : Context)

namespace Binding

def context : Binding → Context
  | around c | within c => c

/-- The speaker that a call makes of a speaker. -/
def bindTo? : Binding → Speaker → Option Speaker
  | around c, s => some (s.bind c)
  | within c, s => s.rebind? c

/-- The speaker after calls that bind one context after the other. -/
def bindAll? (chain : List Binding) (s : Speaker) : Option Speaker :=
  chain.foldlM (fun s b => b.bindTo? s) s

/-- Calls that bind succeed at a speaker that has a binding, and add to what is bound to it. -/
theorem bindAll_bound (chain : List Binding) (inner : Speaker) (base : Context) :
    ∃ (inner' : Speaker) (own : Context),
      bindAll? chain (inner.bound base) = some (inner'.bound own) ∧
      Context.mergeAll (inner'.bound own).bindings =
        Context.mergeAll ((inner.bound base).bindings ++ chain.map context) := by
  induction chain generalizing inner base with
  | nil => exact ⟨inner, base, rfl, by rw [List.map_nil, List.append_nil]⟩
  | cons b rest ih =>
    cases b with
    | around c =>
      obtain ⟨inner', own, made, told⟩ := ih (inner.bound base) c
      refine ⟨inner', own, made, ?_⟩
      rw [told, Speaker.bindings, List.append_assoc]
      rfl
    | within c =>
      obtain ⟨inner', own, made, told⟩ := ih inner (base.merge c)
      refine ⟨inner', own, made, ?_⟩
      rw [told, List.map_cons, ← List.singleton_append]
      simp only [Speaker.bindings, context, Context.mergeAll_append, Context.mergeAll_singleton,
        Context.merge_assoc]

theorem bindAll_within (cs : List Context) (inner : Speaker) (base : Context) :
    bindAll? (cs.map within) (inner.bound base) =
      some (inner.bound (base.merge (Context.mergeAll cs))) := by
  induction cs generalizing base with
  | nil => rfl
  | cons c rest ih =>
    have next : bindAll? ((c :: rest).map within) (inner.bound base) =
        bindAll? (rest.map within) (inner.bound (base.merge c)) := rfl
    rw [next, ih, Context.merge_assoc, ← List.singleton_append, Context.mergeAll_append,
      Context.mergeAll_singleton]

end Binding

/-! ## Records -/

/-- The merge of two contexts, where none counts as the empty one. -/
def merged (c d : Option Context) : Context := (c.getD .empty).merge (d.getD .empty)

/-- The record of a call tells all that was bound, from left to right, and the context of the call
on top, which wins on every name. -/
def TellsAll (bound : List Context) (call : Option Context) (r : Record) : Prop :=
  ∃ c, r.context = some c ∧ c = Context.mergeAll (bound ++ [call.getD .empty]) ∧
    ∀ name, c.find? name =
      ((call.getD .empty).find? name).or ((Context.mergeAll bound).find? name)

/-- **Merging is associative and right-biased, and records tell the merge of all that was bound.**
No context and the empty one change nothing on either side; a name has the place that it has first
and the value that it has last. However the calls bind, around a speaker or in its innermost
binding, the record has all of it from left to right, and it makes no difference whether contexts
are bound one by one or in groups. -/
theorem records_tell_bindings :
    (∀ a b d : Option Context,
      merged (some (merged a b)) d = merged a (some (merged b d)) ∧
      (merged a b).entries = Context.overlaid (a.getD .empty) (b.getD .empty)) ∧
    (∀ a : Option Context,
      merged a none = a.getD .empty ∧ merged none a = a.getD .empty ∧
      merged a (some .empty) = a.getD .empty ∧ merged (some .empty) a = a.getD .empty) ∧
    (∀ (chain : List Binding) (inner : Speaker) (base : Context), ∃ s,
      Binding.bindAll? chain (inner.bound base) = some s ∧
      ∀ level template arguments call p, ∃ r,
        (Journal.say s level template arguments call p).1.records = p.1.records ++ [r] ∧
        TellsAll ((inner.bound base).bindings ++ chain.map Binding.context) call r) ∧
    ∀ (groups : List (List Context)) (inner : Speaker) (base : Context),
      Binding.bindAll? (groups.map fun group => .within (Context.mergeAll group))
          (inner.bound base) =
        Binding.bindAll? (groups.flatten.map .within) (inner.bound base) := by
  refine ⟨?_, ?_, ?_, ?_⟩
  · intro a b d
    exact ⟨Context.merge_assoc _ _ _, Context.entries_merge _ _⟩
  · intro a
    exact ⟨Context.merge_empty _, Context.empty_merge _, Context.merge_empty _,
      Context.empty_merge _⟩
  · intro chain inner base
    obtain ⟨inner', own, made, told⟩ := Binding.bindAll_bound chain inner base
    refine ⟨_, made, ?_⟩
    intro level template arguments call p
    refine ⟨_, (Journal.say_records _ level template arguments call p).1, _,
      contextOf_bound inner' own call, ?_, ?_⟩
    · rw [Context.mergeAll_append, told, ← Context.mergeAll_append]
    · intro name
      rw [Context.mergeAll_append, told, Context.find?_merge, Context.mergeAll_singleton]
  · intro groups inner base
    have each : groups.map (fun group => Binding.within (Context.mergeAll group)) =
        (groups.map Context.mergeAll).map Binding.within := (List.map_map).symm
    rw [each, Binding.bindAll_within, Binding.bindAll_within, Context.mergeAll_flatten]

end Log
end MachineDescriptor
