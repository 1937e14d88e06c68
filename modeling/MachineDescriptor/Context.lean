import MachineDescriptor.Value.Text

/-!
Contexts: ordered mappings from names to values that go along with errors and log records. A name
keeps the place where it was first put in and has the value that was put in last. Merging is
associative, and the empty context changes nothing on either side.
-/
namespace MachineDescriptor

/-- A list of named values in which every name occurs once. -/
structure Context where
  entries : List (String × Value)
  distinct : (entries.map Prod.fst).Nodup

namespace Context

/-- The entries after one is put in: a new name goes last, a known one keeps its place. -/
def putEntry (name : String) (value : Value) : List (String × Value) → List (String × Value)
  | [] => [(name, value)]
  | (n, v) :: rest => if n = name then (n, value) :: rest else (n, v) :: putEntry name value rest

theorem names_putEntry (name : String) (value : Value) (es : List (String × Value)) :
    (putEntry name value es).map Prod.fst =
      if name ∈ es.map Prod.fst then es.map Prod.fst else es.map Prod.fst ++ [name] := by
  induction es with
  | nil => simp [putEntry]
  | cons e rest ih =>
    obtain ⟨n, v⟩ := e
    by_cases h : n = name
    · simp [putEntry, h]
    · have h' : ¬ name = n := fun e => h e.symm
      simp only [putEntry, h, if_false, List.map_cons, ih, List.mem_cons, h', false_or]
      split <;> simp

theorem distinct_putEntry (name : String) (value : Value) {es : List (String × Value)}
    (h : (es.map Prod.fst).Nodup) : ((putEntry name value es).map Prod.fst).Nodup := by
  rw [names_putEntry]
  split
  · exact h
  · rename_i absent
    rw [List.nodup_append]
    exact ⟨h, by simp, fun a ha b hb e => absent (by simp_all)⟩

def empty : Context := ⟨[], by simp⟩

def isEmpty (c : Context) : Bool := c.entries.isEmpty

/-- The context with one more value under a name. -/
def put (c : Context) (name : String) (value : Value) : Context :=
  ⟨putEntry name value c.entries, distinct_putEntry name value c.distinct⟩

/-- The first context with the entries of the second put in one after the other. -/
def merge (c d : Context) : Context := d.entries.foldl (fun c e => c.put e.1 e.2) c

/-- The context that arises when the pairs are put in one after the other. -/
def ofList (pairs : List (String × Value)) : Context :=
  pairs.foldl (fun c e => c.put e.1 e.2) empty

/-- The entries in the order of their names, by code point. -/
def sorted (c : Context) : List (String × Value) :=
  c.entries.mergeSort fun a b => decide (a.1 ≤ b.1)

def isWritable (c : Context) : Bool := c.entries.all fun e => e.2.isWritable

end Context
end MachineDescriptor
