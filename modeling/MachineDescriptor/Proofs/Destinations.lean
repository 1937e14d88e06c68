import MachineDescriptor.Proofs.Overlays

/-!
Paths at which a file may be put. Such a path leads to a free name or to a regular file, and it goes
on leading there while files are written.
-/
namespace MachineDescriptor.Files.Tree

/-! ## Arrivals -/

/-- What lies where a walk arrives. -/
def Arrival.entry? : Arrival → Option Entry
  | .entry _ e => some e
  | .free _ => none

variable {t t' : Tree} {places : List Location} {place : Location} {p : Path}

theorem find?_of_walk {follow : Bool} {links : Nat} {names : List String} {a : Arrival}
    (arrives : t.walk follow links place names = .ok a) : t.find? a.place = a.entry? := by
  fun_induction Tree.walk t follow links place names with
  | case1 links place =>
    obtain rfl := Except.ok.inj arrives
    cases found : t.find? place <;> simp [Arrival.place, Arrival.entry?, found]
  | case5 links place name rest directory down fits child missing last =>
    obtain rfl := Except.ok.inj arrives
    exact missing
  | case7 links place name rest directory down fits child target link stays =>
    obtain rfl := Except.ok.inj arrives
    exact link
  | case10 links place name rest directory down fits child e straight found last =>
    obtain rfl := Except.ok.inj arrives
    exact found
  | case3 _ _ _ _ ih => exact ih arrives
  | case9 _ _ _ _ _ _ _ _ _ _ _ _ _ ih => exact ih arrives
  | case11 _ _ _ _ _ _ _ _ _ _ _ _ ih => exact ih arrives
  | case2 | case4 | case6 | case8 | case12 => cases arrives

/-- A walk that does not follow a link at its end goes the same way as one that does, unless there
is such a link. -/
theorem walk_following {links : Nat} {names : List String} {a : Arrival}
    (arrives : t.walk false links place names = .ok a)
    (straight : ∀ l target, a ≠ .entry l (.link target)) :
    t.walk true links place names = .ok a := by
  fun_induction Tree.walk t false links place names with
  | case1 links place =>
    rw [Tree.walk]
    exact arrives
  | case3 links place rest directory ih =>
    rw [Tree.walk, directory]
    simpa using ih arrives
  | case5 links place name rest directory down fits child missing last =>
    rw [walk_of_directory directory down fits, missing]
    simp only [last, if_true]
    exact arrives
  | case7 links place name rest directory down fits child target link stays =>
    obtain rfl := Except.ok.inj arrives
    exact absurd rfl (straight child target)
  | case9 place name rest directory down fits child target link goes links path start ih =>
    rw [walk_of_directory directory down fits, link]
    simp only [Bool.not_true, Bool.and_false, Bool.false_eq_true, if_false]
    exact ih arrives
  | case10 links place name rest directory down fits child e other found last =>
    obtain rfl : rest = [] := by simpa using last
    have noLink : ∀ target, t.find? child ≠ some (.link target) := by
      rintro target link
      rw [found] at link
      cases link
      exact other target rfl
    rw [walk_of_last directory down fits noLink, found]
    exact arrives
  | case11 links place name rest directory down fits child e other found more ih =>
    rw [walk_of_entry directory down fits found other true links (by simpa using more)]
    exact ih arrives
  | case2 | case4 | case6 | case8 | case12 => cases arrives

theorem find?_of_resolve {follow : Bool} {a : Arrival} (arrives : t.resolve follow p = .ok a) :
    t.find? a.place = a.entry? := by
  unfold resolve at arrives
  split at arrives
  · cases arrives
  · exact find?_of_walk arrives

theorem resolve_following {a : Arrival} (arrives : t.resolve false p = .ok a)
    (straight : ∀ l target, a ≠ .entry l (.link target)) : t.resolve true p = .ok a := by
  unfold resolve at arrives ⊢
  split at arrives
  · cases arrives
  · next fits =>
    rw [if_neg fits]
    exact walk_following arrives straight

theorem Arrival.eq_entry {a : Arrival} {e : Entry} (arrived : a.place = place)
    (found : a.entry? = some e) : a = .entry place e := by
  cases a with
  | entry l e' =>
    obtain rfl : l = place := arrived
    obtain rfl : e' = e := Option.some.inj found
    rfl
  | free l => cases found

/-! ## Erasing -/

theorem lookup_filter_self (place : Location) (es : List (Location × Entry)) :
    (es.filter fun e => e.1 != place).lookup place = none := by
  induction es with
  | nil => rfl
  | cons e rest ih =>
    obtain ⟨l, e⟩ := e
    by_cases here : l = place
    · simp [here, ih]
    · have ne : (place == l) = false := by simpa using fun e => here e.symm
      simp [here, List.lookup_cons, ne, ih]

theorem lookup_filter_of_ne {other : Location} (ne : other ≠ place)
    (es : List (Location × Entry)) :
    (es.filter fun e => e.1 != place).lookup other = es.lookup other := by
  induction es with
  | nil => rfl
  | cons e rest ih =>
    obtain ⟨l, e⟩ := e
    by_cases here : l = place
    · subst here
      have ne' : (other == l) = false := by simpa using ne
      simp [List.lookup_cons, ne', ih]
    · simp [here, List.lookup_cons, ih]

/-- Nothing lies where something was erased. -/
theorem find?_erase_self (t : Tree) (ne : place ≠ []) : (t.erase place).find? place = none := by
  have ne' : place.isEmpty = false := by simpa using ne
  simp [find?, erase, ne', lookup_filter_self]

/-- Nothing else is erased. -/
theorem find?_erase_of_ne (t : Tree) {other : Location} (ne : other ≠ place) :
    (t.erase place).find? other = t.find? other := by
  simp [find?, erase, lookup_filter_of_ne ne]

/-! ## Walks in trees that were written to -/

/-- A path leads where it led, if that is not one of the places written to. -/
theorem resolve_of_apart (overlays : t.Overlays places t') (room : t.HasRoom places)
    {follow : Bool} {a : Arrival} (arrives : t.resolve follow p = .ok a)
    (apart : a.place ∉ places) : t'.resolve follow p = .ok a := by
  have agrees := resolve_of_overlays overlays room follow p
  rw [arrives] at agrees
  cases arrives' : t'.resolve follow p with
  | error o =>
    rw [arrives'] at agrees
    cases agrees
  | ok a' =>
    rw [arrives'] at agrees
    rcases agrees with rfl | ⟨listed, -⟩
    · rfl
    · exact absurd listed apart

/-- A path leads to the file that was written where it led. -/
theorem resolve_of_written (overlays : t.Overlays places t') (room : t.HasRoom places)
    {follow : Bool} {a : Arrival} (arrives : t.resolve follow p = .ok a) {bytes : List UInt8}
    (written : t'.find? a.place = some (.file bytes)) :
    t'.resolve follow p = .ok (.entry a.place (.file bytes)) := by
  have agrees := resolve_of_overlays overlays room follow p
  rw [arrives] at agrees
  cases arrives' : t'.resolve follow p with
  | error o =>
    rw [arrives'] at agrees
    cases agrees
  | ok a' =>
    rw [arrives'] at agrees
    have arrived : a'.place = a.place := by
      rcases agrees with rfl | ⟨-, bytes', rfl⟩
      · rfl
      · rfl
    have found : a'.entry? = some (.file bytes) := by
      rw [← find?_of_resolve arrives', arrived, written]
    rw [Arrival.eq_entry arrived found]

/-! ## Files that can be opened -/

/-- A path leads to a free name or to a regular file. -/
structure Opens (t : Tree) (p : Path) (place : Location) : Prop where
  clear : p.hasNull = false
  arrives : t.resolve true p = .ok (.free place) ∨
    ∃ bytes, t.resolve true p = .ok (.entry place (.file bytes))

theorem Opens.arrival (opens : t.Opens p place) : ∃ a, t.resolve true p = .ok a ∧
    a.place = place ∧ ∀ e, a.entry? = some e → e.isRegular = true := by
  rcases opens.arrives with free | ⟨bytes, file⟩
  · exact ⟨_, free, rfl, fun e none => by cases none⟩
  · refine ⟨_, file, rfl, ?_⟩
    rintro _ ⟨⟩
    rfl

/-- Nothing but a regular file lies where a path can be opened. -/
theorem Opens.hasRoom (opens : t.Opens p place) (room : t.HasRoom places) :
    t.HasRoom (place :: places) := by
  obtain ⟨a, arrives, rfl, regular⟩ := opens.arrival
  intro l listed e found
  rcases List.mem_cons.mp listed with rfl | there
  · rw [find?_of_resolve arrives] at found
    exact regular e found
  · exact room l there e found

/-- Opening a file empties it or makes it. -/
theorem Opens.openTo (opens : t.Opens p place) :
    t.openTo true p = .ok (.file place, t.set place (.file [])) := by
  obtain ⟨a, arrives, rfl, regular⟩ := opens.arrival
  rw [Tree.openTo, arrives]
  cases a with
  | free l => rfl
  | entry l e =>
    cases e with
    | file bytes => rfl
    | directory | link | device => cases regular _ rfl

/-- A path can be opened also after files are written elsewhere. -/
theorem Opens.of_overlays (opens : t.Opens p place) (overlays : t.Overlays places t')
    (room : t.HasRoom places) (apart : place ∉ places) : t'.Opens p place where
  clear := opens.clear
  arrives := by
    rcases opens.arrives with free | ⟨bytes, file⟩
    · exact .inl (resolve_of_apart overlays room free apart)
    · exact .inr ⟨bytes, resolve_of_apart overlays room file apart⟩

theorem Opens.isFile_written (opens : t.Opens p place) (overlays : t.Overlays places t')
    (room : t.HasRoom places) {bytes : List UInt8}
    (written : t'.find? place = some (.file bytes)) : t'.isFile p = .ok true := by
  obtain ⟨a, arrives, rfl, -⟩ := opens.arrival
  rw [isFile, opens.clear, if_neg Bool.false_ne_true,
    resolve_of_written overlays room arrives written]

/-! ## Destinations -/

/-- A path leads to a free name or to a regular file, and through no link at its end. -/
structure Admits (t : Tree) (p : Path) (place : Location) : Prop where
  clear : p.hasNull = false
  arrives : t.resolve false p = .ok (.free place) ∨
    ∃ bytes, t.resolve false p = .ok (.entry place (.file bytes))

theorem Admits.arrival (admits : t.Admits p place) : ∃ a, t.resolve false p = .ok a ∧
    a.place = place := by
  rcases admits.arrives with free | ⟨bytes, file⟩
  · exact ⟨_, free, rfl⟩
  · exact ⟨_, file, rfl⟩

theorem Admits.opens (admits : t.Admits p place) : t.Opens p place where
  clear := admits.clear
  arrives := by
    rcases admits.arrives with free | ⟨bytes, file⟩
    · exact .inl (resolve_following free (by rintro l target ⟨⟩))
    · exact .inr ⟨bytes, resolve_following file (by rintro l target ⟨⟩)⟩

/-- A file at its destination is nothing but a regular file. -/
theorem Admits.hasRoom (admits : t.Admits p place) (room : t.HasRoom places) :
    t.HasRoom (place :: places) := admits.opens.hasRoom room

theorem Admits.remove_written (admits : t.Admits p place) (overlays : t.Overlays places t')
    (room : t.HasRoom places) {bytes : List UInt8}
    (written : t'.find? place = some (.file bytes)) (allowed : t.mayRemove = true) :
    t'.remove p = .ok (t'.erase place) := by
  obtain ⟨a, arrives, rfl⟩ := admits.arrival
  rw [remove, overlays.mayRemove, allowed, Bool.not_true, if_neg Bool.false_ne_true,
    resolve_of_written overlays room arrives written]

end MachineDescriptor.Files.Tree
