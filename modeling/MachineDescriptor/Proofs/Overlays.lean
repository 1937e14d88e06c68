import MachineDescriptor.Files.Tree

/-!
Trees that differ only in regular files at a few locations. A walk through one of them goes the same
way as a walk through the other, so that what is read elsewhere is the same in both.
-/
namespace MachineDescriptor.Files

def Entry.isRegular : Entry → Bool
  | .file _ => true
  | _ => false

namespace Tree

/-- Nothing but regular files lies at some locations. -/
def HasRoom (t : Tree) (places : List Location) : Prop :=
  ∀ l ∈ places, ∀ e, t.find? l = some e → e.isRegular = true

/-- The second tree is the first one but for regular files at some locations. -/
structure Overlays (places : List Location) (t t' : Tree) : Prop where
  current : t'.current = t.current
  mayRemove : t'.mayRemove = t.mayRemove
  elsewhere : ∀ l, l ∉ places → t'.find? l = t.find? l
  there : ∀ l ∈ places, t'.find? l = t.find? l ∨ ∃ bytes, t'.find? l = some (.file bytes)

variable {places : List Location} {t t' t'' : Tree}

theorem Overlays.refl (places : List Location) (t : Tree) : Overlays places t t :=
  ⟨rfl, rfl, fun _ _ => rfl, fun _ _ => .inl rfl⟩

theorem Overlays.mono (overlays : Overlays places t t') {more : List Location}
    (within : ∀ l ∈ places, l ∈ more) : Overlays more t t' where
  current := overlays.current
  mayRemove := overlays.mayRemove
  elsewhere l away := overlays.elsewhere l fun here => away (within l here)
  there l _ := by
    by_cases here : l ∈ places
    · exact overlays.there l here
    · exact .inl (overlays.elsewhere l here)

theorem Overlays.set (overlays : Overlays places t t') {l : Location} (ne : l ≠ [])
    (here : l ∈ places) (bytes : List UInt8) : Overlays places t (t'.set l (.file bytes)) where
  current := overlays.current
  mayRemove := overlays.mayRemove
  elsewhere other away := by
    have differs : other ≠ l := by
      rintro rfl
      exact away here
    rw [find?_set_of_ne t' differs, overlays.elsewhere other away]
  there other listed := by
    by_cases same : other = l
    · subst same
      exact .inr ⟨bytes, find?_set_self t' ne (.file bytes)⟩
    · rw [find?_set_of_ne t' same]
      exact overlays.there other listed

/-- The top of a tree is a directory and gives no room. -/
theorem HasRoom.ne_nil (room : t.HasRoom places) {l : Location} (here : l ∈ places) : l ≠ [] := by
  rintro rfl
  simpa [Entry.isRegular] using room [] here .directory rfl

/-- What the second tree has at a location: what the first one has, or a file where that has a file
or nothing. -/
theorem Overlays.cases (overlays : Overlays places t t') (room : t.HasRoom places) (l : Location) :
    t'.find? l = t.find? l ∨ l ∈ places ∧ (∃ bytes, t'.find? l = some (.file bytes)) ∧
      (t.find? l = none ∨ ∃ bytes, t.find? l = some (.file bytes)) := by
  by_cases here : l ∈ places
  · rcases overlays.there l here with same | written
    · exact .inl same
    · refine .inr ⟨here, written, ?_⟩
      cases found : t.find? l with
      | none => exact .inl rfl
      | some e =>
        have regular := room l here e found
        cases e with
        | file bytes => exact .inr ⟨bytes, rfl⟩
        | directory | link | device => simp [Entry.isRegular] at regular
  · exact .inl (overlays.elsewhere l here)

/-- The location at which a walk arrives. -/
def Arrival.place : Arrival → Location
  | .entry place _ => place
  | .free place => place

/-- What the end of a walk through one tree says of the same walk through the other. -/
def Agrees (places : List Location) : Except Obstacle Arrival → Except Obstacle Arrival → Prop
  | .error _, .error _ => True
  | .ok a, .ok a' => a' = a ∨ a.place ∈ places ∧ ∃ bytes, a' = .entry a.place (.file bytes)
  | _, _ => False

theorem Agrees.refl (r : Except Obstacle Arrival) : Agrees places r r := by
  cases r with
  | ok => exact .inl rfl
  | error => trivial

/-- Directories and links are in both trees. -/
theorem Overlays.find?_of_not_regular (overlays : Overlays places t t') (room : t.HasRoom places)
    {l : Location} {e : Entry} (found : t.find? l = some e) (other : e.isRegular = false) :
    t'.find? l = some e := by
  rcases overlays.cases room l with same | ⟨-, -, absent | ⟨bytes, file⟩⟩
  · rw [same, found]
  · rw [found] at absent
    cases absent
  · rw [found] at file
    cases file
    cases other

theorem walk_of_file {l : Location} {bytes : List UInt8} (file : t.find? l = some (.file bytes))
    (follow : Bool) (links : Nat) (name : String) (rest : List String) :
    t.walk follow links l (name :: rest) = .error .notADirectory := by
  rw [Tree.walk, file]

theorem walk_of_missing {l : Location} (missing : t.find? l = none) (follow : Bool) (links : Nat)
    (name : String) (rest : List String) :
    t.walk follow links l (name :: rest) = .error .missing := by
  rw [Tree.walk, missing]

/-- A walk that stops at a location without a directory stops there in both trees. -/
theorem agrees_of_no_directory (overlays : Overlays places t t') (room : t.HasRoom places)
    {l : Location} (stop : ∀ e, t.find? l = some e → e.isRegular = true) (follow : Bool)
    (links : Nat) (name : String) (rest : List String) :
    Agrees places (t.walk follow links l (name :: rest))
      (t'.walk follow links l (name :: rest)) := by
  have stopped : ∀ u : Tree, (u.find? l = none ∨ ∃ bytes, u.find? l = some (.file bytes)) →
      ∃ o, u.walk follow links l (name :: rest) = .error o := by
    rintro u (missing | ⟨bytes, file⟩)
    · exact ⟨_, walk_of_missing missing follow links name rest⟩
    · exact ⟨_, walk_of_file file follow links name rest⟩
  have here : t.find? l = none ∨ ∃ bytes, t.find? l = some (.file bytes) := by
    cases found : t.find? l with
    | none => exact .inl rfl
    | some e =>
      have regular := stop e found
      cases e with
      | file bytes => exact .inr ⟨bytes, rfl⟩
      | directory | link | device => cases regular
  have there : t'.find? l = none ∨ ∃ bytes, t'.find? l = some (.file bytes) := by
    rcases overlays.cases room l with same | ⟨-, written, -⟩
    · rw [same]
      exact here
    · exact .inr written
  obtain ⟨o, stops⟩ := stopped t here
  obtain ⟨o', stops'⟩ := stopped t' there
  rw [stops, stops']
  trivial

/-- The end of a walk. -/
theorem agrees_at_end (overlays : Overlays places t t') (room : t.HasRoom places) (l : Location) :
    Agrees places
      (.ok (match t.find? l with | some e => .entry l e | none => .free l))
      (.ok (match t'.find? l with | some e => .entry l e | none => .free l)) := by
  rcases overlays.cases room l with same | ⟨listed, ⟨bytes', written⟩, missing | ⟨bytes, file⟩⟩
  · rw [same]
    exact Agrees.refl _
  · rw [written, missing]
    exact .inr ⟨listed, bytes', rfl⟩
  · rw [written, file]
    exact .inr ⟨listed, bytes', rfl⟩

/-- A walk from a directory to a name in it. -/
theorem walk_of_directory {l : Location} {name : String} (directory : t.find? l = some .directory)
    (down : name ≠ "..") (fits : ¬maxName < name.utf8ByteSize) (follow : Bool) (links : Nat)
    (rest : List String) :
    t.walk follow links l (name :: rest) =
      match t.find? (l ++ [name]) with
      | none => if rest.isEmpty then .ok (.free (l ++ [name])) else .error .missing
      | some (.link target) =>
        if rest.isEmpty && !follow then .ok (.entry (l ++ [name]) (.link target))
        else
          match links with
          | 0 => .error .tooManyLinks
          | links + 1 =>
            t.walk follow links (if (Path.ofString target).root = .current then l else [])
              ((Path.ofString target).names ++ rest)
      | some e =>
        if rest.isEmpty then .ok (.entry (l ++ [name]) e)
        else t.walk follow links (l ++ [name]) rest := by
  rw [Tree.walk, directory]
  exact (if_neg down).trans (if_neg fits)

/-- A walk from a directory to the last name in it, where there is no link. -/
theorem walk_of_last {l : Location} {name : String} (directory : t.find? l = some .directory)
    (down : name ≠ "..") (fits : ¬maxName < name.utf8ByteSize)
    (straight : ∀ target, t.find? (l ++ [name]) ≠ some (.link target)) (follow : Bool)
    (links : Nat) :
    t.walk follow links l [name] = .ok (match t.find? (l ++ [name]) with
      | some e => .entry (l ++ [name]) e
      | none => .free (l ++ [name])) := by
  rw [walk_of_directory directory down fits]
  cases found : t.find? (l ++ [name]) with
  | none => rfl
  | some e =>
    cases e with
    | link target => exact absurd found (straight target)
    | file | directory | device => rfl

/-- A walk from a directory through a name in it, where there is something other than a link. -/
theorem walk_of_entry {l : Location} {name : String} {e : Entry}
    (directory : t.find? l = some .directory) (down : name ≠ "..")
    (fits : ¬maxName < name.utf8ByteSize) (found : t.find? (l ++ [name]) = some e)
    (straight : ∀ target, e ≠ .link target) (follow : Bool) (links : Nat) {rest : List String}
    (more : rest ≠ []) :
    t.walk follow links l (name :: rest) = t.walk follow links (l ++ [name]) rest := by
  have nonempty : rest.isEmpty = false := by simpa using more
  rw [walk_of_directory directory down fits, found]
  cases e with
  | link target => exact absurd rfl (straight target)
  | file | directory | device => simp only [nonempty, Bool.false_eq_true, if_false]

theorem Overlays.straight (overlays : Overlays places t t') (room : t.HasRoom places) {l : Location}
    (straight : ∀ target, t.find? l ≠ some (.link target)) (target : String) :
    t'.find? l ≠ some (.link target) := by
  rcases overlays.cases room l with same | ⟨-, ⟨bytes, written⟩, -⟩
  · rw [same]
    exact straight target
  · rw [written]
    simp

/-- **A walk goes the same way in both trees.** -/
theorem walk_of_overlays (overlays : Overlays places t t') (room : t.HasRoom places)
    (follow : Bool) (links : Nat) (place : Location) (names : List String) :
    Agrees places (t.walk follow links place names) (t'.walk follow links place names) := by
  fun_induction Tree.walk t follow links place names with
  | case1 links place =>
    rw [Tree.walk]
    exact agrees_at_end overlays room place
  | case2 links place name rest missing =>
    have stop : ∀ e, t.find? place = some e → e.isRegular = true := by simp [missing]
    have h := agrees_of_no_directory overlays room stop follow links name rest
    rwa [walk_of_missing missing] at h
  | case3 links place rest directory ih =>
    rw [Tree.walk, overlays.find?_of_not_regular room directory rfl]
    simpa using ih
  | case4 links place name rest directory down long =>
    rw [Tree.walk, overlays.find?_of_not_regular room directory rfl]
    simp only [down, long, if_true, if_false]
    trivial
  | case5 links place name rest directory down fits child missing last =>
    obtain rfl : rest = [] := by simpa using last
    have directory' := overlays.find?_of_not_regular room directory rfl
    rw [walk_of_last directory' down fits (overlays.straight room (by simp [child, missing]))]
    have h := agrees_at_end overlays room child
    rwa [missing] at h
  | case6 links place name rest directory down fits child missing more =>
    have directory' := overlays.find?_of_not_regular room directory rfl
    obtain ⟨next, rest, rfl⟩ := List.exists_cons_of_ne_nil (by simpa using more : rest ≠ [])
    rcases overlays.cases room child with same | ⟨-, ⟨bytes, written⟩, -⟩
    · rw [walk_of_directory directory' down fits, same, missing]
      trivial
    · rw [walk_of_entry directory' down fits written (by simp) follow links (by simp),
        walk_of_file written]
      trivial
  | case7 links place name rest directory down fits child target link stays =>
    have link' := overlays.find?_of_not_regular room link rfl
    rw [walk_of_directory (overlays.find?_of_not_regular room directory rfl) down fits, link']
    simp only [stays, if_true]
    exact Agrees.refl _
  | case8 place name rest directory down fits child target link goes =>
    have link' := overlays.find?_of_not_regular room link rfl
    rw [walk_of_directory (overlays.find?_of_not_regular room directory rfl) down fits, link']
    simp only [goes]
    trivial
  | case9 place name rest directory down fits child target link goes links path start ih =>
    have link' := overlays.find?_of_not_regular room link rfl
    rw [walk_of_directory (overlays.find?_of_not_regular room directory rfl) down fits, link']
    simp only [goes]
    exact ih
  | case10 links place name rest directory down fits child e straight found last =>
    obtain rfl : rest = [] := by simpa using last
    have directory' := overlays.find?_of_not_regular room directory rfl
    have noLink : ∀ target, t.find? child ≠ some (.link target) := by
      rintro target link
      rw [found] at link
      cases link
      exact straight target rfl
    rw [walk_of_last directory' down fits (overlays.straight room noLink)]
    have h := agrees_at_end overlays room child
    rwa [found] at h
  | case11 links place name rest directory down fits child e straight found more ih =>
    have directory' := overlays.find?_of_not_regular room directory rfl
    have more' : rest ≠ [] := by simpa using more
    rcases overlays.cases room child with same | ⟨-, ⟨bytes, written⟩, -⟩
    · rw [walk_of_entry directory' down fits (same.trans found) straight follow links more']
      exact ih
    · rw [walk_of_entry directory' down fits written (by simp) follow links more']
      exact ih
  | case12 links place name rest e other found =>
    cases e with
    | directory => exact absurd rfl other
    | file bytes =>
      have stop : ∀ e, t.find? place = some e → e.isRegular = true := by
        simp [found, Entry.isRegular]
      have h := agrees_of_no_directory overlays room stop follow links name rest
      rwa [walk_of_file found] at h
    | link | device =>
      rw [Tree.walk, overlays.find?_of_not_regular room found rfl]
      trivial

theorem resolve_of_overlays (overlays : Overlays places t t') (room : t.HasRoom places)
    (follow : Bool) (p : Path) : Agrees places (t.resolve follow p) (t'.resolve follow p) := by
  unfold resolve
  split
  · trivial
  · rw [overlays.current]
    exact walk_of_overlays overlays room follow maxLinks _ _

/-- Whether a path leads to one of some locations. -/
def LeadsTo (t : Tree) (places : List Location) (p : Path) : Prop :=
  ∃ a, t.resolve true p = .ok a ∧ a.place ∈ places

/-- A file that is at none of the locations is read with the same bytes in both trees, and one that
cannot be read in one of them cannot be read in the other. -/
theorem read_of_overlays (overlays : Overlays places t t') (room : t.HasRoom places) {p : Path}
    (away : ¬t.LeadsTo places p) :
    (∃ bytes, t.read p = .ok bytes ∧ t'.read p = .ok bytes) ∨
      (∃ r, t.read p = .error r) ∧ ∃ r, t'.read p = .error r := by
  have agrees := resolve_of_overlays overlays room true p
  unfold read
  cases arrival : t.resolve true p with
  | error o =>
    cases arrival' : t'.resolve true p with
    | error o' => exact .inr ⟨⟨_, rfl⟩, _, rfl⟩
    | ok a' =>
      rw [arrival, arrival'] at agrees
      cases agrees
  | ok a =>
    have same : t'.resolve true p = .ok a := by
      cases arrival' : t'.resolve true p with
      | error o' =>
        rw [arrival, arrival'] at agrees
        cases agrees
      | ok a' =>
        rw [arrival, arrival'] at agrees
        rcases agrees with rfl | ⟨listed, -⟩
        · rfl
        · exact absurd ⟨a, arrival, listed⟩ away
    rw [same]
    rcases a with ⟨place, e⟩ | place
    · cases e with
      | file bytes => exact .inl ⟨bytes, rfl, rfl⟩
      | device d => exact .inl ⟨[], rfl, rfl⟩
      | directory | link => exact .inr ⟨⟨_, rfl⟩, _, rfl⟩
    · exact .inr ⟨⟨_, rfl⟩, _, rfl⟩

end Tree
end MachineDescriptor.Files
