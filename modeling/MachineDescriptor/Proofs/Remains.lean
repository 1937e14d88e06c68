import MachineDescriptor.Proofs.Saving

/-!
What remains of a document that was begun in a file and could not be finished. The file is opened
through every link of its path and removed without following the last one. A path that ends in no
link therefore leads to nothing afterwards; one that ends in a link loses the link, and the file
behind it keeps the beginning of the document.
-/
namespace MachineDescriptor

namespace Files.Tree

variable {t t' : Tree} {places : List Location} {place : Location} {p : Path}

/-- A walk that arrives through every link arrives at the same place, or at a link at its end, when
it does not follow that. -/
theorem walk_not_following {links : Nat} {names : List String} {a : Arrival}
    (arrives : t.walk true links place names = .ok a) :
    t.walk false links place names = .ok a ∨
      ∃ l target, t.walk false links place names = .ok (.entry l (.link target)) := by
  fun_induction Tree.walk t true links place names with
  | case1 links place =>
    left
    rw [Tree.walk]
    exact arrives
  | case3 links place rest directory ih =>
    rw [Tree.walk, directory]
    simpa using ih arrives
  | case5 links place name rest directory down fits child missing last =>
    left
    rw [walk_of_directory directory down fits, missing]
    simp only [last, if_true]
    exact arrives
  | case7 links place name rest directory down fits child target link stays => simp at stays
  | case9 place name rest directory down fits child target link goes links path start ih =>
    rw [walk_of_directory directory down fits, link]
    cases last : rest.isEmpty with
    | true => exact .inr ⟨child, target, by simp [child]⟩
    | false =>
      simp only [Bool.false_and, Bool.false_eq_true, if_false]
      exact ih arrives
  | case10 links place name rest directory down fits child e other found last =>
    left
    obtain rfl : rest = [] := by simpa using last
    have noLink : ∀ target, t.find? child ≠ some (.link target) := by
      rintro target link
      rw [found] at link
      cases link
      exact other target rfl
    rw [walk_of_last directory down fits noLink, found]
    exact arrives
  | case11 links place name rest directory down fits child e other found more ih =>
    rw [walk_of_entry directory down fits found other false links (by simpa using more)]
    exact ih arrives
  | case2 | case4 | case6 | case8 | case12 => cases arrives

theorem resolve_not_following {a : Arrival} (arrives : t.resolve true p = .ok a) :
    t.resolve false p = .ok a ∨ ∃ l target, t.resolve false p = .ok (.entry l (.link target)) := by
  unfold resolve at arrives ⊢
  split at arrives
  · cases arrives
  · next fits =>
    rw [if_neg fits]
    exact walk_not_following arrives

/-- A path that can be opened ends in no link, or in one that is followed. -/
theorem Opens.admits_or_link (opens : t.Opens p place) :
    t.Admits p place ∨ ∃ l target, t.resolve false p = .ok (.entry l (.link target)) := by
  rcases opens.arrives with free | ⟨bytes, file⟩
  · exact (resolve_not_following free).imp_left fun free => ⟨opens.clear, .inl free⟩
  · exact (resolve_not_following file).imp_left fun file => ⟨opens.clear, .inr ⟨bytes, file⟩⟩

/-- A link is removed, whatever was written elsewhere. -/
theorem remove_link {link : Location} {target : String}
    (ends : t.resolve false p = .ok (.entry link (.link target)))
    (overlays : t.Overlays places t') (room : t.HasRoom places) (allowed : t.mayRemove = true) :
    link ∉ places ∧ t'.remove p = .ok (t'.erase link) := by
  have apart : link ∉ places := fun listed => by
    cases room link listed _ (find?_of_resolve ends)
  rw [remove, overlays.mayRemove, allowed, Bool.not_true, if_neg Bool.false_ne_true,
    resolve_of_apart overlays room ends apart]
  exact ⟨apart, rfl⟩

end Files.Tree

namespace Document

open Xml

variable {base : Files.Tree} {files : List Files.Location} {place : Files.Location}
  {letters : Text.Letters}

/-! ## What is on paper -/

/-- Whether a text begins with the declaration. -/
def IsBegun (t : String) : Prop := ∃ more, t = declaration ++ more

theorem declaration_clean : letters.fault? declaration.toList = none := by
  have before : (declaration.toList.all fun c => decide (c.toNat < 0xf0000)) = true := by decide
  refine Text.Letters.fault?_eq_none_iff.mpr fun c listed => ?_
  exact Text.Letters.code?_of_lt (of_decide_eq_true (List.all_eq_true.mp before c listed))

section

variable {κ : Type} [Stream (κ × Files.Tree)] {paper : κ × Files.Tree → String → Prop}

/-- A document that is begun stays begun whatever the work on it comes to. -/
theorem begun_bides (encodes : Encodes letters paper) (path : Option String) :
    Bides (Desk.Shows paper IsBegun) (fun f d => Desk.Shows paper IsBegun d ∧ f.IsPlain .writer)
      path := by
  refine Encodes.bides encodes ?_ path
  rintro _ u ⟨more, rfl⟩
  exact ⟨more ++ u, String.append_assoc⟩

/-- A document that is written in whole or in part has its declaration on paper. -/
theorem write_begun (indent : String) (path : Option String) (encodes : Encodes letters paper)
    (o : Order) {d : Desk κ} (held : Desk.Holds paper d "") :
    Leaves (Desk.Shows paper IsBegun)
      (fun f d => Desk.Shows paper IsBegun d ∧ f.IsPlain .writer) path
      (write o (Writer.fresh d indent path)) := by
  obtain ⟨d₁, put, held₁⟩ := (Desk.encodes encodes).write held declaration declaration_clean
  have started : startDocument (Writer.fresh d indent path) =
      .ok () { Writer.fresh d₁ indent path with started := true } := by
    have step : startDocument (Writer.fresh d indent path) =
        onStream .startDocument (Stream.write declaration)
          { Writer.fresh d indent path with started := true } := rfl
    rw [step, onStream]
    simp only [Writer.fresh, put]
  rw [write_eq, bind_of_ok started]
  exact afterDeclaration_keeps (begun_bides encodes path) o _ rfl ⟨_, held₁, "", rfl⟩

end

/-! ## What is in the file -/

/-- Whatever comes of a document on an open file, the declaration is on paper when it is closed. -/
theorem filed_begun {paper : Files.Handle × Files.Tree → String → Prop}
    {done : Desk Files.Handle → String → Prop} (encodes : Encodes letters paper)
    (closes : Closes paper done) (o : Order) (path : Files.Path) {d : Desk Files.Handle}
    (held : Desk.Holds paper d "") :
    (∃ more, done (filed o path d).2 (declaration ++ more)) ∧
      ∀ f, (filed o path d).1 = .error f → f.IsPlain .writer := by
  have left := write_begun defaultIndent (some path.toString) encodes o held
  unfold filed outcomeOf
  rw [Writer.onFile]
  cases result : write o (Writer.fresh d defaultIndent (some path.toString)) with
  | ok x w =>
    rw [result] at left
    obtain ⟨⟨_, held', more, rfl⟩, kept⟩ := left
    obtain ⟨d', closed, finished⟩ := closes (by rw [kept]; rfl) held'
    rw [closing_of_ok result closed]
    exact ⟨⟨more, finished⟩, by rintro f ⟨⟩⟩
  | error e w =>
    rw [result] at left
    obtain ⟨⟨⟨_, held', more, rfl⟩, plain⟩, kept⟩ := left
    obtain ⟨d', closed, finished⟩ := closes (by rw [kept]; rfl) held'
    rw [closing_of_error result closed]
    refine ⟨⟨more, finished⟩, ?_⟩
    rintro f ⟨⟩
    exact plain

/-- Where a path ends in a link, the link is removed in place of the file behind it. -/
theorem removeBegun_of_link {path : Files.Path} {link : Files.Location} {target : String}
    (opens : base.Opens path place)
    (ends : base.resolve false path = .ok (.entry link (.link target)))
    (room : base.HasRoom (place :: files)) (allowed : base.mayRemove = true)
    (speaker : Log.Speaker) {d : Desk Files.Handle} {t : String}
    (finished : Finished base files place letters d t) :
    link ∉ place :: files ∧
      removeBegun speaker path (d.journal, d.tree) = (d.journal, d.tree.erase link) := by
  obtain ⟨apart, removed⟩ := Files.Tree.remove_link ends finished.overlays room allowed
  have isFile := opens.isFile_written finished.overlays room finished.file
  refine ⟨apart, ?_⟩
  unfold removeBegun
  simp only [isFile, removed]

/-! ## Saving -/

/-- **A file that was begun and could not be finished is removed, unless a link leads to it.** If
one does, then the link is gone, and the file has got the declaration and what came after it. Other
files are as they were, but for the journal's own. -/
theorem save_of_failed {o : Order} {tree : Files.Tree} {journal : Log.Journal} {path : Files.Path}
    {f : Failure} (opens : tree.Opens path place) (apart : place ∉ journal.files)
    (logs : tree.HasRoom journal.files) (allowed : tree.mayRemove = true)
    (failed : (save o path (journal, tree)).1 = .error f) :
    (tree.Admits path place ∧
      (save o path (journal, tree)).2.2.find? place = none ∧
      ∀ l, l ≠ place → l ∉ journal.files →
        (save o path (journal, tree)).2.2.find? l = tree.find? l) ∨
    ∃ link target more, tree.resolve false path = .ok (.entry link (.link target)) ∧
      (save o path (journal, tree)).2.2.find? link = none ∧
      (save o path (journal, tree)).2.2.find? place =
        some (.file (Text.Utf8.encode (declaration ++ more).toList)) ∧
      ∀ l, l ≠ link → l ≠ place → l ∉ journal.files →
        (save o path (journal, tree)).2.2.find? l = tree.find? l := by
  have room := opens.hasRoom logs
  have root : place ≠ [] := room.ne_nil List.mem_cons_self
  obtain ⟨d, opened, held⟩ := openedAt_of_opens (o := o) opens apart room
  obtain ⟨⟨more, finished⟩, -⟩ :=
    filed_begun (OnFile.encodes root) (close_finishes root) o path held
  rw [save_of_opened opened] at failed ⊢
  cases outcome : (filed o path d).1 with
  | ok x =>
    rw [outcome] at failed
    cases failed
  | error e =>
    rcases opens.admits_or_link with admits | ⟨link, target, ends⟩
    · obtain ⟨gone, elsewhere⟩ := removeBegun_of_finished admits room o.speaker finished
      exact .inl ⟨admits, gone allowed, elsewhere⟩
    · obtain ⟨apart', removed⟩ :=
        removeBegun_of_link opens ends room allowed o.speaker finished
      obtain ⟨differs, unlisted⟩ : link ≠ place ∧ link ∉ journal.files :=
        not_or.mp (mt List.mem_cons.mpr apart')
      have nonempty : link ≠ [] := by
        rintro rfl
        cases Files.Tree.find?_of_resolve ends
      refine .inr ⟨link, target, more, ends, ?_⟩
      simp only [removed]
      refine ⟨Files.Tree.find?_erase_self _ nonempty, ?_, fun l other away unlisted => ?_⟩
      · rw [Files.Tree.find?_erase_of_ne _ differs.symm, finished.file]
      · rw [Files.Tree.find?_erase_of_ne _ other]
        exact elsewhere_of_overlays finished.overlays l away unlisted

/-- A tree with a link to a file beside it, and the path of the link. -/
def linkTree : Files.Tree where
  entries := [(["l.xml"], .link "t.xml"), (["t.xml"], .file [0x6f, 0x6c, 0x64])]
  current := []
  mayRemove := true

def linkPath : Files.Path := ⟨.current, ["l.xml"]⟩

/-- An order of a program that may not stand in the banner. -/
def refusedOrder : Order :=
  { smallOrder with
    machine := { smallOrder.machine with interfaces := none }
    program := "bad--name" }

theorem linkTree_resolve (follow : Bool) : linkTree.resolve follow linkPath =
    .ok (if follow then .entry ["t.xml"] (.file [0x6f, 0x6c, 0x64])
      else .entry ["l.xml"] (.link "t.xml")) := by
  have short : ¬Files.Tree.maxPath < linkPath.toString.utf8ByteSize := by decide
  have target : Files.Path.ofString "t.xml" = ⟨.current, ["t.xml"]⟩ := rfl
  rw [Files.Tree.resolve, if_neg short, linkPath,
    Files.Tree.walk_of_directory rfl (by decide) (by decide)]
  cases follow with
  | false => rfl
  | true =>
    simp only [Files.Tree.maxLinks]
    exact Files.Tree.walk_of_last rfl (by decide) (by decide) (by rintro target ⟨⟩) true _

theorem linkTree_opens : linkTree.Opens linkPath ["t.xml"] where
  clear := by decide
  arrives := .inr ⟨_, linkTree_resolve true⟩

theorem linkTree_hasRoom : linkTree.HasRoom smallJournal.files := by
  intro l listed
  cases listed

theorem save_refusedOrder :
    (save refusedOrder linkPath (smallJournal, linkTree)).1 =
      .error (.report (bannerReport (some "l.xml"))) := by
  have room := linkTree_opens.hasRoom linkTree_hasRoom
  obtain ⟨d, opened, held⟩ := openedAt_of_opens (o := refusedOrder) linkTree_opens
    List.not_mem_nil room
  have logs := refusedOrder.undisturbed_fresh linkTree ⟨1, 0, "physical_xml", 1, false, false⟩
  have sees : Sees (OnFile linkTree smallJournal.files ["t.xml"] refusedOrder.letters) refusedOrder
      (refusedOrder.found linkTree) := by
    intro i listed
    cases listed
  obtain ⟨t, -, clean, -⟩ := filed_transcribes (OnFile.encodes (by decide))
    (close_finishes (by decide)) linkPath logs sees held
  have refused : hasDoubleHyphen refusedOrder.program.toList = true := by decide
  have failed : (render refusedOrder linkTree smallJournal).1 =
      .error (.report (bannerReport none)) := by
    rw [smallJournal, render_outcome logs, Order.outcome, refused, if_pos rfl]
  have told := (clean (Text.Letters.fault?_plain _)).2 _ failed
  have spelled : linkPath.toString = "l.xml" := rfl
  rw [save_of_opened opened, told, spelled]
  rfl

/-- The file behind the link begins with the declaration of a document that was refused. -/
theorem save_throughLink :
    ∃ more, (save refusedOrder linkPath (smallJournal, linkTree)).2.2.find? ["t.xml"] =
      some (.file (Text.Utf8.encode (declaration ++ more).toList)) := by
  rcases save_of_failed linkTree_opens List.not_mem_nil linkTree_hasRoom rfl save_refusedOrder
    with ⟨admits, -⟩ | ⟨link, target, more, -, -, remains, -⟩
  · rcases admits.arrives with free | ⟨bytes, file⟩
    · rw [linkTree_resolve] at free
      simp at free
    · rw [linkTree_resolve] at file
      simp at file
  · exact ⟨more, remains⟩

end Document
end MachineDescriptor
