import MachineDescriptor.Command.Call
import MachineDescriptor.Proofs.Courses

/-!
How a call ends. The exit code tells what the configuration and the writer came to, and with every
code but zero there is neither a document on the standard output nor a part of one in a file. Only a
summary that cannot be shown leaves a whole document behind an exit code that is not zero.
-/
namespace MachineDescriptor.Command

open Document (Saved Stands render save)
open Log (Journal)

variable {scene : Scene} {r : Request} {letters : Text.Letters} {tree : Files.Tree}

/-! ## Documents and reports -/

/-- Whether a text is the document of a request, rendered from what it loads. -/
def Request.IsDocument (r : Request) (scene : Scene) (letters : Text.Letters) (p : Journal.Placed)
    (text : String) : Prop :=
  ∃ m ports, r.loaded letters p.2 = .ok (m, ports) ∧
    (render (order scene r m ports letters) p.2 p.1).1 = .ok text

/-- What becomes of a document about a machine where a request sends it. -/
def Request.written (r : Request) (scene : Scene) (letters : Text.Letters) (m : Machine)
    (ports : List Int) (p : Journal.Placed) : Except Failure String :=
  match r.destination with
  | .standardOutput => (render (order scene r m ports letters) p.2 p.1).1
  | .file path => (save (order scene r m ports letters) (Files.Path.ofString path) p).1

/-- Whether a text has got to where a request sends its document. -/
def Request.Gets (r : Request) (letters : Text.Letters) (tree : Files.Tree) (text : String)
    (s : State) : Prop :=
  match r.destination with
  | .standardOutput => s.output = text
  | .file path => Stands tree (Files.Path.ofString path) letters text s.placed.2

/-- Whether the whole document of a request has got to where it is sent. -/
def Request.Received (r : Request) (scene : Scene) (letters : Text.Letters) (p : Journal.Placed)
    (s : State) : Prop :=
  ∃ text, r.IsDocument scene letters p text ∧ r.Gets letters p.2 text s

/-- Whether the summary of a document in a file can be shown where one is asked for. -/
def Request.Shows (r : Request) (scene : Scene) (letters : Text.Letters) (tree : Files.Tree) :
    Prop :=
  ∀ path m ports, scene.terminal = true → r.destination = .file path →
    r.loaded letters tree = .ok (m, ports) →
    ∃ text, panel (order scene r m ports letters) (Files.Path.ofString path).toString = .ok text

/-- Where its configuration is loaded, the document of a request is told by what was loaded. -/
theorem isDocument_of_loaded {journal : Journal} (unlogged : journal.files = []) {m : Machine}
    {ports : List Int} {text : String} (loaded : r.loaded letters tree = .ok (m, ports)) :
    r.IsDocument scene letters (journal, tree) text ↔ (order scene r m ports letters).outcome none
      ((order scene r m ports letters).found tree) = .ok text := by
  rw [← Document.render_of_no_files _ tree unlogged]
  refine ⟨?_, fun rendered => ⟨m, ports, loaded, rendered⟩⟩
  rintro ⟨m', ports', loaded', rendered⟩
  obtain ⟨rfl, rfl⟩ := Prod.mk.inj (Except.ok.inj (loaded.symm.trans loaded'))
  exact rendered

theorem not_received_of_unloaded {journal : Journal} {s : State} {f : Failure}
    (failed : r.loaded letters tree = .error f) : ¬r.Received scene letters (journal, tree) s := by
  rintro ⟨text, ⟨m, ports, loaded, -⟩, -⟩
  cases failed.symm.trans loaded

/-- Whether the configuration of a request is loaded and its document comes to something. -/
def Request.Comes (r : Request) (scene : Scene) (letters : Text.Letters) (p : Journal.Placed)
    (post : Except Failure String → Prop) : Prop :=
  ∃ m ports, r.loaded letters p.2 = .ok (m, ports) ∧ post (r.written scene letters m ports p)

/-- Whether the writer gets the document of a request to its end. -/
def Request.IsWritten (r : Request) (scene : Scene) (letters : Text.Letters)
    (p : Journal.Placed) : Prop :=
  r.Comes scene letters p fun result => ∃ answer, result = .ok answer

/-- Whether the writer reports something about the document of a request. -/
def Request.IsReported (r : Request) (scene : Scene) (letters : Text.Letters)
    (p : Journal.Placed) : Prop :=
  r.Comes scene letters p fun result => ∃ report, result = .error (.report report)

theorem comes_of_loaded {journal : Journal} {m : Machine} {ports : List Int}
    {post : Except Failure String → Prop} (loaded : r.loaded letters tree = .ok (m, ports)) :
    r.Comes scene letters (journal, tree) post ↔
      post (r.written scene letters m ports (journal, tree)) := by
  refine ⟨?_, fun holds => ⟨m, ports, loaded, holds⟩⟩
  rintro ⟨m', ports', loaded', holds⟩
  replace loaded' : r.loaded letters tree = .ok (m', ports') := loaded'
  rw [loaded] at loaded'
  obtain ⟨rfl, rfl⟩ := Prod.mk.inj (Except.ok.inj loaded')
  exact holds

theorem not_comes_of_unloaded {journal : Journal} {f : Failure}
    {post : Except Failure String → Prop} (failed : r.loaded letters tree = .error f) :
    ¬r.Comes scene letters (journal, tree) post := by
  rintro ⟨m, ports, loaded, -⟩
  cases failed.symm.trans loaded

theorem written_here {journal : Journal} {m : Machine} {ports : List Int}
    {result : Except Failure String} (here : r.destination = .standardOutput)
    (rendered : (render (order scene r m ports letters) tree journal).1 = result) :
    r.written scene letters m ports (journal, tree) = result := by
  unfold Request.written
  rw [rendered, here]

/-- On the standard output a document comes to its outcome. -/
theorem comes_here {journal : Journal} (unlogged : journal.files = []) {m : Machine}
    {ports : List Int} {post : Except Failure String → Prop}
    (loaded : r.loaded letters tree = .ok (m, ports)) (here : r.destination = .standardOutput) :
    r.Comes scene letters (journal, tree) post ↔ post ((order scene r m ports letters).outcome none
      ((order scene r m ports letters).found tree)) := by
  rw [comes_of_loaded loaded, written_here here (Document.render_of_no_files _ tree unlogged)]

/-- In a file a document comes to what saving it comes to. -/
theorem comes_there {journal : Journal} (unlogged : journal.files = []) {m : Machine}
    {ports : List Int} {path : String} {post : Except Failure String → Prop}
    (loaded : r.loaded letters tree = .ok (m, ports)) (there : r.destination = .file path)
    {result : Except Failure String × Journal.Placed}
    (left : Saved (order scene r m ports letters) (Files.Path.ofString path) tree result) :
    r.Comes scene letters (journal, tree) post ↔ post result.1 := by
  have written : r.written scene letters m ports (journal, tree) = result.1 := by
    unfold Request.written
    rw [there]
    exact left.same journal unlogged
  rw [comes_of_loaded loaded, written]

/-- The exit code for a failure is that of its report, or one. -/
theorem exitCode_of_isPlain {kind : Report.Kind} {f : Failure} (plain : f.IsPlain kind) :
    (∃ report, f = .report report ∧ report.kind = kind ∧ f.exitCode = kind.ownCode.toNat) ∨
      ∃ g, f = .fault g ∧ f.exitCode = 1 := by
  cases f with
  | report report => exact .inl ⟨report, rfl, plain.sort, plain.code⟩
  | fault g => exact .inr ⟨g, rfl, rfl⟩

theorem exitCode_of_config {f : Failure} (plain : f.IsPlain .config) :
    f.exitCode = 2 ∨ f.exitCode = 1 := by
  rcases exitCode_of_isPlain plain with ⟨report, -, -, own⟩ | ⟨g, -, one⟩
  · exact .inl own
  · exact .inr one

theorem exitCode_of_writer {f : Failure} (plain : f.IsPlain .writer) :
    f.exitCode = 3 ∨ f.exitCode = 1 := by
  rcases exitCode_of_isPlain plain with ⟨report, -, -, own⟩ | ⟨g, -, one⟩
  · exact .inl own
  · exact .inr one

/-- A failure at the writer has the exit code of the writer where it is a report. -/
theorem exitCode_eq_three_iff {f : Failure} (plain : f.IsPlain .writer) :
    f.exitCode = 3 ↔ ∃ report, f = .report report := by
  rcases exitCode_of_isPlain plain with ⟨report, rfl, -, own⟩ | ⟨g, rfl, one⟩
  · exact iff_of_true own ⟨report, rfl⟩
  · rw [one]
    exact iff_of_false (by decide) nofun

namespace Course

variable {code : Nat} {s : State} {journal : Journal}

/-- A run that loaded its configuration does not end with the exit code of the configuration. -/
theorem code_ne_two {m : Machine} {ports : List Int} (course : Course scene r letters tree code s)
    (loaded : r.loaded letters tree = .ok (m, ports)) : code ≠ 2 := by
  cases course with
  | unread failed plain same silent =>
    rw [loaded] at failed
    cases failed
  | printed | saved | unshown => decide
  | unprinted _ here outcome plain same silent =>
    have codes := exitCode_of_writer plain
    omega
  | unsaved _ there left same silent =>
    have codes := exitCode_of_writer (left.plain _ rfl)
    omega

/-- The exit code is two where the configuration is reported, and only there. -/
theorem code_eq_two_iff (course : Course scene r letters tree code s) :
    code = 2 ↔ ∃ report, r.loaded letters tree = .error (.report report) ∧ report.kind = .config := by
  cases loading : r.loaded letters tree with
  | ok p =>
    exact ⟨fun two => absurd two (course.code_ne_two loading), by rintro ⟨report, ⟨⟩, -⟩⟩
  | error f =>
    cases course with
    | unread failed plain same silent =>
      obtain rfl := Except.error.inj (loading.symm.trans failed)
      rcases exitCode_of_isPlain plain with ⟨report, rfl, kind, two⟩ | ⟨g, rfl, one⟩
      · exact ⟨fun _ => ⟨report, rfl, kind⟩, fun _ => two⟩
      · rw [one]
        exact ⟨nofun, by rintro ⟨report, ⟨⟩, -⟩⟩
    | printed loaded | unprinted loaded | saved loaded | unshown loaded | unsaved loaded =>
      rw [loading] at loaded
      cases loaded

/-- A run that does not load its configuration leaves everything as it is. -/
theorem untouched (course : Course scene r letters tree code s) (two : code = 2) :
    s.placed.2 = tree ∧ s.output = "" := by
  obtain ⟨report, failed, -⟩ := course.code_eq_two_iff.mp two
  cases course with
  | unread _ plain same silent => exact ⟨same, silent⟩
  | printed loaded | unprinted loaded | saved loaded | unshown loaded | unsaved loaded =>
    rw [failed] at loaded
    cases loaded

/-- The exit code is three where the writer reports, and only there. -/
theorem code_eq_three_iff (course : Course scene r letters tree code s)
    (unlogged : journal.files = []) :
    code = 3 ↔ r.IsReported scene letters (journal, tree) := by
  cases course with
  | unread failed plain same silent =>
    have codes := exitCode_of_config plain
    exact iff_of_false (by omega) (not_comes_of_unloaded failed)
  | printed loaded here outcome same output =>
    rw [Request.IsReported, comes_here unlogged loaded here, outcome]
    exact ⟨nofun, nofun⟩
  | unprinted loaded here outcome plain same silent =>
    rw [Request.IsReported, comes_here unlogged loaded here, outcome, exitCode_eq_three_iff plain]
    simp only [Except.error.injEq]
  | saved loaded there done same shown =>
    rw [Request.IsReported, comes_there unlogged loaded there done]
    exact ⟨nofun, nofun⟩
  | unshown loaded there done same terminal failed silent =>
    rw [Request.IsReported, comes_there unlogged loaded there done]
    exact ⟨nofun, nofun⟩
  | unsaved loaded there left same silent =>
    rw [Request.IsReported, comes_there unlogged loaded there left,
      exitCode_eq_three_iff (left.plain _ rfl)]
    simp only [Except.error.injEq]

/-- On the standard output, a document is received where it is all that is there. -/
theorem received_here {m : Machine} {ports : List Int} (unlogged : journal.files = [])
    (loaded : r.loaded letters tree = .ok (m, ports)) (here : r.destination = .standardOutput) :
    r.Received scene letters (journal, tree) s ↔ (order scene r m ports letters).outcome none
      ((order scene r m ports letters).found tree) = .ok s.output := by
  simp only [Request.Received, Request.Gets, here, isDocument_of_loaded unlogged loaded,
    exists_eq_right']

/-- In a file, a document is received where saving it did not fail. -/
theorem received_there {m : Machine} {ports : List Int} {path : String}
    {result : Except Failure String × Journal.Placed} (unlogged : journal.files = [])
    (loaded : r.loaded letters tree = .ok (m, ports)) (there : r.destination = .file path)
    (left : Saved (order scene r m ports letters) (Files.Path.ofString path) tree result)
    (same : s.placed.2 = result.2.2) :
    r.Received scene letters (journal, tree) s ↔ ∃ answer, result.1 = .ok answer := by
  rw [left.complete, ← same]
  simp only [Request.Received, Request.Gets, there, isDocument_of_loaded unlogged loaded]
  rfl

theorem shows_there {m : Machine} {ports : List Int} {path : String}
    (loaded : r.loaded letters tree = .ok (m, ports)) (there : r.destination = .file path) :
    r.Shows scene letters tree ↔ (scene.terminal = true → ∃ text,
      panel (order scene r m ports letters) (Files.Path.ofString path).toString = .ok text) := by
  refine ⟨fun shows terminal => shows path m ports terminal there loaded, ?_⟩
  rintro shown path' m' ports' terminal there' loaded'
  rw [there] at there'
  obtain rfl := Destination.file.inj there'
  rw [loaded] at loaded'
  obtain ⟨rfl, rfl⟩ := Prod.mk.inj (Except.ok.inj loaded')
  exact shown terminal

theorem shows_here (here : r.destination = .standardOutput) : r.Shows scene letters tree := by
  intro path m ports _ there
  rw [here] at there
  cases there

/-- The exit code is zero where the document is received and its summary shown, and only there. -/
theorem code_eq_zero_iff (course : Course scene r letters tree code s)
    (unlogged : journal.files = []) :
    code = 0 ↔ r.Received scene letters (journal, tree) s ∧ r.Shows scene letters tree := by
  cases course with
  | unread failed plain same silent =>
    have codes := exitCode_of_config plain
    exact iff_of_false (by omega) fun ⟨received, _⟩ => not_received_of_unloaded failed received
  | printed loaded here outcome same output =>
    rw [received_here unlogged loaded here, output]
    exact ⟨fun _ => ⟨outcome, shows_here here⟩, fun _ => rfl⟩
  | unprinted loaded here outcome plain same silent =>
    rw [received_here unlogged loaded here, outcome]
    have codes := exitCode_of_writer plain
    exact iff_of_false (by omega) (by rintro ⟨⟨⟩, -⟩)
  | saved loaded there done same shown =>
    rw [received_there unlogged loaded there done same, shows_there loaded there]
    exact ⟨fun _ => ⟨⟨_, rfl⟩, shown⟩, fun _ => rfl⟩
  | unshown loaded there done same terminal failed silent =>
    rw [shows_there loaded there, failed]
    refine ⟨nofun, ?_⟩
    rintro ⟨-, shown⟩
    obtain ⟨text, ⟨⟩⟩ := shown terminal
  | unsaved loaded there left same silent =>
    rw [received_there unlogged loaded there left same]
    have codes := exitCode_of_writer (left.plain _ rfl)
    exact iff_of_false (by omega) (by rintro ⟨⟨answer, ⟨⟩⟩, -⟩)

/-- The document is received where the writer got to its end, and only there. -/
theorem received_iff (course : Course scene r letters tree code s)
    (unlogged : journal.files = []) :
    r.Received scene letters (journal, tree) s ↔ r.IsWritten scene letters (journal, tree) := by
  cases course with
  | unread failed =>
    exact iff_of_false (not_received_of_unloaded failed) (not_comes_of_unloaded failed)
  | printed loaded here outcome same output =>
    rw [Request.IsWritten, comes_here unlogged loaded here, received_here unlogged loaded here,
      output]
    exact ⟨fun _ => ⟨_, outcome⟩, fun _ => outcome⟩
  | unprinted loaded here outcome =>
    rw [Request.IsWritten, comes_here unlogged loaded here, received_here unlogged loaded here,
      outcome]
    exact ⟨nofun, nofun⟩
  | saved loaded there left same | unshown loaded there left same
  | unsaved loaded there left same =>
    rw [received_there unlogged loaded there left same, Request.IsWritten,
      comes_there unlogged loaded there left]

/-- A document that is received without its summary has the exit code one. -/
theorem code_eq_one_of_unshown (course : Course scene r letters tree code s)
    (unlogged : journal.files = []) (received : r.Received scene letters (journal, tree) s)
    (unshown : ¬r.Shows scene letters tree) : code = 1 := by
  cases course with
  | unread failed => exact absurd received (not_received_of_unloaded failed)
  | printed _ here => exact absurd (shows_here here) unshown
  | unprinted _ here => exact absurd (shows_here here) unshown
  | saved loaded there done same shown =>
    exact absurd ((shows_there loaded there).mpr shown) unshown
  | unshown => rfl
  | unsaved loaded there left same =>
    rw [received_there unlogged loaded there left same] at received
    obtain ⟨answer, ⟨⟩⟩ := received

theorem code_le (course : Course scene r letters tree code s) : code ≤ 3 := by
  cases course with
  | unread failed plain same silent =>
    have codes := exitCode_of_config plain
    omega
  | unprinted _ here outcome plain same silent =>
    have codes := exitCode_of_writer plain
    omega
  | unsaved _ there left same silent =>
    have codes := exitCode_of_writer (left.plain _ rfl)
    omega
  | printed | saved | unshown => decide

/-- Nothing is on the standard output where the exit code is not zero. -/
theorem silent (course : Course scene r letters tree code s) (failed : code ≠ 0) :
    s.output = "" := by
  cases course with
  | unread _ _ _ silent | unprinted _ _ _ _ _ silent | unshown _ _ _ _ _ _ silent
  | unsaved _ _ _ _ silent => exact silent
  | printed | saved => exact absurd rfl failed

/-- Where the exit code is not zero and no summary is to blame, a file at the destination is as it
was or is gone. -/
theorem cleared (course : Course scene r letters tree code s) (failed : code ≠ 0)
    (shows : r.Shows scene letters tree) {path : String} {place : Files.Location}
    (there : r.destination = .file path) (opens : tree.Opens (Files.Path.ofString path) place) :
    s.placed.2.find? place = tree.find? place ∨ s.placed.2.find? place = none := by
  cases course with
  | unread _ _ same _ => exact .inl (by rw [same])
  | unprinted _ _ _ _ same _ => exact .inl (by rw [same])
  | printed | saved => exact absurd rfl failed
  | unshown loaded there' done same terminal failed' _ =>
    obtain ⟨text, shown⟩ := (shows_there loaded there').mp shows terminal
    rw [shown] at failed'
    cases failed'
  | unsaved loaded there' left same _ =>
    rw [there'] at there
    obtain rfl := Destination.file.inj there
    right
    rw [same]
    exact left.cleared _ rfl place opens

/-- Nothing but the file at the destination is touched. -/
theorem elsewhere (course : Course scene r letters tree code s) {l : Files.Location}
    (away : ∀ path, r.destination = .file path → ¬tree.Opens (Files.Path.ofString path) l) :
    s.placed.2.find? l = tree.find? l := by
  cases course with
  | unread _ _ same _ => rw [same]
  | unprinted _ _ _ _ same _ => rw [same]
  | printed _ _ _ same _ => rw [same]
  | saved _ there done same _ => rw [same, done.elsewhere l (away _ there)]
  | unshown _ there done same _ _ _ => rw [same, done.elsewhere l (away _ there)]
  | unsaved _ there left same _ => rw [same, left.elsewhere l (away _ there)]

end Course

/-- How a call ends with an exit code. -/
structure Ends (scene : Scene) (r : Request) (letters : Text.Letters) (journal : Journal)
    (tree : Files.Tree) (code : Nat) (s : State) : Prop where
  bounded : code ≤ 3
  complete : code = 0 ↔ r.Received scene letters (journal, tree) s ∧ r.Shows scene letters tree
  unshown : r.Received scene letters (journal, tree) s → ¬r.Shows scene letters tree → code = 1
  received : r.Received scene letters (journal, tree) s ↔ r.IsWritten scene letters (journal, tree)
  misconfigured : code = 2 ↔
    ∃ report, r.loaded letters tree = .error (.report report) ∧ report.kind = .config
  untouched : code = 2 → s.placed.2 = tree ∧ s.output = ""
  unwritten : code = 3 ↔ r.IsReported scene letters (journal, tree)
  silent : code ≠ 0 → s.output = ""
  cleared : code ≠ 0 → r.Shows scene letters tree → ∀ path place, r.destination = .file path →
    tree.Opens (Files.Path.ofString path) place →
    s.placed.2.find? place = tree.find? place ∨ s.placed.2.find? place = none
  elsewhere : ∀ l, (∀ path, r.destination = .file path →
    ¬tree.Opens (Files.Path.ofString path) l) → s.placed.2.find? l = tree.find? l

/-- **Every call ends with an exit code that tells what was done.** It is zero when the whole
document is where it belongs and its summary, if there is one, was shown; else nothing is on the
standard output, and a file at the destination is as it was or gone, unless only the summary
failed. -/
theorem call_ends {words : List String} {journal : Journal} (accepted : Request.read words = .ok r)
    (calm : scene.interrupted = false) (fits : r.Fits letters tree) (unlogged : journal.files = []) :
    ∃ code s, call scene words ⟨(journal, tree), ""⟩ letters = (.ran code, s) ∧
      Ends scene r letters journal tree code s := by
  obtain ⟨code, s, ran, course⟩ := run_course calm fits journal
  refine ⟨code, s, ?_, course.code_le, course.code_eq_zero_iff unlogged,
    course.code_eq_one_of_unshown unlogged, course.received_iff unlogged,
    course.code_eq_two_iff, course.untouched,
    course.code_eq_three_iff unlogged, course.silent, ?_, ?_⟩
  · simp only [call, accepted, ran]
  · exact fun failed shows path place there opens => course.cleared failed shows there opens
  · exact fun l away => course.elsewhere away

/-! ### A summary that cannot be shown -/

/-- A request for a document in a file. -/
def bracketedRequest : Request :=
  ⟨0, 0, none, false, true, "m.json", none, none, usualInterfaces, .file "out.xml"⟩

/-- A machine whose name ends a style that was never begun. -/
def bracketedMachine : Machine :=
  ⟨"[/b]", 1048576, 1, .unknown, ⟨.unknown, 0⟩, [], none, none, none⟩

def bracketedText : List Char :=
  "\x7b\"guestname\": \"[/b]\", \"memory\": 1048576, \"vcpus\": 1\x7d".toList

/-- A tree with the configuration of that machine and nothing else. -/
def bracketedTree : Files.Tree :=
  ⟨[(["m.json"], .file (Text.Utf8.encode bracketedText))], [], true⟩

def bracketedPath : Files.Path := ⟨.current, ["m.json"]⟩

/-- A terminal at which nobody interrupts. -/
def calmTerminal : Scene := ⟨"x86_64", true, false, Failure.text⟩

def bracketedOrder : Document.Order := order calmTerminal bracketedRequest bracketedMachine []

theorem eq_ok_of_toOption {ε α : Type} {x : Except ε α} {a : α} (found : x.toOption = some a) :
    x = .ok a := by
  cases x with
  | ok b => exact congrArg _ (Option.some.inj found)
  | error e => cases found

theorem read_bracketed :
    Request.read ["--config", "m.json", "-o", "out.xml"] = .ok bracketedRequest :=
  eq_ok_of_toOption (by decide +kernel)

theorem bracketedTree_resolve : bracketedTree.resolve true bracketedPath =
    .ok (.entry ["m.json"] (.file (Text.Utf8.encode bracketedText))) := by
  have short : ¬Files.Tree.maxPath < bracketedPath.toString.utf8ByteSize := by decide
  rw [Files.Tree.resolve, if_neg short]
  exact Files.Tree.walk_of_last rfl (by decide) (by decide) (by rintro target ⟨⟩) true _

theorem bracketedTree_opens :
    bracketedTree.Opens (Files.Path.ofString "out.xml") ["out.xml"] where
  clear := rfl
  arrives := by
    have spelled : Files.Path.ofString "out.xml" = ⟨.current, ["out.xml"]⟩ := rfl
    have short : ¬Files.Tree.maxPath <
        (Files.Path.mk .current ["out.xml"]).toString.utf8ByteSize := by decide
    left
    rw [spelled, Files.Tree.resolve, if_neg short]
    exact Files.Tree.walk_of_last rfl (by decide) (by decide) (by rintro target ⟨⟩) true _

theorem bracketedTree_straight (l : Files.Location) (target : String) :
    bracketedTree.find? l ≠ some (.link target) := by
  unfold Files.Tree.find?
  split
  · nofun
  · simp only [bracketedTree, List.lookup_cons, List.lookup_nil]
    split <;> nofun

theorem bracketedPath_given :
    (Files.Path.ofString bracketedRequest.config).expandHome = some bracketedPath := rfl

theorem bracketedPath_format :
    Configuration.Format.ofSuffix? bracketedPath.suffix = some .json := rfl

/-- The configuration comes to the machine without ports. -/
theorem readValue_bracketed : ∃ v,
    Configuration.readValue .plain bracketedTree bracketedPath .json = .ok v ∧
      Configuration.HasShortLists v ∧ Typing.machine v = .ok bracketedMachine ∧
      Configuration.portsOf bracketedPath v = .ok [] := by
  have decoded : Text.Utf8.decode (Text.Utf8.encode bracketedText) = .ok bracketedText :=
    eq_ok_of_toOption (by decide +kernel)
  have unified : Text.unifyLineFeeds bracketedText = bracketedText := rfl
  have read : Configuration.readValue .plain bracketedTree bracketedPath .json =
      (Json.read bracketedText).mapError .json := by
    unfold Configuration.readValue Files.Tree.read
    rw [bracketedTree_resolve]
    simp only [mapError_ok, decoded, bind, Except.bind, Configuration.valueOf, unified]
  have short : (Json.read bracketedText).toOption.map Configuration.listsAreShort = some true := by
    decide +kernel
  have machine : ((Json.read bracketedText).toOption.bind fun v =>
      (Typing.machine v).toOption) = some bracketedMachine := by
    decide +kernel
  have ports : ((Json.read bracketedText).toOption.bind fun v =>
      (Configuration.portsOf bracketedPath v).toOption.map List.length) = some 0 := by
    decide +kernel
  cases parsed : Json.read bracketedText with
  | error e =>
    rw [parsed] at machine
    cases machine
  | ok v =>
    rw [parsed] at read short machine ports
    obtain ⟨vs, given, none⟩ := Option.map_eq_some_iff.mp ports
    obtain rfl := List.eq_nil_of_length_eq_zero none
    exact ⟨v, read, Configuration.hasShortLists_of_listsAreShort (Option.some.inj short),
      eq_ok_of_toOption machine, eq_ok_of_toOption given⟩

theorem loaded_bracketed :
    bracketedRequest.loaded .plain bracketedTree = .ok (bracketedMachine, []) := by
  obtain ⟨v, read, -, machine, ports⟩ := readValue_bracketed
  have found : bracketedTree.isFile bracketedPath = .ok true := by
    unfold Files.Tree.isFile
    rw [bracketedTree_resolve]
    rfl
  have loaded := Configuration.load_of_read bracketedPath_given found bracketedPath_format read
  unfold Request.loaded
  rw [loaded, machine]
  simp only [bind, Except.bind, ports]
  rfl

theorem bracketed_fits : bracketedRequest.Fits .plain bracketedTree where
  unlogged := rfl
  countable := by
    obtain ⟨v, read, short, -⟩ := readValue_bracketed
    refine ⟨fun p format v' expanded known read' => ?_, nofun⟩
    obtain rfl := Option.some.inj (bracketedPath_given.symm.trans expanded)
    obtain rfl := Option.some.inj (bracketedPath_format.symm.trans known)
    obtain rfl := Except.ok.inj (read.symm.trans read')
    exact short
  straight := bracketedTree_straight
  allowed := rfl
  away := by
    intro m ports path place loaded _ _ i listed
    obtain ⟨rfl, -⟩ := Prod.mk.inj (Except.ok.inj (loaded_bracketed.symm.trans loaded))
    cases listed

theorem bracketedOrder_outcome : ∃ text, bracketedOrder.outcome none
    (bracketedOrder.found bracketedTree) = .ok text := by
  have allowed : Xml.hasDoubleHyphen bracketedOrder.program.toList = false := by decide
  have short : ∀ n ∈ Document.integersOf bracketedMachine ++ [], Integer.isWritable n = true := by
    decide +kernel
  have faultless : bracketedOrder.faults
      (bracketedOrder.found bracketedTree) = [] :=
    Document.faults_of_short rfl short
  rw [Document.Order.outcome, allowed, if_neg Bool.false_ne_true, faultless]
  exact ⟨_, rfl⟩

theorem bracketed_unshown : ¬bracketedRequest.Shows calmTerminal .plain bracketedTree := by
  intro shows
  have failed :
      (panel bracketedOrder (Files.Path.ofString "out.xml").toString).toOption = none := by
    decide +kernel
  obtain ⟨text, shown⟩ := shows "out.xml" bracketedMachine [] rfl rfl loaded_bracketed
  rw [show panel bracketedOrder _ = _ from shown] at failed
  cases failed

/-- The document stands in the file, and yet the exit code is one. -/
theorem call_bracketed : ∃ s text,
    call calmTerminal ["--config", "m.json", "-o", "out.xml"]
      ⟨(Document.smallJournal, bracketedTree), ""⟩ = (.ran 1, s) ∧
    bracketedRequest.IsDocument calmTerminal .plain (Document.smallJournal, bracketedTree) text ∧
    s.placed.2.find? ["out.xml"] = some (.file (Text.Utf8.encode text.toList)) := by
  have calm : calmTerminal.interrupted = false := rfl
  have unlogged : Document.smallJournal.files = [] := rfl
  obtain ⟨code, s, called, ends⟩ := call_ends read_bracketed calm bracketed_fits unlogged
  have saved : Saved bracketedOrder (Files.Path.ofString "out.xml") bracketedTree _ :=
    Document.save_settles bracketedOrder _ unlogged bracketed_fits.straight bracketed_fits.allowed
      fun place opens => bracketed_fits.away _ _ _ place loaded_bracketed rfl opens
  have written : bracketedRequest.IsWritten calmTerminal .plain
      (Document.smallJournal, bracketedTree) := by
    rw [Request.IsWritten, comes_there unlogged loaded_bracketed rfl saved, saved.accepted]
    obtain ⟨text, outcome⟩ := bracketedOrder_outcome
    exact ⟨bracketedTree_opens.clear, ⟨_, _, bracketedTree_opens.openTo, nofun⟩, text, outcome,
      Text.Letters.fault?_plain _⟩
  obtain ⟨text, document, received⟩ := ends.received.mpr written
  obtain rfl := ends.unshown ⟨text, document, received⟩ bracketed_unshown
  refine ⟨s, text, called, document, ?_⟩
  rcases received with ⟨place, opens, stands⟩ | ⟨-, swallowed, -⟩
  · obtain rfl := opens.unique bracketedTree_opens
    exact stands
  · rw [bracketedTree_opens.openTo] at swallowed
    cases swallowed

end MachineDescriptor.Command
