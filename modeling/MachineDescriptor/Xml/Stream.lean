import MachineDescriptor.Fault
import MachineDescriptor.Files.Handle

/-!
Streams that a writer puts its text on. A stream takes texts one after the other, hands on what it
holds back, and can be closed; each of these may fail. There are streams in memory, which take any
text but may be limited to a number of writes, and streams on files, on which texts are encoded.
-/
namespace MachineDescriptor.Xml

/-- What a writer needs of a stream. -/
class Stream (σ : Type) where
  write : String → EStateM Fault σ Unit
  flush : EStateM Fault σ Unit
  close : EStateM Fault σ Unit
  isClosed : σ → Bool
  /-- the whole text that was put on the stream, where that can be told -/
  value : σ → Except Fault String

/-- A stream in memory: its text, how many more writes it accepts where that is limited, and
whether its flush fails. -/
structure Memory where
  text : String
  accepts : Option Nat
  flushFails : Bool
  closed : Bool

namespace Memory

/-- An empty stream that accepts everything. -/
def empty : Memory := ⟨"", none, false, false⟩

def write (s : String) : EStateM Fault Memory Unit := fun m =>
  match m.accepts with
  | some 0 => .error (.refused .noSpace) m
  | limit =>
    if m.closed then .error .closedMemory m
    else .ok () { m with text := m.text ++ s, accepts := limit.map (· - 1) }

def flush : EStateM Fault Memory Unit := fun m =>
  if m.flushFails then .error (.refused .inputOutput) m else .ok () m

def close : EStateM Fault Memory Unit := modify fun m => { m with closed := true }

/-- The whole text of a stream that is open. -/
def value (m : Memory) : Except Fault String :=
  if m.closed then .error .closedMemory else .ok m.text

end Memory

instance : Stream Memory where
  write := Memory.write
  flush := Memory.flush
  close := Memory.close
  isClosed := Memory.closed
  value := Memory.value

/-- A step on an open file, refused when the file is closed. -/
def onOpenFile (step : EStateM Files.Refusal Files.Handle.Placed Unit) :
    EStateM Fault Files.Handle.Placed Unit := fun s =>
  if s.1.closed then .error .closedFile s
  else
    match step s with
    | .ok _ s => .ok () s
    | .error r s => .error (.refused r) s

/-- Writes a text to an open file, refused where the text cannot be encoded. -/
def writeToFile (s : String) : EStateM Fault Files.Handle.Placed Unit := fun p =>
  match p.1.letters.fault? s.toList with
  | none => onOpenFile (Files.Handle.write s) p
  | some codes => .error (if p.1.closed then .closedFile else .unencodable codes) p

instance : Stream Files.Handle.Placed where
  write := writeToFile
  flush := onOpenFile Files.Handle.flush
  close s := if s.1.closed then .ok () s else onOpenFile Files.Handle.close s
  isClosed s := s.1.closed
  value _ := .error .notInMemory

end MachineDescriptor.Xml
