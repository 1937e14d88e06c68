import MachineDescriptor.Command.Word
import MachineDescriptor.Number.Integer

/-!
Requests: what a command line asks for. The words are read one after the other into a draft, which
is a request once it has a configuration and a destination. A draft has one destination at most, so
a request never asks for both.
-/
namespace MachineDescriptor.Command

/-- Where a document goes. -/
inductive Destination where
  | file (path : String)
  | standardOutput
deriving DecidableEq

/-- The switch that a destination is asked for with. -/
def Destination.switch : Destination → Switch
  | file _ => .field .output
  | standardOutput => .mark .standardOutput

/-- What was asked for so far. -/
structure Draft where
  verbose : Nat
  quiet : Nat
  logFile : Option String
  jsonLogs : Bool
  colour : Bool
  config : Option String
  ports : Option (List Int)
  architecture : Option String
  interfaces : String
  destination : Option Destination
  unrecognised : List (List Char)

/-- What a command line asks for. -/
structure Request where
  verbose : Nat
  quiet : Nat
  logFile : Option String
  jsonLogs : Bool
  colour : Bool
  config : String
  ports : Option (List Int)
  architecture : Option String
  interfaces : String
  destination : Destination
deriving DecidableEq

/-- What ends the reading of a command line early. -/
inductive Stop where
  | misuse (m : Misuse)
  | version
  | help

/-- The directory of the system's interfaces. -/
def usualInterfaces : String := "/sys/class/net"

namespace Draft

/-- The draft that nothing was asked for yet. -/
def empty : Draft := ⟨0, 0, none, false, true, none, none, none, usualInterfaces, none, []⟩

/-- Asks for a destination; another one of the same kind takes the place of the first. -/
def sendTo (d : Draft) (destination : Destination) : Except Stop Draft :=
  match d.destination with
  | some earlier =>
    if earlier.switch = destination.switch then .ok { d with destination := some destination }
    else .error (.misuse (.excluded destination.switch earlier.switch))
  | none => .ok { d with destination := some destination }

/-- Asks for one port more. -/
def addPort (d : Draft) (value : List Char) : Except Stop Draft :=
  match Integer.read value with
  | .ok n => .ok { d with ports := some (d.ports.getD [] ++ [n]) }
  | .error _ => .error (.misuse (.notAnInteger .port value))

def withMark (d : Draft) : Mark → Except Stop Draft
  | .help => .error .help
  | .version => .error .version
  | .verbose => .ok { d with verbose := d.verbose + 1 }
  | .quiet => .ok { d with quiet := d.quiet + 1 }
  | .jsonLogs => .ok { d with jsonLogs := true }
  | .noColour => .ok { d with colour := false }
  | .standardOutput => d.sendTo .standardOutput

def withField (d : Draft) (f : Field) (value : List Char) : Except Stop Draft :=
  let text := String.ofList value
  match f with
  | .logFile => .ok { d with logFile := some text }
  | .config => .ok { d with config := some text }
  | .port => d.addPort value
  | .architecture => .ok { d with architecture := some text }
  | .interfaces => .ok { d with interfaces := text }
  | .output => d.sendTo (.file text)

/-- Keeps a word that nothing can be made of. -/
def withStranger (d : Draft) (word : List Char) : Draft :=
  { d with unrecognised := d.unrecognised ++ [word] }

end Draft

/-- What a word ends in: nothing more, a field with its value, a field whose value is the next word,
or letters that are no switch. -/
inductive Tail where
  | nothing
  | field (f : Field) (value : List Char)
  | awaiting (f : Field)
  | stranger (word : List Char)

/-- What one word asks for: marks first, and what it ends in. -/
structure Asked where
  marks : List Mark
  tail : Tail

namespace Asked

/-- A switch alone in its word. -/
def alone : Switch → Asked
  | .mark m => ⟨[m], .nothing⟩
  | .field f => ⟨[], .awaiting f⟩

/-- A switch with a value behind an equals sign. -/
def valued (value : List Char) : Switch → Except Misuse Asked
  | .mark m => .error (.valueIgnored m value)
  | .field f => .ok ⟨[], .field f value⟩

/-- A switch of one letter with characters right behind it: the value of a field, or the letters of
more switches. -/
def joined : List Char → Switch → Except Misuse Asked
  | [], s => .ok (alone s)
  | letters, .field f => .ok ⟨[], .field f letters⟩
  | c :: more, .mark m =>
    if c = '-' then .error (.valueIgnored m (c :: more))
    else do
      let others ← match Switch.ofLetter? c with
        | none => .ok ⟨[], .stranger ('-' :: c :: more)⟩
        | some s =>
          match more with
          | '=' :: value => valued value s
          | _ => joined more s
      pure { others with marks := m :: others.marks }

/-- What a switch with all that is attached to it asks for. -/
def read (s : Switch) : Attached → Except Misuse Asked
  | .nothing => .ok (alone s)
  | .value cs => valued cs s
  | .letters cs => joined cs s

end Asked

namespace Draft

/-- The draft filled in with all that words ask for. -/
def fill : List Word → Draft → Except Stop Draft
  | [], d => .ok d
  | .argument cs :: rest, d => fill rest (d.withStranger cs)
  | .separator :: rest, d => fill rest (d.withStranger ['-', '-'])
  | .stranger cs :: rest, d => fill rest (d.withStranger cs)
  | .switch s attached :: rest, d => do
    let asked ← (Asked.read s attached).mapError .misuse
    match asked.tail, rest with
    | .awaiting f, .argument value :: rest =>
      fill rest (← (← asked.marks.foldlM withMark d).withField f value)
    | .awaiting f, _ => .error (.misuse (.valueMissing f))
    | .field f value, rest => fill rest (← (← asked.marks.foldlM withMark d).withField f value)
    | .stranger word, rest => fill rest ((← asked.marks.foldlM withMark d).withStranger word)
    | .nothing, rest => fill rest (← asked.marks.foldlM withMark d)

/-- The request that a draft comes to: nothing that is needed may be missing, and nothing may be
left over. -/
def complete (d : Draft) : Except Misuse Request :=
  match d.config, d.destination with
  | none, _ => .error .configMissing
  | some _, none => .error .destinationMissing
  | some config, some destination =>
    if d.unrecognised.isEmpty then
      .ok ⟨d.verbose, d.quiet, d.logFile, d.jsonLogs, d.colour, config, d.ports, d.architecture,
        d.interfaces, destination⟩
    else .error (.unrecognised d.unrecognised)

end Draft

/-- The request of a command line. -/
def Request.read (words : List String) : Except Stop Request := do
  let words ← (Word.readAll (words.map String.toList)).mapError .misuse
  let d ← Draft.fill words Draft.empty
  d.complete.mapError .misuse

end MachineDescriptor.Command
