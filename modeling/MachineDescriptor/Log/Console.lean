import MachineDescriptor.Log.Fields
import MachineDescriptor.Log.Record
import MachineDescriptor.Terminal.Colour

/-!
Log lines for people. A line gives the time, a symbol and the name of the level, where the record
comes from as far as the style shows it, the message and the fields of the context; the trace of an
exception follows on lines of its own. On a terminal the level, grave messages and traces are
coloured.
-/
namespace MachineDescriptor.Log

/-- What a line shows, and how. -/
structure Style where
  colour : Bool
  showMillis : Bool
  showSource : Bool
  showProcess : Bool
  showLogger : Bool
  utc : Bool
  levelWidth : Int
  symbols : Bool

def Style.plain : Style := ⟨true, false, false, false, false, false, 8, true⟩

/-- The symbols and colours of the named levels. -/
def levelSymbols : List (String × String) :=
  [("TRACE", "🧬"), ("DEBUG", "🔍"), ("INFO", "✅"), ("WARNING", "⚠️"), ("ERROR", "💥"),
    ("CRITICAL", "🧨")]

def levelColours : List (String × String) :=
  [("TRACE", "cyan"), ("DEBUG", "blue"), ("INFO", "green"), ("WARNING", "yellow"),
    ("ERROR", "red"), ("CRITICAL", "red")]

/-- The symbol of a level, or a dot. -/
def symbol (style : Style) (name : String) : String :=
  if style.symbols then (levelSymbols.lookup name).getD "•" else "·"

/-- Where a record comes from, in brackets after a blank, as far as the style shows it. -/
def origin (style : Style) (process : Int) (r : Record) : String :=
  let parts := (if style.showProcess then ["pid=" ++ toString process] else []) ++
    (if style.showLogger then [r.logger] else []) ++
    (if style.showSource then [r.moduleName ++ ":" ++ toString r.line] else [])
  if parts.isEmpty then "" else " [" ++ String.intercalate " " parts ++ "]"

/-- A text with blanks after it up to a width. -/
def column (width : Nat) (cs : List Char) : List Char :=
  cs ++ List.replicate (width - cs.length) ' '

/-- The text of a trace with every line set in. -/
def setIn (cs : List Char) : List Char :=
  Text.joined ['\n'] ((Text.lines cs).map ([' ', ' '] ++ ·))

/-- The line of a record. Colours need the style's consent and a terminal. -/
def consoleLine (style : Style) (terminal : Bool) (process : Int) (r : Record) :
    Except Fault (List Char) := do
  let coloured := style.colour && terminal
  let colour := levelColours.lookup r.levelName
  let level ← Terminal.coloured coloured colour [] r.levelName.toList
  let message ← r.message
  let message ←
    if warning ≤ r.level then Terminal.coloured coloured colour ["bold"] message
    else pure message
  let moment ← r.moment
  if style.levelWidth < 0 then throw .negativeWidth
  let fields ← match r.context with
    | some c => fieldsText c
    | none => pure []
  let time := if style.showMillis then moment.time.millis else moment.time.text
  let line := time.toList ++ [' '] ++ (symbol style r.levelName).toList ++ [' '] ++
    column style.levelWidth.toNat level ++ (origin style process r).toList ++ [' '] ++ message ++
    fields
  match r.exception with
  | none => pure line
  | some e =>
    let text ← Terminal.coloured coloured (some "red") [] (setIn (Record.traceOf e).toList)
    pure (line ++ ['\n'] ++ text)

end MachineDescriptor.Log
