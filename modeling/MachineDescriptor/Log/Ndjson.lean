import MachineDescriptor.Json.Printer
import MachineDescriptor.Log.Fields
import MachineDescriptor.Log.Record

/-!
Log lines for programs: one JSON object for each record, on one line.
-/
namespace MachineDescriptor.Log

/-- The members of an object, under their names. -/
def members (pairs : List (String × Value)) : List (Value × Value) :=
  pairs.map fun e => (.text e.1, e.2)

/-- What a record's object says of an exception. -/
def exceptionMembers : Option (Option Exception) → List (String × Value)
  | none => []
  | some e =>
    [("exc_type", .text ((e.map Exception.kind).getD "Exception")),
      ("traceback", .text (Record.traceOf e))]

/-- The object of a record. -/
def recordObject (utc : Bool) (process : Int) (r : Record) : Except Fault Value := do
  let moment ← r.moment
  let moment := if utc then { moment with offset := some 0 } else moment
  let message ← r.message
  let context ← match r.context with
    | some c =>
      if c.isEmpty then pure []
      else do
        let fields ← briefFields c
        pure [("ctx", Value.dict (members (fields.map fun e => (e.1, .text e.2))))]
    | none => pure []
  pure (.dict (members ([("ts", .text moment.millis), ("level", .text r.levelName),
    ("logger", .text r.logger), ("msg", .text (String.ofList message)), ("pid", .int process),
    ("module", .text r.moduleName), ("lineno", .int r.line)] ++ context ++
    exceptionMembers r.exception)))

/-- The line of a record. -/
def jsonLine (utc : Bool) (process : Int) (r : Record) : Except Fault (List Char) := do
  let object ← recordObject utc process r
  if object.isWritable then pure (Json.print object) else throw (.integer .tooLongToWrite)

end MachineDescriptor.Log
