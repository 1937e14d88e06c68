import MachineDescriptor.Context
import MachineDescriptor.Fault
import MachineDescriptor.Log.Level
import MachineDescriptor.Number.Binary64

/-!
Log records, and the speakers that make them. A speaker is a logger or a speaker with a context of
its own; the context of a record is what the speakers bind from the inside out, with the context of
the call on top.
-/
namespace MachineDescriptor.Log

/-- An exception as it is told in a log: the name of its kind, and the text of its trace. -/
structure Exception where
  kind : String
  trace : String

/-- A log record. Its message is a template that is filled when the record is written; a record of
an exception may lack the exception itself. -/
structure Record where
  level : Level
  levelName : String
  logger : String
  template : Value
  arguments : List Value
  context : Option Context
  exception : Option (Option Exception)
  moduleName : String
  line : Int
  created : Int

namespace Record

/-- The message of a record; a template without arguments is taken as it stands. -/
def message (r : Record) : Except Fault (List Char) :=
  match r.template.written with
  | .error f => .error (.integer f)
  | .ok cs =>
    if r.arguments.isEmpty then .ok cs
    else (Template.fillAll cs r.arguments).mapError .template

/-- The microseconds that a record's time is taken for. The time passes through a floating-point
number of seconds, of which the fraction is rounded to microseconds. -/
def instant (r : Record) : Int :=
  match Binary64.ofRatio (r.created < 0) r.created.natAbs 1000000 with
  | .finite negative mantissa exponent =>
    let (n, d) := Binary64.ratio mantissa exponent
    let fraction := Binary64.mul (Binary64.ofRatio false (n % d) d) (Binary64.ofInt 1000000)
    let micros := match fraction with
      | .finite _ m e => let (p, q) := Binary64.ratio m e; Binary64.nearest p q
      | _ => 0
    let total : Int := (n / d : Nat) * 1000000 + micros
    if negative then -total else total
  | _ => 0

/-- The moment of a record in universal time. -/
def moment (r : Record) : Except Fault Calendar.Moment :=
  (Calendar.ofMicroseconds r.instant).mapError .calendar

/-- The text of a trace; something is told also where the exception is missing. -/
def traceOf : Option Exception → String
  | none => "NoneType: None"
  | some e => e.trace

/-- The name of the module in a file: the last part of its path without its suffix. Points at the
start of a name begin no suffix. -/
def moduleOf (path : String) : String :=
  let file := (path.toList.reverse.takeWhile (· != '/')).reverse
  let dots := file.takeWhile (· == '.')
  let rest := file.dropWhile (· == '.')
  if rest.contains '.' then
    String.ofList (dots ++ ((rest.reverse.dropWhile (· != '.')).drop 1).reverse)
  else String.ofList file

end Record

/-- Who speaks: a logger by its name, or another speaker with a context bound to it. -/
inductive Speaker where
  | logger (name : String)
  | bound (inner : Speaker) (context : Context)

namespace Speaker

/-- The logger behind a speaker. -/
def name : Speaker → String
  | logger name => name
  | bound inner _ => inner.name

/-- The context of a record that a speaker makes with a context of the call. -/
def contextOf (s : Speaker) (call : Option Context) : Option Context :=
  match s with
  | logger _ => call
  | bound inner context => inner.contextOf (some (context.merge (call.getD .empty)))

/-- The speaker with more bound to it. -/
def bind (s : Speaker) (context : Context) : Speaker := bound s context

/-- The bound speaker with more in its innermost binding; a plain logger has none. -/
def rebind? (s : Speaker) (context : Context) : Option Speaker :=
  match s with
  | logger _ => none
  | bound inner own => some (bound inner (own.merge context))

end Speaker
end MachineDescriptor.Log
