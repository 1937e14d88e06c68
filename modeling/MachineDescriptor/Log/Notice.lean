import MachineDescriptor.Log.Journal
import MachineDescriptor.Report

/-!
Notices: what a speaker says about the course of the work. A stage of the work is announced, and
when it ends it is told how long it took and, where it failed, why.
-/
namespace MachineDescriptor.Log.Journal

/-- A context that goes along with a notice unless it is empty. -/
def unlessEmpty (c : Context) : Option Context := if c.isEmpty then none else some c

/-- Something went well. -/
def ok (speaker : Speaker) (message : String) (context : Context) : Placed → Placed :=
  say speaker info "✅ %s" [.text message] (unlessEmpty context)

/-- Something deserves attention. -/
def warn (speaker : Speaker) (message : String) (context : Context) : Placed → Placed :=
  say speaker warning "⚠️  %s" [.text message] (unlessEmpty context)

/-- Something failed. -/
def fail (speaker : Speaker) (message : String) (context : Context) : Placed → Placed :=
  say speaker error "💥 %s" [.text message] (unlessEmpty context)

/-- A stage of the work begins. -/
def begin (speaker : Speaker) (description : String) : Placed → Placed :=
  say speaker info "➡️  %s ..." [.text description] none

/-- What is said at the end of a stage that took some seconds. Nothing is said of a failure that
stops the whole run. -/
def finish (speaker : Speaker) (description : String) (seconds : Binary64)
    (failure : Option Failure) : Placed → Placed :=
  match failure with
  | none => say speaker info "✅ %s done (%.2fs)" [.text description, .float seconds] none
  | some f =>
    if f.isStop then id
    else
      say speaker error "💥 %s failed (%.2fs): %s"
        [.text description, .float seconds, .text f.text] none

end MachineDescriptor.Log.Journal
