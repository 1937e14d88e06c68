import MachineDescriptor.Machine.Basic
import MachineDescriptor.Text.Blank
import MachineDescriptor.Value.Text

/-!
The summary of a machine whose document was written: one line for each thing worth a look.
-/
namespace MachineDescriptor.Command

/-- How many things are in a list that may not have been collected. -/
def sizeOf (given : Option (List String)) : Value := .int (given.getD []).length

/-- The lines of a summary, each made of texts and values. -/
def summaryLines (m : Machine) (output architecture : String) : List (List Value) :=
  [[.text "guest:      ", .text m.name],
    [.text "memory:     ", .int m.memoryUnits, .text " KiB, vcpus: ", .int m.processors],
    [.text "arch:       ", .text architecture],
    [.text "disks:      ", .int m.disks.length],
    [.text "removable:  ", sizeOf m.removable],
    [.text "interfaces: ", sizeOf m.interfaces],
    [.text "output:     ", .text output]]

/-- The summary of a machine with where its document went and the architecture in it. -/
def summary (m : Machine) (output architecture : String) : Except Integer.Fault (List Char) := do
  let lines ← (summaryLines m output architecture).mapM fun parts => parts.mapM Value.written
  pure (Text.joined ['\n'] (lines.map List.flatten))

end MachineDescriptor.Command
