import MachineDescriptor.Machine.Basis

/-!
The description of a physical machine: its processor, its clock, and its devices by name.
-/
namespace MachineDescriptor

/-- A processor. A count of zero is an unknown one. -/
structure Processor where
  vendor : Option String
  model : Option String
  sockets : Int
  cores : Int
  threads : Int
  acpi : Bool
  apic : Bool
  pae : Bool
deriving DecidableEq

namespace Processor

/-- The processor of which nothing is known. -/
def unknown : Processor := ⟨none, none, 0, 0, 0, false, false, false⟩

/-- Whether some count is known. -/
def hasTopology (p : Processor) : Bool := p.sockets != 0 || p.cores != 0 || p.threads != 0

/-- Whether anything but the features is known. -/
def isKnown (p : Processor) : Bool := p.vendor.isSome || p.model.isSome || p.hasTopology

end Processor

/-- A clock: what it counts from, and how many seconds it is ahead of universal time where that
says something. -/
structure Clock where
  basis : Basis
  offset : Int
deriving DecidableEq

/-- A physical machine. A list of devices that was not collected is told apart from an empty
one. -/
structure Machine where
  name : String
  memory : Int
  processors : Int
  processor : Processor
  clock : Clock
  disks : List String
  removable : Option (List String)
  interfaces : Option (List String)
  networkRules : Option (List String)
deriving DecidableEq

/-- All texts of the description. -/
def Machine.texts (m : Machine) : List String :=
  m.name :: m.processor.vendor.toList ++ m.processor.model.toList ++ m.disks ++
    m.removable.getD [] ++ m.interfaces.getD [] ++ m.networkRules.getD []

/-- The memory in units of 1024 bytes, rounded down. -/
def Machine.memoryUnits (m : Machine) : Int := Int.fdiv m.memory 1024

end MachineDescriptor
