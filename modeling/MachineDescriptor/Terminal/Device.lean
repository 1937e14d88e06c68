/-!
Whether a stream leads to a terminal.
-/
namespace MachineDescriptor.Terminal

/-- What a stream answers to the question whether it leads to a terminal: yes, no, that it is
closed, or nothing because it does not know the question. -/
inductive Answer where
  | terminal
  | elsewhere
  | closed
  | unanswered
deriving DecidableEq

/-- Whether a stream leads to a terminal; where none is given, the standard output is asked. Only a
plain yes counts. -/
def isTerminal (stream : Option Answer) (standard : Answer) : Bool :=
  stream.getD standard == .terminal

end MachineDescriptor.Terminal
