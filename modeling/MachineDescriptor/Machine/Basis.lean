/-!
What the clock of a physical machine counts from.
-/
namespace MachineDescriptor

inductive Basis where
  | unknown
  | utc
  | localtime
deriving DecidableEq

/-- The word for a basis in a machine description. -/
def Basis.word : Basis → String
  | .unknown => "unknown"
  | .utc => "utc"
  | .localtime => "localtime"

/-- The basis that a word stands for. -/
def Basis.ofWord? (word : String) : Option Basis :=
  [Basis.unknown, .utc, .localtime].find? (·.word == word)

theorem Basis.ofWord?_word (b : Basis) : ofWord? b.word = some b := by
  cases b <;> decide

end MachineDescriptor
