import MachineDescriptor.Command.Switch
import MachineDescriptor.Text.Quoted

/-!
What can be wrong with the words of a command line, and how it is told.
-/
namespace MachineDescriptor.Command

inductive Misuse where
  /-- a word that could be short for several spellings -/
  | ambiguous (word : List Char) (spellings : List String)
  /-- a field without its value -/
  | valueMissing (field : Field)
  /-- a mark with a value -/
  | valueIgnored (mark : Mark) (value : List Char)
  | notAnInteger (field : Field) (value : List Char)
  /-- a switch beside another one that rules it out -/
  | excluded (switch rival : Switch)
  | configMissing
  | destinationMissing
  | unrecognised (words : List (List Char))

/-- A message about one switch. -/
def Switch.complaint (s : Switch) (text : String) : String := "argument " ++ s.name ++ ": " ++ text

namespace Misuse

/-- The two switches of which one has to be given. -/
def destinations : List Switch := [.field .output, .mark .standardOutput]

def message : Misuse → String
  | ambiguous word spellings =>
    "ambiguous option: " ++ String.ofList word ++ " could match " ++
      String.intercalate ", " spellings
  | valueMissing f => Switch.complaint (.field f) "expected one argument"
  | valueIgnored m value =>
    Switch.complaint (.mark m)
      ("ignored explicit argument " ++ String.ofList (Text.quoted value))
  | notAnInteger f value =>
    Switch.complaint (.field f) ("invalid int value: " ++ String.ofList (Text.quoted value))
  | excluded s rival => s.complaint ("not allowed with argument " ++ rival.name)
  | configMissing => "the following arguments are required: " ++ Switch.name (.field .config)
  | destinationMissing =>
    "one of the arguments " ++ String.intercalate " " (destinations.map Switch.name) ++
      " is required"
  | unrecognised words =>
    "unrecognized arguments: " ++ String.intercalate " " (words.map String.ofList)

end Misuse
end MachineDescriptor.Command
