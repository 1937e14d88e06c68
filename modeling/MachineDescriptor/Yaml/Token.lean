import MachineDescriptor.Yaml.Tag

/-!
Tokens of YAML texts. Besides what is written, they tell where collections begin and end by their
indentation, and which scalars and collections are keys.
-/
namespace MachineDescriptor.Yaml

/-- A directive: the version of the language, what a tag handle stands for, or one that says
nothing here. -/
inductive Directive where
  | version (major minor : Int)
  | handle (handle beginning : List Char)
  | other

inductive Token where
  | directive (d : Directive)
  | documentStart
  | documentEnd
  | sequenceStart
  | mappingStart
  | blockEnd
  | flowSequenceStart
  | flowSequenceEnd
  | flowMappingStart
  | flowMappingEnd
  | flowEntry
  | blockEntry
  | key
  | value
  | alias (name : List Char)
  | anchor (name : List Char)
  | tag (t : TagText)
  | scalar (text : List Char) (plain : Bool)

end MachineDescriptor.Yaml
