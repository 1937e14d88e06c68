/-!
The switches of the command line and their spellings. A mark stands for itself, a field comes with a
value. One letter after a single dash or a word after two dashes spells a switch.
-/
namespace MachineDescriptor.Command

/-- The switches without a value. -/
inductive Mark where
  | help
  | version
  | verbose
  | quiet
  | jsonLogs
  | noColour
  | standardOutput
deriving DecidableEq

/-- The switches with a value. -/
inductive Field where
  | logFile
  | config
  | port
  | architecture
  | interfaces
  | output
deriving DecidableEq

inductive Switch where
  | mark (m : Mark)
  | field (f : Field)
deriving DecidableEq

namespace Switch

/-- The spellings of all switches. -/
def spellings : List (String × Switch) :=
  [("-h", .mark .help), ("--help", .mark .help), ("--version", .mark .version),
    ("-v", .mark .verbose), ("--verbose", .mark .verbose), ("-q", .mark .quiet),
    ("--quiet", .mark .quiet), ("--log-file", .field .logFile), ("--json-logs", .mark .jsonLogs),
    ("--no-color", .mark .noColour), ("--config", .field .config), ("--nbd-port", .field .port),
    ("--host-cpu", .field .architecture), ("--sysfs-net-dir", .field .interfaces),
    ("-o", .field .output), ("--output", .field .output), ("--stdout", .mark .standardOutput)]

/-- The switch that a word spells. -/
def spelled? (word : List Char) : Option Switch := spellings.lookup (String.ofList word)

/-- The switch that a letter spells after a single dash. -/
def ofLetter? (letter : Char) : Option Switch := spelled? ['-', letter]

/-- The spellings that begin with some characters. -/
def beginningWith (start : List Char) : List (String × Switch) :=
  spellings.filter fun s => start.isPrefixOf s.1.toList

/-- The name of a switch in messages: all its spellings. -/
def name (s : Switch) : String :=
  String.intercalate "/" ((spellings.filter fun e => e.2 = s).map Prod.fst)

end Switch
end MachineDescriptor.Command
