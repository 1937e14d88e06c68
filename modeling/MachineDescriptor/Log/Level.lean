/-!
Levels of log records. A level is a number; six of the numbers have names.
-/
namespace MachineDescriptor.Log

abbrev Level := Int

def trace : Level := 5
def debug : Level := 10
def info : Level := 20
def warning : Level := 30
def error : Level := 40
def critical : Level := 50

/-- The names of levels. -/
def levelNames : List (Level × String) :=
  [(trace, "TRACE"), (debug, "DEBUG"), (info, "INFO"), (warning, "WARNING"), (error, "ERROR"),
    (critical, "CRITICAL"), (0, "NOTSET")]

def levelName (level : Level) : String :=
  (levelNames.lookup level).getD ("Level " ++ toString level)

/-- The lowest level that is shown when so much more or less is asked for; asking for less
counts more. -/
def threshold (verbose quiet : Int) : Level :=
  if 2 ≤ quiet then error
  else if quiet = 1 then warning
  else if 3 ≤ verbose then trace
  else if 2 ≤ verbose then debug
  else info

end MachineDescriptor.Log
