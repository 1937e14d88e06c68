import MachineDescriptor.Command.Misuse
import MachineDescriptor.Text.Digit

/-!
The words of a command line. A word that begins with a dash is a switch unless it is a lone dash, a
negative number or holds a space; behind a separator nothing is. A spelling after two dashes may be
cut short as long as only one spelling begins so, and a one-letter spelling may have a value or more
letters right behind it.
-/
namespace MachineDescriptor.Command

/-- What comes with a switch in the same word: nothing, a value behind an equals sign, or characters
right behind the letter. -/
inductive Attached where
  | nothing
  | value (cs : List Char)
  | letters (cs : List Char)

inductive Word where
  | argument (cs : List Char)
  | separator
  | switch (s : Switch) (attached : Attached)
  /-- what looks like a switch and is none -/
  | stranger (cs : List Char)

namespace Word

/-- A word parted at its first equals sign. -/
def parted (word : List Char) : List Char × Option (List Char) :=
  match word.dropWhile (· != '=') with
  | _ :: value => (word.takeWhile (· != '='), some value)
  | [] => (word, none)

def attachedValue : Option (List Char) → Attached
  | some value => .value value
  | none => .nothing

def isDigit (c : Char) : Bool := (Text.digitValue? c).isSome

/-- Whether characters are digits, possibly with a decimal point in front of the last ones. -/
def isUnsigned (cs : List Char) : Bool :=
  match cs.dropWhile isDigit with
  | [] => !cs.isEmpty
  | '.' :: fraction => !fraction.isEmpty && fraction.all isDigit
  | _ => false

/-- A text without a line feed at its end. -/
def withoutLineFeed (cs : List Char) : List Char :=
  if cs.getLast? = some '\n' then cs.dropLast else cs

/-- Whether a word is a negative number. A line feed at its end does not count. -/
def isNegative : List Char → Bool
  | '-' :: cs => isUnsigned (withoutLineFeed cs)
  | _ => false

/-- A word that begins with a dash and spells no switch. -/
def unspelled (word : List Char) : Word :=
  if isNegative word || word.contains ' ' then .argument word else .stranger word

/-- A word that begins with two dashes and may be short for a spelling. -/
def shortened (word : List Char) : Except Misuse Word :=
  let (start, value) := parted word
  match Switch.beginningWith start with
  | [] => .ok (unspelled word)
  | [(_, s)] => .ok (.switch s (attachedValue value))
  | several => .error (.ambiguous word (several.map Prod.fst))

/-- A word that begins with one dash and a letter, with more behind it. -/
def lettered (word : List Char) (letter : Char) (more : List Char) : Word :=
  match Switch.ofLetter? letter with
  | some s => .switch s (.letters more)
  | none => unspelled word

/-- What a word in front of the separator is. -/
def read (word : List Char) : Except Misuse Word :=
  match word with
  | '-' :: c :: more =>
    let (start, value) := parted word
    match Switch.spelled? word, Switch.spelled? start with
    | some s, _ => .ok (.switch s .nothing)
    | none, some s => .ok (.switch s (attachedValue value))
    | none, none => if c = '-' then shortened word else .ok (lettered word c more)
  | _ => .ok (.argument word)

/-- What the words of a command line are. -/
def readAll : List (List Char) → Except Misuse (List Word)
  | [] => .ok []
  | word :: rest =>
    if word = ['-', '-'] then .ok (.separator :: rest.map .argument)
    else do
      let first ← read word
      let others ← readAll rest
      pure (first :: others)

end Word
end MachineDescriptor.Command
