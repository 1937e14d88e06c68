import MachineDescriptor.Terminal.ColourName
import MachineDescriptor.Text.Blank
import MachineDescriptor.Text.LetterCase

/-!
Styles of text as they are named in markup. Two names of one style have the same normal form: the
attributes in a fixed order, then the colours, then a link.
-/
namespace MachineDescriptor.Terminal

/-- The attributes in their order, each with its other names. -/
def styleAttributes : List (String × List String) :=
  [("bold", ["b"]), ("dim", ["d"]), ("italic", ["i"]), ("underline", ["u"]), ("blink", []),
    ("blink2", []), ("reverse", ["r"]), ("conceal", ["c"]), ("strike", ["s"]),
    ("underline2", ["uu"]), ("frame", []), ("encircle", []), ("overline", ["o"])]

/-- The attribute that a word names. -/
def attribute? (word : String) : Option String :=
  (styleAttributes.find? fun a => a.1 == word || a.2.contains word).map Prod.fst

/-- A style: which attributes it switches on or off, its colours and its link. -/
structure TextStyle where
  switches : List (String × Bool)
  colour : Option String
  background : Option String
  link : Option String

namespace TextStyle

def plain : TextStyle := ⟨[], none, none, none⟩

/-- The style with one more attribute; the last word on an attribute counts. -/
def turn (s : TextStyle) (name : String) (on : Bool) : TextStyle :=
  { s with switches := (name, on) :: s.switches }

/-- The style with the words of a name added; `none` when some word means nothing. -/
def addWords (s : TextStyle) : List String → Option TextStyle
  | [] => some s
  | word :: rest =>
    let lowered := Text.lower word
    match lowered, rest with
    | "on", colour :: rest =>
      if isColour (Text.lower colour) then
        addWords { s with background := some (Text.lower colour) } rest
      else none
    | "not", word :: rest =>
      match attribute? word with
      | some a => addWords (s.turn a false) rest
      | none => none
    | "link", url :: rest => addWords { s with link := some url } rest
    | "on", [] | "not", [] | "link", [] => none
    | _, rest =>
      match attribute? lowered with
      | some a => addWords (s.turn a true) rest
      | none => if isColour lowered then addWords { s with colour := some lowered } rest else none

/-- The normal form of a style. -/
def text (s : TextStyle) : String :=
  let attributes := styleAttributes.filterMap fun a =>
    (s.switches.lookup a.1).map fun on => if on then a.1 else "not " ++ a.1
  let words := attributes ++ s.colour.toList ++
    (match s.background with | some c => ["on", c] | none => []) ++
    (match s.link with | some url => ["link", url] | none => [])
  if words.isEmpty then "none" else String.intercalate " " words

/-- The normal form of a style's name; a name that means nothing is only trimmed and put into lower
case. -/
def normal (name : String) : String :=
  let trimmed := String.ofList (Text.trim name.toList)
  if trimmed = "none" then plain.text
  else
    match addWords plain ((Text.words name.toList).map String.ofList) with
    | some s => s.text
    | none => Text.lower trimmed

end TextStyle
end MachineDescriptor.Terminal
