import MachineDescriptor.Terminal.Emoji
import MachineDescriptor.Terminal.TextStyle

/-!
Markup in texts for a terminal. A tag in brackets begins a style, one with a slash ends the style it
names or else the last one, and what stands in other brackets is text. A backslash in front of a tag
makes it text too. In texts, emoji take the place of their names between colons.
-/
namespace MachineDescriptor.Terminal.Markup

/-- A piece of a text with markup: text, or a tag with the position where it begins. -/
inductive Piece where
  | text (cs : List Char)
  | tag (position : Nat) (body : List Char)

/-- What a tag's body may begin with. -/
def startsTag (c : Char) : Bool := ('a' ≤ c && c ≤ 'z') || c == '#' || c == '/' || c == '@'

/-- The body of a tag, up to the first closing bracket, and what follows it. -/
def body? : List Char → Option (List Char × List Char)
  | [] => none
  | c :: rest =>
    if startsTag c then
      let more := rest.takeWhile fun x => x != ']' && x != '['
      match rest.drop more.length with
      | ']' :: after => some (c :: more, after)
      | _ => none
    else none

/-- The pieces of a text in at most so many steps; `begun` is the text read so far, the last
character first, and ends at the position. -/
def piecesFrom : Nat → Nat → List Char → List Char → List Piece
  | 0, _, begun, _ => [.text begun.reverse]
  | fuel + 1, position, begun, cs =>
    let slashes := (cs.takeWhile (· == '\\')).length
    match cs.drop slashes with
    | [] => [.text (begun.reverse ++ cs)]
    | c :: rest =>
      match (if c = '[' then body? rest else none) with
      | none =>
        piecesFrom fuel (position + slashes + 1) (c :: List.replicate slashes '\\' ++ begun) rest
      | some (body, after) =>
        let kept := List.replicate (slashes / 2) '\\'
        let next := position + slashes + body.length + 2
        let start := position + slashes / 2 * 2
        .text begun.reverse :: .text kept ::
          (if slashes % 2 = 1 then .text ('[' :: body ++ [']']) else .tag start body) ::
          piecesFrom fuel next [] after

/-- The pieces of a text. -/
def pieces (cs : List Char) : List Piece := piecesFrom (cs.length + 1) 0 [] cs

/-- Why markup cannot be read: a closing tag that fits no style, or none that is left. -/
inductive Fault where
  | unmatched (tag : List Char) (position : Nat)
  | nothingToClose (position : Nat)

def Fault.message : Fault → String
  | .unmatched tag position =>
    "closing tag '[" ++ String.ofList tag ++ "]' at position " ++ toString position ++
      " doesn't match any open tag"
  | .nothingToClose position =>
    "closing tag '[/]' at position " ++ toString position ++ " has nothing to close"

/-- A text without the backslashes in front of brackets. -/
def withoutEscapes : List Char → List Char
  | '\\' :: '[' :: rest => '[' :: withoutEscapes rest
  | c :: rest => c :: withoutEscapes rest
  | [] => []

/-- The characters that are dropped from texts: bell, backspace, and the breaks that move the cursor
back or down. -/
def isDropped (c : Char) : Bool :=
  c == '\x07' || c == '\x08' || c == '\x0b' || c == '\x0c' || c == '\r'

/-- The name of a tag, which ends at an equals sign. -/
def nameOf (body : List Char) : List Char := body.takeWhile (· != '=')

/-- The open styles after a tag, the last one first. -/
def afterTag (position : Nat) (body : List Char) (opened : List String) :
    Except Fault (List String) :=
  match nameOf body with
  | '/' :: name =>
    let name := String.ofList (Text.trim name)
    if name.isEmpty then
      match opened with
      | [] => .error (.nothingToClose position)
      | _ :: rest => .ok rest
    else
      let style := TextStyle.normal name
      if opened.contains style then .ok (opened.erase style)
      else .error (.unmatched body position)
  | name => .ok (TextStyle.normal (String.ofList name) :: opened)

/-- The text of pieces after styles were opened. -/
def textOf (opened : List String) : List Piece → Except Fault (List Char)
  | [] => .ok []
  | .text cs :: rest => (textOf opened rest).map (Emoji.place (withoutEscapes cs) ++ ·)
  | .tag position body :: rest => do
    let opened ← afterTag position body opened
    textOf opened rest

/-- The text that is left when markup is read and controls are dropped. -/
def plain (cs : List Char) : Except Fault (List Char) := do
  let text ← if cs.contains '[' then textOf [] (pieces cs) else pure (Emoji.place cs)
  pure (text.filter (!isDropped ·))

end MachineDescriptor.Terminal.Markup
