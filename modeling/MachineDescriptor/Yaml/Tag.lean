import MachineDescriptor.Text.Hex
import MachineDescriptor.Text.Utf8
import MachineDescriptor.Yaml.Reading

/-!
Tags as they are written: a handle that stands for a beginning, and the text after it. In the text a
byte may be written as a percent sign and two hexadecimal digits.
-/
namespace MachineDescriptor.Yaml

/-- A tag with the handle that it begins with; a tag without a handle is given in full. -/
structure TagText where
  handle : Option (List Char)
  suffix : List Char

namespace TagText

open Reading

/-- The bytes of the escapes at the start of a text. -/
def escapedBytes : List Char → Except Fault (List UInt8)
  | '%' :: a :: b :: rest =>
    match Text.hexNumber? [a, b] with
    | some n => (escapedBytes rest).map (UInt8.ofNat n :: ·)
    | none => .error .malformed
  | '%' :: _ => .error .malformed
  | _ => .ok []

/-- Takes a run of escapes, which must stand for whole characters. -/
def escapes : Reading (List Char) := do
  let bytes ← escapedBytes (← get).rest
  skip (3 * bytes.length)
  match Text.Utf8.decode bytes with
  | .ok cs => pure cs
  | .error _ => fail

/-- The characters of a tag in at most so many steps. -/
def charsWithin : Nat → Reading (List Char)
  | 0 => pure []
  | fuel + 1 => do
    match ← peek with
    | none => pure []
    | some c =>
      if c = '%' then do
        let cs ← escapes
        pure (cs ++ (← charsWithin fuel))
      else if isTagChar c then do
        skip 1
        pure (c :: (← charsWithin fuel))
      else pure []

/-- The characters of a tag, of which there is at least one. -/
def chars : Reading (List Char) := do
  let cs ← charsWithin (← enough)
  if cs.isEmpty then fail else pure cs

/-- A handle: an exclamation mark alone, or a name between two of them. -/
def handleText : Reading (List Char) := do
  expectChar '!'
  if (← peek) = some ' ' then pure ['!']
  else
    let name ← takeWhile isNameChar
    expectChar '!'
    pure ('!' :: name ++ ['!'])

/-- Whether another exclamation mark stands in the word that starts here. -/
def hasHandle (c : Cursor) : Bool :=
  ((c.rest.drop 1).takeWhile fun x => !endsWord (some x)).contains '!'

/-- Reads a tag up to the blank after it. -/
def read : Reading TagText := do
  let second ← peekAt 1
  let tag ← if second = some '<' then do
      skip 2
      let suffix ← chars
      expectChar '>'
      pure ⟨none, suffix⟩
    else if endsToken second then do
      skip 1
      pure ⟨none, ['!']⟩
    else if hasHandle (← get) then do
      let handle ← handleText
      pure ⟨some handle, ← chars⟩
    else do
      skip 1
      pure ⟨some ['!'], ← chars⟩
  expect endsWord
  pure tag

end TagText
end MachineDescriptor.Yaml
