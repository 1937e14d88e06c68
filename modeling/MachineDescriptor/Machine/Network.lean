import MachineDescriptor.Files.Tree

/-!
Networks and addresses of interfaces. Rules are tried in order: a rule without a colon names the
network of every interface, one with a colon that of the interface before it. The address of an
interface is what its file in the directory of interfaces says, as far as it can be read.
-/
namespace MachineDescriptor.Network

/-- The network of an interface for which there is no rule. -/
def fallback : List Char := ['d', 'e', 'f', 'a', 'u', 'l', 't']

/-- What a rule says about an interface. -/
def network? (interface rule : List Char) : Option (List Char) :=
  if rule.contains ':' then
    if (interface ++ [':']).isPrefixOf rule then some (rule.drop (interface.length + 1)) else none
  else some rule

/-- The network of an interface: that of the first rule that says one. -/
def ofInterface (rules : Option (List (List Char))) (interface : List Char) : List Char :=
  match rules with
  | none => fallback
  | some rules => (rules.findSome? (network? interface)).getD fallback

/-- The name of the file that holds an interface's address. -/
def addressFile : String := "address"

/-- Where the address of an interface stands below a directory; an interface that is itself a path
from the root leads away from the directory. -/
def addressPath (directory : Files.Path) (interface : String) : Files.Path :=
  (directory.join (Files.Path.ofString interface)).join ⟨.current, [addressFile]⟩

/-- An address from the bytes of its file: broken bytes are replaced, and one line feed at the end
is dropped. -/
def address (bytes : List UInt8) : List Char :=
  let text := Text.Utf8.decodeLossy bytes
  if text.getLast? = some '\n' then text.dropLast else text

end MachineDescriptor.Network
