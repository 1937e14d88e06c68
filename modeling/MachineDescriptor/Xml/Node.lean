/-!
XML documents as trees. A node is a comment or an element, and an element has attributes and either
nothing in it, a text, or other nodes. In the written form every node stands on a line of its own,
as far to the right as it lies deep in the tree, and a text stands on the line of its element. Texts
and the values of attributes are written character by character.
-/
namespace MachineDescriptor.Xml

/-- What is written for a character: five characters have an entity each, and any other one stands
for itself. -/
def entityOf (c : Char) : List Char :=
  if c = '<' then ['&', 'l', 't', ';']
  else if c = '>' then ['&', 'g', 't', ';']
  else if c = '&' then ['&', 'a', 'm', 'p', ';']
  else if c = '"' then ['&', 'q', 'u', 'o', 't', ';']
  else if c = '\'' then ['&', 'a', 'p', 'o', 's', ';']
  else [c]

/-- A comment, or an element with nothing, a text, or nodes in it. -/
inductive Node where
  | comment (text : String)
  | bare (name : String) (attributes : List (String × String))
  | labelled (name : String) (attributes : List (String × String)) (text : String)
  | parent (name : String) (attributes : List (String × String)) (children : List Node)

namespace Node

/-- An element with nodes in it if there are any. -/
def frame (name : String) (attributes : List (String × String)) (children : List Node) : Node :=
  if children.isEmpty then bare name attributes else parent name attributes children

/-- A text with entities in it. -/
def escaped (s : String) : String := String.ofList (s.toList.flatMap entityOf)

/-- The white space in front of a node at a depth. -/
def margin (indent : String) (depth : Nat) : String := String.join (List.replicate depth indent)

/-- The start tag up to its end, with the attributes in their order. -/
def startTag (name : String) (attributes : List (String × String)) : String :=
  "<" ++ name ++ String.join (attributes.map fun a => " " ++ a.1 ++ "=\"" ++ escaped a.2 ++ "\"")

mutual

/-- The written form of a node at a depth. -/
def render (indent : String) (depth : Nat) : Node → String
  | comment text => margin indent depth ++ "<!--" ++ text ++ "-->\n"
  | bare name attributes => margin indent depth ++ startTag name attributes ++ "/>\n"
  | labelled name attributes text =>
    margin indent depth ++ startTag name attributes ++ ">" ++ escaped text ++ "</" ++ name ++ ">\n"
  | parent name attributes children =>
    margin indent depth ++ startTag name attributes ++ ">\n" ++
      renderAll indent (depth + 1) children ++ margin indent depth ++ "</" ++ name ++ ">\n"

/-- The written forms of nodes at a depth, one after the other. -/
def renderAll (indent : String) (depth : Nat) : List Node → String
  | [] => ""
  | node :: rest => render indent depth node ++ renderAll indent depth rest

end

theorem renderAll_append (indent : String) (depth : Nat) (as bs : List Node) :
    renderAll indent depth (as ++ bs) =
      renderAll indent depth as ++ renderAll indent depth bs := by
  induction as with
  | nil => simp [renderAll]
  | cons a rest ih => simp [renderAll, ih, String.append_assoc]

end Node
end MachineDescriptor.Xml
