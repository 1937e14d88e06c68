import MachineDescriptor.Value.Text

/-!
Escapes of XML text. Five characters are written as entities, so that the result may stand between
tags and between either kind of quotes. The ampersand is replaced first, and no later replacement
meets it again.
-/
namespace MachineDescriptor.Xml

/-- A text with every occurrence of a character replaced. -/
def substitute (c : Char) (entity : List Char) (cs : List Char) : List Char :=
  cs.flatMap fun x => if x = c then entity else [x]

/-- The characters that are escaped with their entities, in the order in which they are
replaced. -/
def entities : List (Char × List Char) :=
  [('&', ['&', 'a', 'm', 'p', ';']), ('>', ['&', 'g', 't', ';']), ('<', ['&', 'l', 't', ';']),
    ('\'', ['&', 'a', 'p', 'o', 's', ';']), ('"', ['&', 'q', 'u', 'o', 't', ';'])]

/-- A text with its special characters replaced one after the other. -/
def escape (cs : List Char) : List Char :=
  entities.foldl (fun text e => substitute e.1 e.2 text) cs

/-- The escaped text of a value. -/
def escapeValue (v : Value) : Except Integer.Fault (List Char) := v.written.map escape

example : escape ['a', '<', '&'] = ['a', '&', 'l', 't', ';', '&', 'a', 'm', 'p', ';'] := by decide

end MachineDescriptor.Xml
