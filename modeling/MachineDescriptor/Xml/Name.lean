/-!
Names of elements and attributes, and texts of comments. A name is a seven-bit letter or underscore
followed by letters, digits, underscores, points and hyphens; one line feed may end it. A comment
holds no two hyphens side by side and does not end in one.
-/
namespace MachineDescriptor.Xml

def isLetter (c : Char) : Bool := ('a' ≤ c && c ≤ 'z') || ('A' ≤ c && c ≤ 'Z')

def isNameStart (c : Char) : Bool := isLetter c || c == '_'

def isNameChar (c : Char) : Bool :=
  isNameStart c || ('0' ≤ c && c ≤ '9') || c == '.' || c == '-'

/-- Whether a text goes on a name up to the end or up to one last line feed. -/
def isNameRest : List Char → Bool
  | [] => true
  | [c] => isNameChar c || c == '\n'
  | c :: rest => isNameChar c && isNameRest rest

/-- Whether a text may name an element or attribute. -/
def isName : List Char → Bool
  | [] => false
  | c :: rest => isNameStart c && isNameRest rest

/-- Whether two hyphens stand side by side. -/
def hasDoubleHyphen : List Char → Bool
  | '-' :: '-' :: _ => true
  | _ :: rest => hasDoubleHyphen rest
  | [] => false

/-- Whether a text may stand in a comment. -/
def isComment (cs : List Char) : Bool := !hasDoubleHyphen cs && cs.getLast? != some '-'

end MachineDescriptor.Xml
