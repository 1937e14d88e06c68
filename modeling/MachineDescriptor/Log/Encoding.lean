/-!
Which encodings of a terminal can write the symbols of log lines.
-/
namespace MachineDescriptor.Log

/-- The name of an encoding brought to one form, after the characters read so far, the last one
first: letters and digits in lower case, with one underscore for whatever stands between them. -/
def encodingNameAfter (begun : List Char) (gap : Bool) : List Char → List Char
  | [] => begun.reverse
  | c :: rest =>
    if c.isAlphanum || c == '.' then
      let begun := if gap && !begun.isEmpty then '_' :: begun else begun
      encodingNameAfter (c.toLower :: begun) false rest
    else encodingNameAfter begun true rest

def encodingName (s : String) : String := String.ofList (encodingNameAfter [] false s.toList)

/-- The encodings that hold every character. -/
def fullEncodings : List String :=
  ["cp65001", "gb18030", "gb18030_2000", "idna", "punycode", "raw_unicode_escape", "u16", "u32",
    "u7", "u8", "unicode_1_1_utf_7", "unicode_escape", "unicodebigunmarked",
    "unicodelittleunmarked", "utf", "utf16", "utf32", "utf7", "utf8", "utf8_ucs2", "utf8_ucs4",
    "utf_16", "utf_16_be", "utf_16_le", "utf_16be", "utf_16le", "utf_32", "utf_32_be",
    "utf_32_le", "utf_32be", "utf_32le", "utf_7", "utf_8", "utf_8_sig"]

/-- Whether symbols can be written in an encoding; where none is known they can. -/
def writesSymbols (encoding : Option String) : Bool :=
  match encoding with
  | none => true
  | some s => s.isEmpty || fullEncodings.contains (encodingName s)

end MachineDescriptor.Log
