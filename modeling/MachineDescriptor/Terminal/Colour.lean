import MachineDescriptor.Fault

/-!
Coloured text on a terminal. The colour is switched on in front of the text, every attribute in
front of what is there already, and everything is switched off at the end.
-/
namespace MachineDescriptor.Terminal

/-- The codes of the colours. -/
def colours : List (String × Nat) :=
  [("black", 30), ("grey", 30), ("red", 31), ("green", 32), ("yellow", 33), ("blue", 34),
    ("magenta", 35), ("cyan", 36), ("light_grey", 37), ("dark_grey", 90), ("light_red", 91),
    ("light_green", 92), ("light_yellow", 93), ("light_blue", 94), ("light_magenta", 95),
    ("light_cyan", 96), ("white", 97)]

/-- The codes of the attributes. -/
def attributes : List (String × Nat) :=
  [("bold", 1), ("dark", 2), ("italic", 3), ("underline", 4), ("blink", 5), ("reverse", 7),
    ("concealed", 8), ("strike", 9)]

/-- The sequence that switches on what a code stands for. -/
def switch (code : Nat) : List Char := ['\x1b', '['] ++ Nat.toDigits 10 code ++ ['m']

/-- The code of a name. -/
def codeOf (table : List (String × Nat)) (name : String) : Except Fault Nat :=
  match table.lookup name with
  | some code => .ok code
  | none => .error (.unknownStyle name)

/-- A text in a colour and with attributes; without a colour, or when colours are off, the text
itself. -/
def coloured (enable : Bool) (colour : Option String) (styles : List String) (text : List Char) :
    Except Fault (List Char) :=
  match colour with
  | none => .ok text
  | some name =>
    if !enable || name.isEmpty then .ok text
    else do
      let code ← codeOf colours name
      let text ← styles.foldlM
        (fun text style => do pure (switch (← codeOf attributes style) ++ text))
        (switch code ++ text)
      pure (text ++ switch 0)

end MachineDescriptor.Terminal
