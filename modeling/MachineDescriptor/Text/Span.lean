/-!
Tables of code points: a property of characters is a list of closed ranges.
-/
namespace MachineDescriptor.Text

/-- The code points from the first number to the second, both included. -/
abbrev Span := Nat × Nat

/-- Whether some range of the table holds the code point. -/
def covers (table : List Span) (n : Nat) : Bool :=
  table.any fun span => span.1 ≤ n && n ≤ span.2

end MachineDescriptor.Text
