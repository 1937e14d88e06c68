import MachineDescriptor.Value.Basic

/-!
From built nodes to values. What a node is built into names its members by their numbers. A node
from which no way leads round becomes a plain value, made once however often it is a member; all
other collections become one web.
-/
namespace MachineDescriptor.Yaml

/-- What a node is built into: a value, or a collection of members that are named by their
numbers. -/
inductive Built where
  | leaf (v : Value)
  | list (members : List Nat)
  | tuple (members : List Nat)
  | dict (entries : List (Value × Nat))

/-- The nodes that were met, and the values of those that are known to be plain, by their
numbers. -/
structure Assembly where
  met : Array Bool
  values : Array (Option Value)

namespace Assembly

abbrev Assembling := StateM Assembly

/-- The value of a node, if it is plain. A node that is met again while its members are gone through
is not: some way leads from it back to it. The fuel bounds how deep collections stand in one
another. -/
def plain (built : Array Built) : Nat → Nat → Assembling (Option Value)
  | 0, _ => pure none
  | fuel + 1, number => do
    if ((← get).met[number]?).getD true then return ((← get).values[number]?).join
    modify fun s => { s with met := s.met.modify number fun _ => true }
    let members (numbers : List Nat) : Assembling (Option (List Value)) := do
      return (← numbers.mapM (plain built fuel)).mapM id
    let value ← match built[number]? with
      | none => pure none
      | some (.leaf v) => pure (some v)
      | some (.list numbers) => do return (← members numbers).map .list
      | some (.tuple numbers) => do return (← members numbers).map .tuple
      | some (.dict entries) => do
        let vs ← members (entries.map Prod.snd)
        pure (vs.map fun vs => .dict ((entries.map Prod.fst).zip vs))
    modify fun s => { s with values := s.values.modify number fun _ => value }
    pure value

/-- The numbers of the nodes that were met and are not plain. -/
def woven (s : Assembly) : List Nat :=
  (List.range s.met.size).filter fun n =>
    (s.met[n]?).getD false && ((s.values[n]?).join).isNone

/-- The collections that are not plain, in the order of their numbers. -/
def web (s : Assembly) (built : Array Built) : List Value :=
  let numbers := s.woven
  let member (n : Nat) : Value := ((s.values[n]?).join).getD (.inner (numbers.idxOf n))
  numbers.map fun (n : Nat) =>
    match built[n]? with
    | some (.list members) => .list (members.map member)
    | some (.tuple members) => .tuple (members.map member)
    | some (.dict entries) => .dict (entries.map fun e => (e.1, member e.2))
    | _ => .null

end Assembly

/-- The value of a node among others. -/
def Built.value (built : Array Built) (root : Nat) : Value :=
  let start : Assembly := ⟨built.map fun _ => false, built.map fun _ => none⟩
  let (v, s) := (Assembly.plain built (built.size + 1) root).run start
  v.getD (.woven (s.web built) (s.woven.idxOf root))

end MachineDescriptor.Yaml
