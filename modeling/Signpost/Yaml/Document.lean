import Signpost.Yaml.Plain

/-!
# Configuration texts

`read` gives the value of a configuration text. A mapping gives an object; of equal names the last
counts, and entries whose key is no text are let go once they have been read. A mapping may take
over the entries of others, which its own come before.
-/
namespace Signpost.Yaml

/-- The tag of a node. -/
def Node.tag : Node → Tag
  | scalar (some tag) _ _ => tag
  | scalar none plain text => if plain then tagOf text.toList else .text
  | sequence tag _ => tag
  | mapping tag _ => tag

/-- The pairs of a mapping with those that it takes over in front; the fuel bounds how many mappings
are taken over through each other. -/
def merged : Nat → List (Node × Node) → Except Fault (List (Node × Node))
  | 0, _ => .error .malformed
  | fuel + 1, pairs => do
    let taken ← (pairs.filter (·.1.tag == .merge)).mapM fun pair => ofNode fuel pair.2
    return taken.flatten ++ pairs.filter (·.1.tag != .merge)
where
  /-- The pairs of a mapping, or of several, the last first. -/
  ofNode (fuel : Nat) : Node → Except Fault (List (Node × Node))
    | .mapping _ pairs => merged fuel pairs
    | .sequence _ items => do
      let parts ← items.mapM fun item =>
        match item with
        | .mapping _ pairs => merged fuel pairs
        | _ => .error .malformed
      return parts.reverse.flatten
    | _ => .error .malformed

/-- A key of a mapping. The sign of a default is a plain text here. -/
def keyValue (key : Node) (value : Except Fault Value) : Except Fault Value :=
  match key with
  | .scalar _ _ text => if key.tag == .default then .ok (.text text) else value
  | _ => .error .malformed

/-- The text of a scalar, or of the default of a mapping. -/
def textOf : Nat → Node → Except Fault String
  | 0, _ => .error .malformed
  | fuel + 1, node =>
    match node with
    | .scalar _ _ text => .ok text
    | .mapping _ pairs =>
      match pairs.find? (·.1.tag == .default) with
      | some pair => textOf fuel pair.2
      | none => .error .malformed
    | .sequence _ _ => .error .malformed

/-- An entry put into an object. -/
def putEntry (fields : List (String × Value)) (entry : Value × Value) : List (String × Value) :=
  match entry.1 with
  | .text name => Value.setField fields name entry.2
  | _ => fields

/-- The value of a node; the fuel bounds its depth. -/
def valueOf : Nat → Node → Except Fault Value
  | 0, _ => .error .malformed
  | fuel + 1, node => do
    let entries (pairs : List (Node × Node)) : Except Fault (List (Value × Value)) :=
      pairs.mapM fun pair => do
        return (← keyValue pair.1 (valueOf fuel pair.1), ← valueOf fuel pair.2)
    match node.tag, node with
    | .sequence, .sequence _ items => return .list (← items.mapM (valueOf fuel))
    | .mapping, .mapping _ pairs =>
      return .object ((← entries (← merged fuel pairs)).foldl putEntry [])
    | .set, .mapping _ pairs => return .list ((← entries (← merged fuel pairs)).map (·.1))
    | .ordered, .sequence _ items | .pairs, .sequence _ items =>
      let pairs ← items.mapM fun item =>
        match item with
        | .mapping _ [pair] => do return Value.list [← valueOf fuel pair.1, ← valueOf fuel pair.2]
        | _ => .error .malformed
      return .list pairs
    | tag, _ => scalarValue tag (← textOf fuel node).toList

mutual

/-- The number of nodes in a tree. -/
def Node.size : Node → Nat
  | .scalar _ _ _ => 1
  | .sequence _ items => sizeOfItems items + 1
  | .mapping _ pairs => sizeOfPairs pairs + 1

/-- The number of nodes in items. -/
def sizeOfItems : List Node → Nat
  | [] => 0
  | item :: rest => item.size + sizeOfItems rest

/-- The number of nodes in pairs. -/
def sizeOfPairs : List (Node × Node) → Nat
  | [] => 0
  | (key, value) :: rest => key.size + value.size + sizeOfPairs rest

end

/-- The value of a configuration text; a text without a document has the null value. -/
def read (text : String) : Except Fault Value := do
  match ← Node.ofText text.toList with
  | none => return .null
  | some root => valueOf (root.size + 1) root

end Signpost.Yaml
