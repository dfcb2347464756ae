import Sluice.Text.Base64
import Sluice.Value.Key
import Sluice.Yaml.Node
import Sluice.Yaml.Plain

/-!
# From YAML to values

The value of a YAML text. The kind of a node is said by its tag or, when it has none, by its form; a
tag that asks for what the node is not, or for an unknown kind, makes the text malformed. A mapping
takes over the pairs of those it is merged with, its own counting more; of equal keys the last one
counts, and a key must be one that values can be found under.
-/

namespace Sluice.Yaml

/-- Why a text has no value. -/
inductive Fault where
  | malformed
  | outside (f : Failure)
  deriving Repr

abbrev Read (α : Type) := Except Fault α

private def lift {α : Type} : Except Failure α → Read α
  | .ok a => .ok a
  | .error f => .error (.outside f)

private def orMalformed {α : Type} : Option α → Read α
  | some a => .ok a
  | none => .error .malformed

/-! ## 1. Merging -/

/-- The characters of a text; a text with half a pair has the form of no other kind. -/
def charsOf (text : Text) : List Char := text.chars?.getD ['"']

/-- The kind of a node. -/
def Node.kind : Node → Kind
  | .scalar (some tag) _ _ => .ofTag tag
  | .scalar none text true => .ofPlain (charsOf text)
  | .scalar none _ false => .str
  | .sequence (some tag) _ => .ofTag tag
  | .sequence none _ => .seq
  | .mapping (some tag) _ => .ofTag tag
  | .mapping none _ => .map

namespace Node

mutual

/-- The pairs that a mapping takes over from a node. -/
def merged? : Node → Option (List (Node × Node))
  | .mapping _ pairs => (split? pairs).map fun (taken, own) => taken ++ own
  | .sequence _ items => mergedAll? items
  | .scalar .. => none

/-- The pairs that a mapping takes over from several mappings, those of the first one last. -/
def mergedAll? : List Node → Option (List (Node × Node))
  | [] => some []
  | .mapping tag? pairs :: rest =>
    match merged? (.mapping tag? pairs), mergedAll? rest with
    | some taken, some others => some (others ++ taken)
    | _, _ => none
  | _ => none

/-- The pairs that are taken over, and those that are a mapping's own. -/
def split? : List (Node × Node) → Option (List (Node × Node) × List (Node × Node))
  | [] => some ([], [])
  | (k, v) :: rest =>
    match split? rest with
    | none => none
    | some (taken, own) =>
      if k.kind = .merge then (merged? v).map fun more => (more ++ taken, own)
      else some (taken, (k, v) :: own)

end

/-- The pairs of a mapping with those that it takes over in front. -/
def allPairs? (pairs : List (Node × Node)) : Option (List (Node × Node)) :=
  (split? pairs).map fun (taken, own) => taken ++ own

end Node

/-! ## 2. Values -/

/-- The value of a scalar. -/
def scalarValue (kind : Kind) (text : Text) : Read Value :=
  let cs := charsOf text
  match kind with
  | .null => .ok .null
  | .bool =>
    let lower := cs.map Char.toLower
    match boolWords.find? fun (w, _) => w.toList == lower with
    | some (_, b) => .ok (.bool b)
    | none => .error (.outside (.outside "KeyError" (Text.quoted (lower.map .char))))
  | .int => (lift (intValue cs)).map .int
  | .float => (lift (floatValue cs)).map .float
  | .timestamp =>
    match stamp? cs with
    | some s => lift (stampValue s)
    | none =>
      .error (.outside (.outside "AttributeError" "'NoneType' object has no attribute 'groupdict'"))
  | .str => .ok (.text text)
  | .binary =>
    if cs.all fun c => c.toNat < 128 then
      (orMalformed (Base64.decode? (cs.map Char.toNat))).map .bytes
    else .error .malformed
  | _ => .error .malformed

/-- The pair of a mapping that holds a single one. -/
def onlyPair? : Node → Option (Node × Node)
  | .mapping _ [pair] => some pair
  | _ => none

/-- A key that values can be found under. -/
def keyValue (v : Value) : Read Value := if v.unusable?.isSome then .error .malformed else .ok v

/-- The value of a node; `fuel` bounds the depth. -/
def Node.value : Nat → Node → Read Value
  | 0, _ => .error .malformed
  | fuel + 1, n =>
    match n, n.kind with
    | .scalar _ text _, kind => scalarValue kind text
    | .sequence _ items, .seq => (items.mapM (Node.value fuel)).map .list
    | .sequence _ items, kind =>
      if kind = .omap ∨ kind = .pairs then
        (items.mapM fun item => do
          let (k, v) ← orMalformed (onlyPair? item)
          let k ← Node.value fuel k
          let v ← Node.value fuel v
          return Value.tuple [k, v]).map .list
      else .error .malformed
    | .mapping _ pairs, kind =>
      if kind = .map ∨ kind = .set then do
        let all ← orMalformed (Node.allPairs? pairs)
        let entries ← all.mapM fun (k, v) => do
          let key ← match k with
            | .scalar _ text _ =>
              if k.kind = .value then pure (Value.text text) else Node.value fuel k
            | k => Node.value fuel k
          let key ← keyValue key
          return (key, ← Node.value fuel v)
        let mapping := Value.mappingOf entries
        return if kind = .set then .set (mapping.map (·.1)) else .mapping mapping
      else .error .malformed

/-- The value of a text; a text without a document has none but null. -/
def read (cs : List Char) : Read Value :=
  match document? cs with
  | none => .error .malformed
  | some none => .ok .null
  | some (some n) => n.value (cs.length + 8)

end Sluice.Yaml
