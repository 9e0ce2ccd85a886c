import GuildWarden.Text.Utf8
import GuildWarden.Yaml.Node
import GuildWarden.Yaml.Scalar
import GuildWarden.Yaml.Scan

/-
  This file defines the value of a document: the values of its
  nodes, with the entries of merged maps in front of a map's
  own ones, and the reading of a document from octets.

  Key definitions include:
    * `Yaml.Node.scalarText?`
    * `Yaml.Node.value?`
    * `Yaml.readText?`
    * `Yaml.readFile?`
-/

namespace GuildWarden.Yaml

namespace Node

mutual

/- The text of a scalar, or of the default entry of a map. -/
def scalarText? : Node → Option String
  | .scalar _ s => some s
  | .map _ es => defaultText? es
  | _ => none

/- The text of the first default entry. -/
def defaultText? : List (Node × Node) → Option String
  | [] => none
  | (k, v) :: es =>
    if k.kind == .default then v.scalarText? else defaultText? es

end

/- The map of some entries; a later entry of a key wins. -/
def gather
    (es : List (Value × Value)) : List (Value × Value) :=
  es.foldl (fun acc e => Value.putEntry acc e.1 e.2) []

/- The entries of a list of maps with one entry each. -/
def asPairs
    (es : List (Value × Value)) : Value :=
  .list (es.map fun e => .pair e.1 e.2)

mutual

/- The value of a node; some nodes have none. -/
def value? : Node → Option Value
  | .loop ofMap => some (.loop ofMap)
  | .scalar kind s => readScalar? kind s
  | .list kind items =>
    match kind with
    | .list => (itemValues? items).map .list
    | .orderedMap => (pairValues? items).map asPairs
    | .pairs => (pairValues? items).map asPairs
    | _ => none
  | .map kind es =>
    match kind with
    | .map => (entryValues? es).map fun r => .map (gather (r.1 ++ r.2))
    | .set =>
      (entryValues? es).map fun r =>
        .set ((gather (r.1 ++ r.2)).map (·.1))
    | _ => (defaultText? es).bind (readScalar? kind)

/- The values of the items of a list. -/
def itemValues? : List Node → Option (List Value)
  | [] => some []
  | n :: ns => do
    let v ← n.value?
    let vs ← itemValues? ns
    return v :: vs

/- The entries of maps that hold one entry each. -/
def pairValues? : List Node → Option (List (Value × Value))
  | [] => some []
  | .map _ [(k, v)] :: ns => do
    let key ← k.value?
    let value ← v.value?
    let rest ← pairValues? ns
    return (key, value) :: rest
  | _ :: _ => none

/-
  The entries of a map: those of the maps that are merged into
  it, and its own.
-/
def entryValues? :
    List (Node × Node) →
      Option (List (Value × Value) × List (Value × Value))
  | [] => some ([], [])
  | (k, v) :: es => do
    if k.kind == .merge then
      let merged ← mergedValues? v
      let (others, own) ← entryValues? es
      return (merged ++ others, own)
    else
      let key ←
        if k.kind == .default then k.scalarText?.map .text else k.value?
      if !key.isKey then none
      let value ← v.value?
      let (others, own) ← entryValues? es
      return (others, (key, value) :: own)

/- The entries of a merged map, or of a list of such maps. -/
def mergedValues? : Node → Option (List (Value × Value))
  | .map _ es => (entryValues? es).map fun r => r.1 ++ r.2
  | .list _ items => mergedItems? items
  | .loop true => some []
  | _ => none

/- The entries of merged maps; those of the first map come last. -/
def mergedItems? : List Node → Option (List (Value × Value))
  | [] => some []
  | .map _ es :: ns => do
    let (others, own) ← entryValues? es
    let rest ← mergedItems? ns
    return rest ++ others ++ own
  | .loop true :: ns => mergedItems? ns
  | _ :: _ => none

end

end Node

/- The value of a document; an empty document is null. -/
def readText?
    (cs : List Char) : Option Value := do
  let tokens ← scan? cs
  match ← Node.ofTokens? tokens with
  | some root => root.value?
  | none => some .null

/- Every line end of a text file is read as a line feed. -/
def unifyLineEnds : List Char → List Char
  | [] => []
  | '\r' :: '\n' :: cs => '\n' :: unifyLineEnds cs
  | '\r' :: cs => '\n' :: unifyLineEnds cs
  | c :: cs => c :: unifyLineEnds cs

/- The value of a document in a file of UTF-8 text. -/
def readFile?
    (octets : List Nat) : Option Value := do
  readText? (unifyLineEnds (← Utf8.decodeStrict? octets))

end GuildWarden.Yaml
