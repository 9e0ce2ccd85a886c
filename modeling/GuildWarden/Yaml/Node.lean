import GuildWarden.Yaml.Kind
import GuildWarden.Yaml.Token

/-
  This file defines the nodes of a document and how its tokens
  form them. A name given to a node stands for it later on; a
  document has exactly one root.

  Key definitions include:
    * `Yaml.Node`
    * `Yaml.Node.kind`
    * `Yaml.Node.ofTokens?`
-/

namespace GuildWarden.Yaml

/-
  A node. A reference to a list or a map from inside itself is
  a loop.
-/
inductive Node where
  | scalar (kind : Kind) (text : String)
  | list (kind : Kind) (items : List Node)
  | map (kind : Kind) (entries : List (Node × Node))
  | loop (ofMap : Bool)
deriving Repr, Inhabited

namespace Node

/- The kind of a node. -/
def kind : Node → Kind
  | .scalar k _ => k
  | .list k _ => k
  | .map k _ => k
  | .loop true => .map
  | .loop false => .list

/- A scalar that is not written at all. -/
def absent : Node :=
  .scalar .null ""

end Node

------------------------------------------------------------
-- Reading tokens
------------------------------------------------------------

/-
  What is left of the tokens, the nodes that have names, and
  the beginnings of tags that handles stand for.
-/
structure Reading where
  tokens : List Token
  names : List (String × Node)
  handles : List (String × String)

/- A step that reads tokens and may fail. -/
abbrev Read :=
  StateT Reading Option

namespace Read

/- A failure. -/
def refuse
    {α : Type} : Read α :=
  fun _ => none

/- The token at hand. -/
def peek : Read Token := do
  return (← get).tokens.headD .streamEnd

/- Pass the token at hand. -/
def skip : Read Unit :=
  modify fun r => { r with tokens := r.tokens.drop 1 }

/- Pass a token that has to be at hand. -/
def expect
    (t : Token) : Read Unit := do
  if (← peek) == t then skip else refuse

/- Whether one of some tokens is at hand. -/
def at?
    (ts : List Token) : Read Bool := do
  return ts.contains (← peek)

/- Give a node a name; what the name stood for before is hidden. -/
def name
    (n? : Option String)
    (node : Node) : Read Unit :=
  match n? with
  | none => pure ()
  | some n => modify fun r => { r with names := (n, node) :: r.names }

/- The node of a name. -/
def named
    (n : String) : Read Node := do
  match (← get).names.lookup n with
  | some node => return node
  | none => refuse

/- Names and tags in front of a node. -/
structure Properties where
  name : Option String
  tag : Option String

/- A full tag from its handle and suffix. -/
def fullTag
    (handle : Option String)
    (suffix : String) : Read String := do
  match handle with
  | none => return suffix
  | some h =>
    match (← get).handles.lookup h with
    | some lead => return lead ++ suffix
    | none => refuse

/- The tag at hand. -/
def tag? : Read (Option String) := do
  match ← peek with
  | .tag handle suffix =>
    skip
    return some (← fullTag handle suffix)
  | _ => return none

/- The name at hand. -/
def name? : Read (Option String) := do
  match ← peek with
  | .anchor n =>
    skip
    return some n
  | _ => return none

/- A name and a tag in either order; no two nodes share a name. -/
def properties : Read Properties := do
  let first ← name?
  let tag ← tag?
  let second ← if first.isSome || tag.isNone then pure none else name?
  let name := first.or second
  match name with
  | some n =>
    if ((← get).names.lookup n).isSome then refuse
  | none => pure ()
  return ⟨name, tag⟩

/- The kind of a list or a map with the given tag. -/
def Properties.collectionKind
    (p : Properties)
    (usual : Kind) : Kind :=
  match p.tag with
  | none => usual
  | some t => if t = "!" then usual else Kind.ofTag t

/- The kind of a scalar with the given tag. -/
def Properties.scalarKind
    (p : Properties)
    (text : String)
    (plain : Bool) : Kind :=
  match p.tag with
  | none => if plain then Kind.ofScalar text else .text
  | some t => if t = "!" then Kind.ofScalar text else Kind.ofTag t

/- Read with a name that stands for a loop until the node is finished. -/
def withName
    (p : Properties)
    (ofMap : Bool)
    (read : Read Node) : Read Node := do
  name p.name (.loop ofMap)
  let node ← read
  name p.name node
  return node

mutual

/-
  A node. Only in a block can lists and maps be written by
  indentation, and only after a key or its value can a list
  do without.
-/
def node : (fuel : Nat) → (block entries : Bool) → Read Node
  | 0, _, _ => refuse
  | fuel + 1, block, entries => do
    match ← peek with
    | .alias n =>
      skip
      named n
    | _ =>
      let p ← properties
      match ← peek with
      | .entry =>
        if entries then
          withName p false do
            return .list (p.collectionKind .list)
              (← looseEntries fuel [])
        else empty p
      | .scalar text plain =>
        skip
        let node := Node.scalar (p.scalarKind text plain) text
        name p.name node
        return node
      | .flowListStart =>
        skip
        withName p false do
          return .list (p.collectionKind .list)
            (← flowItems fuel true [])
      | .flowMapStart =>
        skip
        withName p true do
          return .map (p.collectionKind .map)
            (← flowEntries fuel true [])
      | .blockListStart =>
        if block then
          skip
          withName p false do
            return .list (p.collectionKind .list)
              (← blockItems fuel [])
        else empty p
      | .blockMapStart =>
        if block then
          skip
          withName p true do
            return .map (p.collectionKind .map)
              (← blockEntries fuel [])
        else empty p
      | _ => empty p

/- A node with properties may be left out. -/
def empty
    (p : Properties) : Read Node := do
  if p.name.isNone && p.tag.isNone then refuse
  else
    let node := Node.scalar (p.scalarKind "" true) ""
    name p.name node
    return node

/- A node that is absent before one of some tokens. -/
def nodeUnless :
    (fuel : Nat) → (block entries : Bool) → List Token → Read Node
  | 0, _, _, _ => refuse
  | fuel + 1, block, entries, stops => do
    if ← at? stops then return Node.absent
    else node fuel block entries

/- The items of a list in a block. -/
def blockItems : (fuel : Nat) → List Node → Read (List Node)
  | 0, _ => refuse
  | fuel + 1, acc => do
    match ← peek with
    | .entry =>
      skip
      let item ← nodeUnless fuel true false [.entry, .blockEnd]
      blockItems fuel (item :: acc)
    | _ =>
      expect .blockEnd
      return acc.reverse

/- The items of a list that is not indented. -/
def looseEntries : (fuel : Nat) → List Node → Read (List Node)
  | 0, _ => refuse
  | fuel + 1, acc => do
    match ← peek with
    | .entry =>
      skip
      let item ←
        nodeUnless fuel true false [.entry, .key, .value, .blockEnd]
      looseEntries fuel (item :: acc)
    | _ => return acc.reverse

/- The entries of a map in a block. -/
def blockEntries :
    (fuel : Nat) → List (Node × Node) → Read (List (Node × Node))
  | 0, _ => refuse
  | fuel + 1, acc => do
    match ← peek with
    | .key =>
      skip
      let key ← nodeUnless fuel true true [.key, .value, .blockEnd]
      match ← peek with
      | .value =>
        skip
        let value ← nodeUnless fuel true true [.key, .value, .blockEnd]
        blockEntries fuel ((key, value) :: acc)
      | _ => blockEntries fuel ((key, Node.absent) :: acc)
    | _ =>
      expect .blockEnd
      return acc.reverse

/- A key without brackets in a list makes a map of one entry. -/
def flowItem : (fuel : Nat) → Read Node
  | 0 => refuse
  | fuel + 1 => do
    match ← peek with
    | .key =>
      skip
      let key ←
        nodeUnless fuel false false [.value, .flowEntry, .flowListEnd]
      match ← peek with
      | .value =>
        skip
        let value ←
          nodeUnless fuel false false [.flowEntry, .flowListEnd]
        return .map .map [(key, value)]
      | _ => return .map .map [(key, Node.absent)]
    | _ => node fuel false false

/- The items of a list in brackets. -/
def flowItems :
    (fuel : Nat) → (first : Bool) → List Node → Read (List Node)
  | 0, _, _ => refuse
  | fuel + 1, first, acc => do
    if ← at? [.flowListEnd] then
      skip
      return acc.reverse
    else
      if !first then expect .flowEntry
      if ← at? [.flowListEnd] then
        skip
        return acc.reverse
      else
        let item ← flowItem fuel
        flowItems fuel false (item :: acc)

/- An entry of a map in brackets; its value may be left out. -/
def flowEntry : (fuel : Nat) → Read (Node × Node)
  | 0 => refuse
  | fuel + 1 => do
    match ← peek with
    | .key =>
      skip
      let key ←
        nodeUnless fuel false false [.value, .flowEntry, .flowMapEnd]
      match ← peek with
      | .value =>
        skip
        let value ←
          nodeUnless fuel false false [.flowEntry, .flowMapEnd]
        return (key, value)
      | _ => return (key, Node.absent)
    | _ =>
      let key ← node fuel false false
      return (key, Node.absent)

/- The entries of a map in brackets. -/
def flowEntries :
    (fuel : Nat) → (first : Bool) → List (Node × Node) →
      Read (List (Node × Node))
  | 0, _, _ => refuse
  | fuel + 1, first, acc => do
    if ← at? [.flowMapEnd] then
      skip
      return acc.reverse
    else
      if !first then expect .flowEntry
      if ← at? [.flowMapEnd] then
        skip
        return acc.reverse
      else
        let e ← flowEntry fuel
        flowEntries fuel false (e :: acc)

end

------------------------------------------------------------
-- Documents
------------------------------------------------------------

/- The handles that need no directive. -/
def usualHandles : List (String × String) :=
  [("!", "!"), ("!!", Kind.tagLead)]

/-
  The directives of a document. One version and one rule for
  each handle may be given; the major version is 1.
-/
def directives :
    (fuel : Nat) → (versioned : Bool) → List (String × String) →
      Read (List (String × String))
  | 0, _, _ => refuse
  | fuel + 1, versioned, rules => do
    match ← peek with
    | .versionDirective major =>
      if versioned || major != 1 then refuse
      else
        skip
        directives fuel true rules
    | .tagDirective handle lead =>
      if (rules.lookup handle).isSome then refuse
      else
        skip
        directives fuel versioned ((handle, lead) :: rules)
    | .otherDirective =>
      skip
      directives fuel versioned rules
    | _ => return rules

/- Whether a document starts with a directive or a mark. -/
def isExplicit : Token → Bool
  | .versionDirective _ => true
  | .tagDirective _ _ => true
  | .otherDirective => true
  | .documentStart => true
  | _ => false

/- Pass the marks at the end of a document. -/
def documentEnds : Read Unit :=
  modify fun r =>
    { r with tokens := r.tokens.dropWhile (· == .documentEnd) }

/- The root of the only document, if there is one. -/
def root
    (fuel : Nat) : Read (Option Node) := do
  let t ← peek
  if t == .streamEnd then return none
  let found ←
    if isExplicit t then do
      let rules ← directives fuel false []
      modify fun r => { r with handles := rules ++ usualHandles }
      expect .documentStart
      let t ← peek
      if isExplicit t || t == .documentEnd || t == .streamEnd then
        pure Node.absent
      else node fuel true false
    else node fuel true false
  documentEnds
  expect .streamEnd
  return some found

end Read

/-
  The root that tokens form, if there is any; the outer
  `none` is a failure.
-/
def Node.ofTokens?
    (ts : List Token) : Option (Option Node) :=
  (Read.root (4 * ts.length + 8) ⟨ts, [], Read.usualHandles⟩).map (·.1)

end GuildWarden.Yaml
