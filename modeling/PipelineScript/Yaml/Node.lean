/-
# YAML nodes

The value that a YAML text writes: a tree of scalars, sequences and
mappings, where a node may refer to another one by its anchor.  A reference
stays a reference, for it may stand inside of what it refers to.
-/
import PipelineScript.Yaml.Layout

namespace PipelineScript.Yaml

inductive Node where
  | scalar (anchor : Option Nat) (text : String) (style : Style) (tag : Option String)
  | sequence (anchor : Option Nat) (items : List Node)
  | mapping (anchor : Option Nat) (entries : List (Node × Node))
  | reference (anchor : Nat)
deriving Repr

/-- What stands where nothing is written. -/
def Node.empty : Node :=
  .scalar none "" .plain none

mutual

/-- The last node with an anchor, in the order in which nodes start. -/
def Node.anchored? (n : Nat) : Node → Option Node
  | .scalar a text style tag => if a == some n then some (.scalar a text style tag) else none
  | .sequence a items =>
    (anchoredInItems? n items).or (if a == some n then some (.sequence a items) else none)
  | .mapping a entries =>
    (anchoredInEntries? n entries).or (if a == some n then some (.mapping a entries) else none)
  | .reference _ => none

def anchoredInItems? (n : Nat) : List Node → Option Node
  | [] => none
  | item :: rest => (anchoredInItems? n rest).or (item.anchored? n)

def anchoredInEntries? (n : Nat) : List (Node × Node) → Option Node
  | [] => none
  | (key, value) :: rest =>
    ((anchoredInEntries? n rest).or (value.anchored? n)).or (key.anchored? n)

end

/-- Reading a node from tokens. -/
structure Reading where
  tokens : List Token
  /-- The number of each anchor, which is how many names were known when it
  was set. -/
  anchors : List (String × Nat) := []
  /-- What the tag handles stand for. -/
  handles : List (String × String) := [("!", "!"), ("!!", "tag:yaml.org,2002:")]

abbrev Grammar (α : Type) := StateT Reading Option α

namespace Grammar

/-- The next token; nothing at the end. -/
def peek : Grammar (Option Token) :=
  fun r => some (r.tokens.head?, r)

def skip : Grammar Unit :=
  fun r => some ((), { r with tokens := r.tokens.tail })

/-- Is the next token one of these? -/
def nextIn (ts : List Token) : Grammar Bool :=
  return (← peek).any ts.contains

/-- Skips the next token, which has to be this one. -/
def expect (t : Token) : Grammar Unit := do
  if ← nextIn [t] then skip else failure

/-! ## Names -/

/-- Sets an anchor. -/
def setAnchor (name : String) : Grammar Nat :=
  fun r =>
    let n := r.anchors.length
    some (n, { r with anchors := (name, n) :: r.anchors.filter (·.1 != name) })

/-- The number of an anchor that was set. -/
def anchorNumber (name : String) : Grammar Nat :=
  fun r => (r.anchors.lookup name).map fun n => (n, r)

/-- A tag in full. -/
def fullTag (handle suffix : String) : Grammar String :=
  fun r =>
    if handle.isEmpty then some (suffix, r)
    else (r.handles.lookup handle).map fun stem => (stem ++ suffix, r)

def anchor? : Grammar (Option Nat) := do
  match ← peek with
  | some (.anchor name) => skip; return some (← setAnchor name)
  | _ => return none

def tag? : Grammar (Option String) := do
  match ← peek with
  | some (.tag handle suffix) => skip; return some (← fullTag handle suffix)
  | _ => return none

/-- The anchor and the tag of a node, in either order. -/
def properties : Grammar (Option Nat × Option String) := do
  match ← anchor? with
  | some a => return (some a, ← tag?)
  | none =>
    match ← tag? with
    | some t => return (← anchor?, some t)
    | none => return (none, none)

/-- What stands behind a mark: nothing if one of these tokens follows. -/
def orEmpty (ends : List Token) (read : Grammar Node) : Grammar Node := do
  if ← nextIn ends then return .empty else read

/-! ## Nodes -/

/-- Where a node stands, which decides how it may be written. -/
inductive Site where
  /-- Between brackets. -/
  | flow
  /-- In a block. -/
  | block
  /-- Behind a key of a block, where the items of a sequence need not be
  indented. -/
  | entry
deriving DecidableEq

mutual

def node (site : Site) : Nat → Grammar Node
  | 0 => failure
  | fuel + 1 => do
    if let some (.reference name) ← peek then
      skip
      return .reference (← anchorNumber name)
    let (anchor, tag) ← properties
    let bare : Grammar Node :=
      if anchor.isSome || tag.isSome then return .scalar anchor "" .plain tag else failure
    match ← peek with
    | some (.scalar text style) =>
      skip
      return .scalar anchor text style tag
    | some .flowSequence => skip; return .sequence anchor (← flowItems true fuel)
    | some .flowMapping => skip; return .mapping anchor (← flowEntries true fuel)
    | some .blockEntry =>
      if site == .entry then return .sequence anchor (← looseItems fuel) else bare
    | some .blockSequence =>
      if site == .flow then bare else skip; return .sequence anchor (← blockItems fuel)
    | some .blockMapping =>
      if site == .flow then bare else skip; return .mapping anchor (← blockEntries fuel)
    | _ => bare

/-- The items of a sequence in a block of its own. -/
def blockItems : Nat → Grammar (List Node)
  | 0 => failure
  | fuel + 1 => do
    if ← nextIn [.blockEnd] then
      skip
      return []
    expect .blockEntry
    let item ← orEmpty [.blockEntry, .blockEnd] (node .block fuel)
    return item :: (← blockItems fuel)

/-- The items of a sequence that stands in the block around it. -/
def looseItems : Nat → Grammar (List Node)
  | 0 => failure
  | fuel + 1 => do
    if !(← nextIn [.blockEntry]) then return []
    skip
    let item ← orEmpty [.blockEntry, .key, .value, .blockEnd] (node .block fuel)
    return item :: (← looseItems fuel)

def blockEntries : Nat → Grammar (List (Node × Node))
  | 0 => failure
  | fuel + 1 => do
    if ← nextIn [.blockEnd] then
      skip
      return []
    expect .key
    let part := orEmpty [.key, .value, .blockEnd] (node .entry fuel)
    let key ← part
    let value ← if ← nextIn [.value] then (do skip; part) else pure .empty
    return (key, value) :: (← blockEntries fuel)

/-- The items of a sequence between brackets.  Behind a question mark, or
in front of a colon, an item is a mapping of one entry.  A question mark
with no key behind it takes the token that stands there. -/
def flowItems (first : Bool) : Nat → Grammar (List Node)
  | 0 => failure
  | fuel + 1 => do
    if !(first || (← nextIn [.flowSequenceEnd])) then expect .flowEntry
    if ← nextIn [.flowSequenceEnd] then
      skip
      return []
    let item ←
      if ← nextIn [.key] then (do
        skip
        let ends := [.flowEntry, .flowSequenceEnd]
        let key ← if ← nextIn (.value :: ends) then (do skip; pure .empty) else node .flow fuel
        let value ← if ← nextIn [.value] then (do skip; orEmpty ends (node .flow fuel))
          else pure .empty
        return .mapping none [(key, value)])
      else node .flow fuel
    return item :: (← flowItems false fuel)

def flowEntries (first : Bool) : Nat → Grammar (List (Node × Node))
  | 0 => failure
  | fuel + 1 => do
    if !(first || (← nextIn [.flowMappingEnd])) then expect .flowEntry
    if ← nextIn [.flowMappingEnd] then
      skip
      return []
    let ends := [.flowEntry, .flowMappingEnd]
    if ← nextIn [.key] then
      skip
      let key ← orEmpty (.value :: ends) (node .flow fuel)
      let value ← if ← nextIn [.value] then (do skip; orEmpty ends (node .flow fuel))
        else pure .empty
      return (key, value) :: (← flowEntries false fuel)
    else
      let key ← node .flow fuel
      return (key, .empty) :: (← flowEntries false fuel)

end

/-! ## Documents -/

/-- Reads the directives of a document: at most one version, which has to
be 1.1 or 1.2, and at most one meaning for each handle. -/
def directives (version : Bool) (handles : List (String × String)) : Nat → Grammar Unit
  | 0 => failure
  | fuel + 1 => do
    match ← peek with
    | some (.version major minor) =>
      if version || major != 1 || (minor != 1 && minor != 2) then failure
      skip
      directives true handles fuel
    | some (.handle name stem) =>
      if (handles.lookup name).isSome then failure
      skip
      directives version ((name, stem) :: handles) fuel
    | _ => modify fun r => { r with handles := handles ++ r.handles }

def isDirective : Token → Bool
  | .version _ _ => true
  | .handle _ _ => true
  | _ => false

/-- Reads the document of a text, if it holds one, and what may stand
behind it. -/
def document (fuel : Nat) : Grammar (Option Node) := do
  match ← peek with
  | none => return none
  | some t =>
    let root ←
      if isDirective t || t == .documentStart then (do
        directives false [] fuel
        expect .documentStart
        match ← peek with
        | none => pure .empty
        | some t =>
          if isDirective t || t == .documentStart || t == .documentEnd then pure .empty
          else node .block fuel)
      else node .block fuel
    let rest := (← get).tokens
    if rest.all (· == .documentEnd) then return some root else failure

end Grammar

/-- What a YAML text holds. -/
structure Document where
  /-- Its node; none if the text holds but blanks and comments. -/
  root : Option Node
deriving Repr

/-- Reads a text that holds at most one document. -/
def Document.ofText? (text : String) : Option Document := do
  let tokens ← tokens? text
  let (root, _) ← (Grammar.document (3 * tokens.length + 3)).run { tokens }
  return ⟨root⟩

/-- A node itself, or the node that it refers to. -/
def Document.resolve? (d : Document) : Node → Option Node
  | .reference n => d.root.bind (·.anchored? n)
  | node => some node

end PipelineScript.Yaml
