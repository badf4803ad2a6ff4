/-
# JSON values

The one dynamic type of the library: node configurations are JSON and pass
through untouched.  A number is either a 64-bit integer, signed or
unsigned, or a double.  The entries of an object are kept in the byte order of their
keys, each key once: `Entries.put` keeps that order and `canonical`
establishes it.
-/
import PipelineScript.Number.Binary64

namespace PipelineScript

inductive Json where
  | null
  | bool (b : Bool)
  | int (n : Int)
  | real (x : Number.Binary64)
  | str (s : String)
  | arr (items : List Json)
  | obj (entries : List (String × Json))
deriving Repr, Inhabited, BEq

namespace Json

/-- The entries of an object. -/
abbrev Entries := List (String × Json)

/-- Sets the value of a key: in place when the key is there, otherwise
before the first greater key. -/
def Entries.put (key : String) (value : Json) : Entries → Entries
  | [] => [(key, value)]
  | (k, v) :: rest =>
    if key = k then (key, value) :: rest
    else if key < k then (key, value) :: (k, v) :: rest
    else (k, v) :: Entries.put key value rest

/-- The value of a key. -/
def Entries.get? (entries : Entries) (key : String) : Option Json :=
  entries.lookup key

/-- All entries of `top` put into `base`, one after the other. -/
def Entries.overlay (base top : Entries) : Entries :=
  top.foldl (fun acc e => Entries.put e.1 e.2 acc) base

/-- An object from entries in any order; of several values for a key the
last one counts. -/
def ofEntries (entries : Entries) : Json :=
  .obj (Entries.overlay [] entries)

/-- The object without entries. -/
def emptyObject : Json := .obj []

/-- The value of a top-level field; nothing for a value that is no object. -/
def field? : Json → String → Option Json
  | .obj entries, key => Entries.get? entries key
  | _, _ => none

/-- The entries of an object; no entries for any other value. -/
def entries : Json → Entries
  | .obj entries => entries
  | _ => []

/-- The value with one top-level field set.  What is no object is replaced
by one. -/
def setField (config : Json) (key : String) (value : Json) : Json :=
  .obj (Entries.put key value config.entries)

mutual

/-- The same value with the keys of every object in order and each key
once, the last one counting. -/
def canonical : Json → Json
  | .arr items => .arr (canonicalItems items)
  | .obj entries => ofEntries (canonicalEntries entries)
  | v => v

def canonicalItems : List Json → List Json
  | [] => []
  | v :: rest => canonical v :: canonicalItems rest

def canonicalEntries : List (String × Json) → List (String × Json)
  | [] => []
  | (k, v) :: rest => (k, canonical v) :: canonicalEntries rest

end

/-- A list of texts. -/
def ofStrings (items : List String) : Json :=
  .arr (items.map .str)

/-- A text, or null for none. -/
def ofString? : Option String → Json
  | none => .null
  | some s => .str s

end Json

end PipelineScript
