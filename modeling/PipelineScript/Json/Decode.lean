/-
# Decoding JSON values

A decoder takes a value to a domain type or names the first mismatch.
Records are read field by field: every field looks through all entries of
the object for itself, and of the faults met the one at the earliest entry
is reported.  Fields that are missing count as standing behind the last
entry, in the order of their declaration.  A record may also be written as
the list of its fields.
-/
import PipelineScript.Json.Mismatch

namespace PipelineScript.Json

/-- Where a value stands: by itself, or inside a record whose variant was
chosen by a tag.  Only the wording of one fault depends on it, and one
leniency towards empty payloads. -/
inductive Standing where
  | free
  | tagged
deriving Repr, DecidableEq

abbrev Decoder (α : Type) := Standing → Json → Except Mismatch α

namespace Decoder

/-- Any value, as it is. -/
def raw : Decoder Json := fun _ v => .ok v

def text : Decoder String
  | _, .str s => .ok s
  | _, v => .error (.invalidType v "a string")

def boolean : Decoder Bool
  | _, .bool b => .ok b
  | _, v => .error (.invalidType v "a boolean")

/-- A natural number of 64 bits. -/
def natural : Decoder Nat
  | _, .int n => if n < 0 then .error (.invalidValue (.int n) "u64") else .ok n.toNat
  | _, v => .error (.invalidType v "u64")

/-- A text, or a number as its text. -/
def key : Decoder String
  | _, .str s => .ok s
  | _, .int n => .ok (toString n)
  | _, .real x => .ok (realText x)
  | _, v => .error (.notAKey v)

/-- Null for none. -/
def optional {α : Type} (d : Decoder α) : Decoder (Option α)
  | _, .null => .ok none
  | s, v => (d s v).map some

/-- The items of a list, decoded in order. -/
def items {α : Type} (d : Decoder α) (s : Standing) : List Json → Except Mismatch (List α)
  | [] => .ok []
  | v :: rest => do
    let a ← d s v
    let more ← items d s rest
    return a :: more

def list {α : Type} (d : Decoder α) : Decoder (List α)
  | s, .arr vs => items d s vs
  | _, v => .error (.invalidType v "a sequence")

end Decoder

/-- The reading of some fields of a record: their values, or the fault at
the earliest place. -/
inductive Reading (α : Type) where
  | ok (value : α)
  | fault (place : Nat) (cause : Mismatch)

namespace Reading

/-- Both readings; of two faults the one at the smaller place, of two at
the same place the left one. -/
def both {α β : Type} : Reading (α → β) → Reading α → Reading β
  | ok f, ok a => ok (f a)
  | fault i m, ok _ => fault i m
  | ok _, fault j m => fault j m
  | fault i m, fault j m' => if j < i then fault j m' else fault i m

instance : Pure Reading := ⟨ok⟩
instance : Seq Reading := ⟨fun f a => both f (a ())⟩
instance : Functor Reading := ⟨fun f a => both (ok f) a, fun b a => both (ok fun _ => b) a⟩

def toExcept {α : Type} : Reading α → Except Mismatch α
  | ok a => .ok a
  | fault _ m => .error m

end Reading

/-- How a record is written down: as an object, or as the list of its
members. `expected` is what a list that ends too early should have been. -/
inductive Written where
  | entries (es : Entries)
  | list (vs : List Json) (expected : String)

/-- One member of a record. -/
structure Member (α : Type) where
  /-- Its position among the members, from 0. -/
  position : Nat
  name : String
  /-- Other names under which an object may give it. -/
  aliases : List String := []
  decode : Decoder α
  /-- Its value when an object does not give it. -/
  absent : Option α := none
  /-- Its value when a list ends before it. -/
  omitted : Option α := none

namespace Member

variable {α : Type}

def answersTo (f : Member α) (key : String) : Bool :=
  key == f.name || f.aliases.contains key

/-- The member among the entries of an object, the first of them being at
`place`. -/
def search (f : Member α) (s : Standing) (found : Option α) :
    (place : Nat) → Entries → Reading α
  | place, [] =>
    match found.or f.absent with
    | some a => .ok a
    | none => .fault place (.missingField f.name)
  | place, (k, v) :: rest =>
    if f.answersTo k then
      match found with
      | some _ => .fault place (.duplicateField f.name)
      | none =>
        match f.decode s v with
        | .ok a => search f s (some a) (place + 1) rest
        | .error m => .fault place m
    else search f s found (place + 1) rest

/-- The member in a record. -/
def read (f : Member α) (s : Standing) : Written → Reading α
  | .entries es => f.search s none 0 es
  | .list vs expected =>
    match vs[f.position]? with
    | some v =>
      match f.decode s v with
      | .ok a => .ok a
      | .error m => .fault f.position m
    | none =>
      match f.omitted with
      | some a => .ok a
      | none => .fault f.position (.invalidLength f.position expected)

end Member

/-- A list that goes on behind the last member. -/
def tooLong (s : Standing) (length fields : Nat) : Mismatch :=
  match s with
  | .free => .invalidLength length "fewer elements in array"
  | .tagged => .invalidLength length (elements fields ++ " in sequence")

namespace Decoder

/-- The content of a record with so many fields, from a list. -/
def recordList {α : Type} (expected : String) (fields : Nat)
    (read : Standing → Written → Reading α) (s : Standing) (vs : List Json) : Except Mismatch α :=
  match (read s (.list vs (expected ++ " with " ++ elements fields))).toExcept with
  | .ok a => if vs.length ≤ fields then .ok a else .error (tooLong s vs.length fields)
  | .error m => .error m

/-- A record with so many fields, from an object or from a list. -/
def record {α : Type} (expected : String) (fields : Nat)
    (read : Standing → Written → Reading α) : Decoder α
  | s, .obj es => (read s (.entries es)).toExcept
  | s, .arr vs => recordList expected fields read s vs
  | _, v => .error (.invalidType v expected)

/-- The name of a variant. -/
def variantName {β : Type} (known : List (String × β)) (name : String) : Except Mismatch β :=
  match known.lookup name with
  | some b => .ok b
  | none => .error (.unknownVariant name (known.map Prod.fst))

/-- One of a list of names, written as itself or as an object with that
one key and nothing in it. -/
def choice {β : Type} (known : List (String × β)) : Decoder β
  | _, .str name => variantName known name
  | s, .obj [(name, payload)] => do
    let b ← variantName known name
    match s, payload with
    | _, .null => return b
    | .tagged, .obj [] => return b
    | _, v => throw (.invalidType v "unit")
  | _, .obj es => .error (.invalidValue (.obj es) "map with a single key")
  | _, v => .error (.invalidType v "string or map")

/-- The value of a tag. -/
def tag {β : Type} (known : List (String × β)) : Decoder β
  | _, .str name => variantName known name
  | _, v => .error (.invalidType v "variant identifier")

/-- A record whose variant is named by the entry `tagName`, or by the first
item of a list.  `content` decodes what is left once the variant is known. -/
def taggedRecord {α β : Type} (tagName expected : String) (known : List (String × β))
    (content : β → Json → Except Mismatch α) : Decoder α
  | s, .obj es => do
    let which : Member β := { position := 0, name := tagName, decode := tag known }
    let b ← (which.search s none 0 es).toExcept
    content b (.obj (es.filter fun e => e.1 != tagName))
  | _, .arr [] => .error (.missingField tagName)
  | s, .arr (v :: rest) => do
    let b ← tag known s v
    content b (.arr rest)
  | _, v => .error (.invalidType v expected)

end Decoder

end PipelineScript.Json
