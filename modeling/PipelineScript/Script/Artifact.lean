/-
# Scripts as bytes

The saved form of a compiled script.  Lengths are written in as few bytes
as their size class allows, texts as their UTF-8 bytes behind their
length, lists as their items behind their number, and an optional value
behind a byte that tells whether it is there.  A reader takes what it needs
from the front and hands back the rest; bytes behind a script do no harm.
-/
import PipelineScript.Script.Basic

namespace PipelineScript.Artifact

abbrev Bytes := List UInt8

/-- Takes a value from the front of some bytes. -/
abbrev Decoder (α : Type) := Bytes → Option (α × Bytes)

/-! ## Lengths -/

/-- A number in so many bytes, the lowest byte first. -/
def littleEndian : (width n : Nat) → Bytes
  | 0, _ => []
  | width + 1, n => UInt8.ofNat n :: littleEndian width (n / 256)

/-- The number in so many bytes from the front. -/
def takeLittleEndian : (width : Nat) → Decoder Nat
  | 0, bs => some (0, bs)
  | _ + 1, [] => none
  | width + 1, b :: bs =>
    match takeLittleEndian width bs with
    | none => none
    | some (n, rest) => some (b.toNat + 256 * n, rest)

/-- A length: below 251 in one byte, otherwise behind a mark for two, four
or eight bytes. -/
def encodeLength (n : Nat) : Bytes :=
  if n < 251 then [UInt8.ofNat n]
  else if n < 65536 then 251 :: littleEndian 2 n
  else if n < 4294967296 then 252 :: littleEndian 4 n
  else 253 :: littleEndian 8 n

/-- Reads a length; a longer form than needed is accepted. -/
def decodeLength : Decoder Nat
  | [] => none
  | b :: bs =>
    if b < 251 then some (b.toNat, bs)
    else if b = 251 then takeLittleEndian 2 bs
    else if b = 252 then takeLittleEndian 4 bs
    else if b = 253 then takeLittleEndian 8 bs
    else none

/-! ## Texts, optional values and lists -/

def encodeText (s : String) : Bytes :=
  encodeLength s.utf8ByteSize ++ s.toUTF8.toList

def decodeText : Decoder String := fun bs =>
  match decodeLength bs with
  | none => none
  | some (n, rest) =>
    if n ≤ rest.length then
      (String.fromUTF8? ⟨(rest.take n).toArray⟩).map fun s => (s, rest.drop n)
    else none

def encodeOptional {α : Type} (encode : α → Bytes) : Option α → Bytes
  | none => [0]
  | some a => 1 :: encode a

def decodeOptional {α : Type} (decode : Decoder α) : Decoder (Option α)
  | [] => none
  | b :: bs =>
    if b = 0 then some (none, bs)
    else if b = 1 then (decode bs).map fun (a, rest) => (some a, rest)
    else none

def encodeList {α : Type} (encode : α → Bytes) (as : List α) : Bytes :=
  encodeLength as.length ++ as.flatMap encode

/-- So many items from the front. -/
def decodeItems {α : Type} (decode : Decoder α) : (count : Nat) → Decoder (List α)
  | 0, bs => some ([], bs)
  | count + 1, bs =>
    match decode bs with
    | none => none
    | some (a, rest) => (decodeItems decode count rest).map fun (as, rest) => (a :: as, rest)

def decodeList {α : Type} (decode : Decoder α) : Decoder (List α) := fun bs =>
  match decodeLength bs with
  | none => none
  | some (n, rest) => decodeItems decode n rest

/-! ## Scripts -/

def encodeFragment (f : Fragment) : Bytes :=
  encodeText f.node ++ encodeText f.component ++ encodeText f.code ++
    encodeList (encodeOptional encodeText) f.outputs

def decodeFragment : Decoder Fragment := fun bs => do
  let (node, bs) ← decodeText bs
  let (component, bs) ← decodeText bs
  let (code, bs) ← decodeText bs
  let (outputs, bs) ← decodeList (decodeOptional decodeText) bs
  return ({ node, component, code, outputs }, bs)

def encodeSkipped (n : SkippedNode) : Bytes :=
  encodeText n.node ++ encodeText n.reason

def decodeSkipped : Decoder SkippedNode := fun bs => do
  let (node, bs) ← decodeText bs
  let (reason, bs) ← decodeText bs
  return ({ node, reason }, bs)

/-- The bytes of a script. -/
def encode (s : Script) : Bytes :=
  encodeOptional encodeText s.header ++ encodeList encodeText s.imports ++
    encodeList encodeFragment s.fragments ++ encodeList encodeSkipped s.skipped

def decodeScript : Decoder Script := fun bs => do
  let (header, bs) ← decodeOptional decodeText bs
  let (imports, bs) ← decodeList decodeText bs
  let (fragments, bs) ← decodeList decodeFragment bs
  let (skipped, bs) ← decodeList decodeSkipped bs
  return ({ header, imports, fragments, skipped }, bs)

/-- The script at the front of some bytes. -/
def decode? (bs : Bytes) : Option Script :=
  (decodeScript bs).map Prod.fst

end PipelineScript.Artifact
