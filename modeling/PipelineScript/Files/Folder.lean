/-
# Files held in memory

A folder is a list of files, each under the names of the folders that it
lies in and its own.  A path is walked name by name, and every name but the
last has to lead into a folder.  Around the folder are folders that hold no
files, and files that are written there are lost.
-/
import PipelineScript.Files.Basic

namespace PipelineScript

structure Folder where
  files : List (List String × List UInt8) := []
deriving Repr

/-- Where a walk has come to. -/
inductive Spot where
  /-- In the folder of these names. -/
  | inside (names : List String)
  /-- In one of the folders that the folder lies in. -/
  | around
  /-- In a folder of the system, by its names from the root on. -/
  | system (names : List String)
deriving Repr, DecidableEq

namespace Folder

/-- How many bytes the name of a file may have. -/
def longestName : Nat := 255

/-- How many bytes a path may have. -/
def longestPath : Nat := 4095

/-- The folders at the root of the system. -/
def systemFolders : List String :=
  ["bin", "dev", "etc", "home", "lib", "opt", "proc", "root", "run", "sys", "tmp", "usr", "var"]

/-- The file of the system that holds nothing and keeps nothing. -/
def nullDevice : Spot × String :=
  (.system ["dev"], "null")

def file? (f : Folder) (names : List String) : Option (List UInt8) :=
  f.files.lookup names

/-- Is there a folder of these names? -/
def isFolder (f : Folder) (names : List String) : Bool :=
  names.isEmpty || f.files.any fun (other, _) => names.isPrefixOf other && names != other

/-- Does a name stay in the folder where it is read? -/
def isStanding (name : String) : Bool :=
  name == "" || name == "."

/-- Goes back to the folder that a spot lies in. -/
def leave : Spot → Spot
  | .inside names => if names.isEmpty then .around else .inside names.dropLast
  | .around => .around
  | .system names => .system names.dropLast

/-- Goes on into the folder of a name. -/
def enter (f : Folder) (spot : Spot) (name : String) : Except FileError Spot :=
  if isStanding name then .ok spot
  else if name == ".." then .ok (leave spot)
  else if longestName < name.utf8ByteSize then .error .longName
  else if (spot, name) = nullDevice then .error .notFolder
  else
    match spot with
    | .around => .error .missing
    | .system names =>
      if names.isEmpty && systemFolders.contains name then .ok (.system [name])
      else .error .missing
    | .inside names =>
      if f.isFolder (names ++ [name]) then .ok (.inside (names ++ [name]))
      else if (f.file? (names ++ [name])).isSome then .error .notFolder
      else .error .missing

/-- The names on a path, the first of them empty when it starts at the root
of the system. -/
def steps (path : String) : Except FileError (List String) :=
  if path == "" then .error .missing
  else if longestPath < path.utf8ByteSize then .error .longName
  else .ok (path.splitOn "/")

/-- The spot that names lead to from the folder itself. -/
def walk (f : Folder) (names : List String) : Except FileError Spot :=
  names.foldlM f.enter (if names.head? == some "" then .system [] else .inside [])

/-- The bytes of the file at a path. -/
def bytes (f : Folder) (path : String) : Except FileError (List UInt8) := do
  let names ← steps path
  let last := names.getLast?.getD ""
  let spot ← f.walk names.dropLast
  if (spot, last) = nullDevice then return []
  if let .inside above := spot then
    if let some content := f.file? (above ++ [last]) then return content
  let _ ← f.enter spot last
  throw .isFolder

/-- The text of a file. -/
def read (f : Folder) (path : String) : Except FileError String := do
  match textOfBytes? (← f.bytes path) with
  | some text => return text
  | none => throw .noText

/-- The folder with a file put in place. -/
def put (f : Folder) (names : List String) (bytes : List UInt8) : Folder :=
  ⟨f.files.filter (·.1 != names) ++ [(names, bytes)]⟩

/-- The folder of these texts, by their paths. -/
def ofTexts (texts : List (String × String)) : Folder :=
  texts.foldl (fun f (path, text) =>
    f.put ((path.splitOn "/").filter (!isStanding ·)) (bytesOfText text)) {}

/-- Writes a file, in a folder that exists.  A path that ends in a slash
names no file. -/
def write (f : Folder) (path : String) (bytes : List UInt8) : Except FileError Folder := do
  let names ← steps path
  let kept := (names.reverse.dropWhile (· == "")).reverse
  let last := kept.getLast?.getD ""
  let spot ← f.walk kept.dropLast
  if isStanding last || last == ".." || kept.length < names.length then throw .isFolder
  match f.enter spot last with
  | .ok _ => throw .isFolder
  | .error e =>
    if e = .longName then throw e
    match spot with
    | .inside above => return f.put (above ++ [last]) bytes
    | _ => return f

end Folder

end PipelineScript
