/-
# The names taken in a script

`Names` records every identifier the script already uses.  A new name is
a base followed by the first free number, counted from 1; a name can be
given back.
-/

namespace PipelineScript.Compile

/-- The identifiers in use, each one once. -/
structure Names where
  taken : List String := []
deriving Repr, DecidableEq

namespace Names

/-- How many suffixes are tried: all positive numbers of 32 bits. -/
def suffixLimit : Nat := 4294967295

def isTaken (names : Names) (name : String) : Bool :=
  names.taken.contains name

def insert (names : Names) (name : String) : Names :=
  if names.isTaken name then names else ⟨name :: names.taken⟩

/-- The table in which the given names are taken. -/
def ofList (reserved : List String) : Names :=
  reserved.foldl insert {}

/-- The first free name among `base k`, `base (k+1)`, and so on for
`tries` numbers.  When all of them are taken it is `base` itself, so that there
is an answer: the count in 32 bits overflows there, and either stops the program
or begins again without end. -/
def firstFree (names : Names) (base : String) : (tries k : Nat) → String
  | 0, _ => base
  | tries + 1, k =>
    if names.isTaken (base ++ toString k) then firstFree names base tries (k + 1)
    else base ++ toString k

/-- Takes the first free numbered name of a base. -/
def allocate (names : Names) (base : String) : String × Names :=
  let name := names.firstFree base suffixLimit 1
  (name, names.insert name)

/-- Gives a name back. -/
def release (names : Names) (name : String) : Names :=
  ⟨names.taken.erase name⟩

/-- Gives several names back, in order. -/
def releaseAll (names : Names) (given : List String) : Names :=
  given.foldl release names

def size (names : Names) : Nat :=
  names.taken.length

end Names

end PipelineScript.Compile
