/-
# Arguments of a command line

Arguments are switches, by a long name or by a letter, and positions.  A
switch stands at most once.  Its value follows as an argument of its own
that does not look like a switch, or in the same argument; letters may
share an argument as long as only the last one takes a value.  Behind two
hyphens every argument is a position.
-/

namespace PipelineScript.Command

/-- A switch that a command knows. -/
structure Switch where
  name : String
  letter : Option Char := none
  takesValue : Bool := true
  /-- Is the value the path of a file, which is never empty? -/
  isPath : Bool := false
deriving Repr, DecidableEq

/-- The arguments read: the switches with their values, and the positions. -/
structure Arguments where
  switches : List (String × String) := []
  positions : List String := []
deriving Repr

namespace Arguments

/-- The value of a switch. -/
def value? (a : Arguments) (name : String) : Option String :=
  a.switches.lookup name

def has (a : Arguments) (name : String) : Bool :=
  (a.value? name).isSome

/-- Adds a switch that was not given before. -/
def give (a : Arguments) (s : Switch) (value : String) : Option Arguments :=
  if a.has s.name || (s.isPath && value == "") then none
  else some { a with switches := a.switches ++ [(s.name, value)] }

def addPosition (a : Arguments) (value : String) : Arguments :=
  { a with positions := a.positions ++ [value] }

/-- Reads letters that share an argument.  The switch that is left wants a
value. -/
def readLetters (known : List Switch) (a : Arguments) :
    List Char → Option (Arguments × Option Switch)
  | [] => some (a, none)
  | c :: rest =>
    match known.find? (·.letter == some c) with
    | none => none
    | some s =>
      if s.takesValue then
        match rest with
        | [] => some (a, some s)
        | '=' :: value => (a.give s (String.ofList value)).map (·, none)
        | value => (a.give s (String.ofList value)).map (·, none)
      else (a.give s "").bind fun a => readLetters known a rest

/-- Reads a long name, with its value behind an equals sign. -/
def readName (known : List Switch) (a : Arguments) (chars : List Char) :
    Option (Arguments × Option Switch) :=
  let name := chars.takeWhile (· != '=')
  match known.find? (·.name == String.ofList name), chars.drop name.length with
  | none, _ => none
  | some s, [] => if s.takesValue then some (a, some s) else (a.give s "").map (·, none)
  | some s, _ :: value =>
    if s.takesValue then (a.give s (String.ofList value)).map (·, none) else none

/-- Does an argument look like a switch? -/
def looksLikeSwitch : List Char → Bool
  | ['-'] => false
  | c :: _ => c == '-'
  | [] => false

/-- The value that follows a switch. -/
def follow (a : Arguments) (s : Switch) (value : String) : Option Arguments :=
  if looksLikeSwitch value.toList then none else a.give s value

/-- Reads arguments.  With `stop`, they end in front of the first position.
Handed back is what was not read. -/
def read (known : List Switch) (stop : Bool) (a : Arguments) :
    List String → Option (Arguments × List String)
  | [] => some (a, [])
  | arg :: rest =>
    match arg.toList with
    | ['-', '-'] => if stop then none else some (rest.foldl addPosition a, [])
    | chars =>
      if looksLikeSwitch chars then
        let found := match chars with
          | '-' :: '-' :: name => readName known a name
          | letters => readLetters known a letters.tail
        match found, rest with
        | none, _ => none
        | some (a, none), rest => read known stop a rest
        | some (_, some _), [] => none
        | some (a, some s), value :: rest => (a.follow s value).bind fun a => read known stop a rest
      else if stop then some (a, arg :: rest)
      else read known stop (a.addPosition arg) rest

end Arguments

end PipelineScript.Command
