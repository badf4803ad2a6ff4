/-
# Reading URLs

A text is read as a URL by itself, not as one that stands in another
document.  Schemes of the web and of files have rules of their own: slashes
of either kind part segments, a host is a domain name or an address, and the
path is never empty.
-/
import PipelineScript.Url.Basic

namespace PipelineScript.Url

/-- The schemes with rules of their own, and their usual ports. -/
def specialSchemes : List (String × Nat) :=
  [("http", 80), ("https", 443), ("ws", 80), ("wss", 443), ("ftp", 21)]

/-- Has a scheme rules of its own? -/
def isSpecial (scheme : String) : Bool :=
  scheme == "file" || (specialSchemes.lookup scheme).isSome

/-- Does a character end the part before the path? -/
def endsAuthority (special : Bool) (c : Char) : Bool :=
  c == '/' || c == '?' || c == '#' || (special && c == '\\')

/-- The characters that count: those between the blanks and controls around
the text, without tabs and line breaks. -/
def significant (text : String) : List Char :=
  let isEdge (c : Char) : Bool := c.val ≤ 0x20
  ((text.toList.dropWhile isEdge).reverse.dropWhile isEdge).reverse.filter
    fun c => !(c == '\t' || c == '\n' || c == '\r')

/-- The scheme before a colon, and what stands behind it. -/
def scheme? (chars : List Char) : Option (String × List Char) :=
  let name := chars.takeWhile fun c => c.isAlphanum || "+-.".toList.contains c
  match chars.drop name.length with
  | ':' :: rest =>
    if name.head?.any Char.isAlpha then some (String.ofList (name.map Char.toLower), rest)
    else none
  | _ => none

/-- The query and the fragment that follow a path. -/
def endings (special : Bool) (chars : List Char) : Option String × Option String :=
  let front := chars.takeWhile (· != '#')
  let fragment := match chars.drop front.length with
    | _ :: rest => some (Part.fragment.encode rest)
    | [] => none
  let part := if special then Part.specialQuery else Part.query
  match front with
  | '?' :: query => (some (part.encode query), fragment)
  | _ => (none, fragment)

/-- The URL of a path that stands before a query and a fragment. -/
def withPath (scheme : String) (authority : Option Authority) (path : List Char → Path)
    (chars : List Char) : Url :=
  let inPath := chars.takeWhile fun c => !(c == '?' || c == '#')
  let (query, fragment) := endings (isSpecial scheme) (chars.drop inPath.length)
  { scheme, authority, path := path inPath, query, fragment }

/-- What stands before the last at sign, if there is one, and what stands
behind it. -/
def userAndPlace (chars : List Char) : Option (List Char) × List Char :=
  let place := (chars.reverse.takeWhile (· != '@')).reverse
  let front := chars.take (chars.length - place.length)
  (if front.isEmpty then none else some front.dropLast, place)

/-- The characters of a host, up to the colon before a port.  Colons between
brackets belong to the host. -/
def hostPart (inBrackets : Bool) : List Char → List Char
  | [] => []
  | c :: rest =>
    if c == ':' && !inBrackets then []
    else c :: hostPart (if c == '[' then true else if c == ']' then false else inBrackets) rest

/-- The port that digits write, nothing for the usual one. -/
def port? (scheme : String) (digits : List Char) : Option (Option Nat) :=
  let n := numberOf 10 digits
  if 65535 < n then none
  else if digits.isEmpty || specialSchemes.lookup scheme = some n then some none
  else some (some n)

/-- A host and its port, and what of the characters belongs to the path. -/
def hostAndPort? (scheme : String) (place : List Char) :
    Option (Host × Option Nat × List Char) := do
  let inHost := hostPart false place
  let behind := place.drop inHost.length
  let host ← if isSpecial scheme then Host.ofText? inHost else Host.ofFreeText? inHost
  guard (!(inHost.isEmpty && !behind.isEmpty))
  let digits := (behind.drop 1).takeWhile Char.isDigit
  let rest := (behind.drop 1).drop digits.length
  guard (rest.isEmpty || rest.head? = some '\\')
  return (host, ← port? scheme digits, rest)

/-- The path behind a host. -/
def pathBehindHost (special : Bool) : List Char → Path
  | [] => if special then .steps [""] else .whole ""
  | c :: rest =>
    .steps (segmentsOf special false (if endsAuthority special c then rest else c :: rest))

/-- The URL that stands behind two slashes. -/
def withHost? (scheme : String) (chars : List Char) : Option Url := do
  let special := isSpecial scheme
  let area := chars.takeWhile (!endsAuthority special ·)
  let (front, place) := userAndPlace area
  guard (!(front == some [] && place.isEmpty && area.length < chars.length))
  let names := front.getD []
  let user := Part.user.encode (names.takeWhile (· != ':'))
  let password := Part.user.encode ((names.dropWhile (· != ':')).drop 1)
  let (host, port, rest) ← hostAndPort? scheme place
  guard (!((user != "" || password != "") && place.isEmpty))
  return withPath scheme (some { user, password, host := some host, port })
    (pathBehindHost special) (rest ++ chars.drop area.length)

/-- The host of a file: nothing for this system. -/
def fileHost? : List Char → Option (Option Host)
  | [] => some none
  | chars => do
    let host ← Host.ofText? chars
    return if host = .name "localhost" then none else some host

/-- The URL of a file on a host.  A path that begins with a drive stands for
itself, and a path has no empty segments at its beginning. -/
def ofFile (host : Option Host) (chars : List Char) : Url :=
  let inPath := chars.takeWhile fun c => !(c == '?' || c == '#')
  let segments := segmentsOf true true inPath
  let host := if segments.head?.any isDrive then none else host
  let kept := match segments.dropWhile (· == "") with
    | [] => [""]
    | kept => kept
  withPath "file" (some { host }) (fun _ => .steps kept) chars

/-- The URL of a file. -/
def file? (chars : List Char) : Option Url :=
  match chars with
  | [] => some (ofFile none [])
  | first :: rest =>
    if !isSlash first then some (ofFile none chars)
    else
      match rest with
      | [] => some (ofFile none [])
      | second :: tail =>
        if !isSlash second then some (ofFile none rest)
        else
          let name := tail.takeWhile (!endsAuthority true ·)
          if isDrive (String.ofList name) then some (ofFile none tail)
          else
            let behind := tail.drop name.length
            (fileHost? name).map fun host =>
              ofFile host (if behind.head?.any isSlash then behind.drop 1 else behind)

/-- The URL that a text writes. -/
def ofText? (text : String) : Option Url := do
  let (scheme, rest) ← scheme? (significant text)
  if scheme == "file" then file? rest
  else if isSpecial scheme then withHost? scheme (rest.dropWhile isSlash)
  else
    match rest with
    | '/' :: '/' :: rest => withHost? scheme rest
    | '/' :: rest =>
      return withPath scheme none (fun path => .steps (segmentsOf false false path)) rest
    | _ => return withPath scheme none (fun path => .whole (Part.rest.encode path)) rest

end PipelineScript.Url
