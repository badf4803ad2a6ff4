/-
# Domain names

A domain name consists of labels between dots.  It is folded and composed
first, so that names which look alike become one.  A label with characters
that are not of ASCII is then written in ASCII behind `xn--`, and a label
that comes in this form has to be one that folding leaves alone.
-/
import PipelineScript.Text.Composition
import PipelineScript.Text.Direction
import PipelineScript.Text.Folding
import PipelineScript.Text.Hidden
import PipelineScript.Text.Joining
import PipelineScript.Url.Punycode

namespace PipelineScript.Url

open Text Punycode

/-- The characters that show on a page and yet do not stand in names. -/
def unnamableRanges : List (Nat × Nat) :=
  [(0xA8, 0xA8), (0xAF, 0xAF), (0xB4, 0xB4), (0xB8, 0xB8), (0x2D8, 0x2DD), (0x37A, 0x37A),
    (0x384, 0x385), (0x1FBD, 0x1FBD), (0x1FBF, 0x1FC1), (0x1FCD, 0x1FCF), (0x1FDD, 0x1FDF),
    (0x1FED, 0x1FEE), (0x1FFD, 0x1FFE), (0x2017, 0x2017), (0x2024, 0x2026), (0x203E, 0x203E),
    (0x2047, 0x2049), (0x2100, 0x2101), (0x2105, 0x2106), (0x2488, 0x249B), (0x2A74, 0x2A74),
    (0x2FF0, 0x2FFF), (0x309B, 0x309C), (0x31EF, 0x31EF), (0x33C2, 0x33C2), (0x33C7, 0x33C7),
    (0x33D8, 0x33D8), (0xFC5E, 0xFC63), (0xFDFA, 0xFDFB), (0xFE12, 0xFE13), (0xFE16, 0xFE16),
    (0xFE19, 0xFE19), (0xFE30, 0xFE30), (0xFE47, 0xFE4C), (0xFE52, 0xFE52), (0xFE55, 0xFE56),
    (0xFE5F, 0xFE5F), (0xFE64, 0xFE65), (0xFE68, 0xFE68), (0xFE6A, 0xFE6B), (0xFE70, 0xFE70),
    (0xFE72, 0xFE72), (0xFE74, 0xFE74), (0xFE76, 0xFE76), (0xFE78, 0xFE78), (0xFE7A, 0xFE7A),
    (0xFE7C, 0xFE7C), (0xFE7E, 0xFE7E), (0xFF03, 0xFF03), (0xFF05, 0xFF05), (0xFF0F, 0xFF0F),
    (0xFF1A, 0xFF1A), (0xFF1C, 0xFF1C), (0xFF1E, 0xFF20), (0xFF3B, 0xFF3E), (0xFF5C, 0xFF5C),
    (0xFFE3, 0xFFE3), (0xFFFC, 0xFFFD), (0x1F100, 0x1F100)]

/-- May this character of ASCII not stand in the name of a host? -/
def isForbidden (c : Char) : Bool :=
  c.val ≤ 0x20 || c.val == 0x7F || "%#/:<>?@[\\]^|".toList.contains c

/-- Is this one of the two characters that say whether letters are joined? -/
def isJoiner (c : Char) : Bool :=
  c == '\u200c' || c == '\u200d'

/-- May a character stand in a folded name? -/
def isNamable (c : Char) : Bool :=
  if isPlain c then !isForbidden c
  else isJoiner c || (!inRanges unnamableRanges c && (!isHidden c || isMark c))

/-- May a joiner stand behind some characters, given from the last on, and
before others?  It may behind the mark that ends the sound of a letter, and
one that parts letters may stand where they would join. -/
def joinerFits (joiner : Char) (before behind : List Char) : Bool :=
  before.head?.any (markClass · == 9) ||
    (joiner == '\u200c' && (before.dropWhile isNonspacing).head?.any joinsForth &&
      (behind.dropWhile isNonspacing).head?.any joinsBack)

/-- Do all joiners of a label fit, behind the characters before it? -/
def joinersFit (before : List Char) : List Char → Bool
  | [] => true
  | c :: rest => (!isJoiner c || joinerFits c before rest) && joinersFit (c :: before) rest

/-- Does a label keep to one direction of writing?  A label that is written
to the left begins with such a letter and has no other letters, and its
digits are of one kind; one that is written to the right has nothing that is
written to the left.  Both end in a letter or a digit. -/
def keepsDirection (label : List Char) : Bool :=
  let directions := label.map direction
  let last := (directions.reverse.dropWhile (· = .mark)).head?
  match directions.head? with
  | none => true
  | some .leftward =>
    !directions.contains .rightward &&
      !(directions.contains .digit && directions.contains .arabicDigit) &&
      [some .leftward, some .digit, some .arabicDigit].contains last
  | some .rightward =>
    !directions.contains .leftward && !directions.contains .arabicDigit &&
      [some .rightward, some .digit].contains last
  | some _ => false

/-- Is anything in a label written to the left? -/
def hasLeftward (label : List Char) : Bool :=
  label.any fun c => direction c = .leftward || direction c = .arabicDigit

/-- What a label in the form of ASCII stands for: something that could not be
written without that form, and that folding leaves alone. -/
def unwrapped? (form : List Char) : Option (List Char) := do
  let label ← decode? form
  guard (label.any (!isPlain ·))
  guard (!("xn--".toList.isPrefixOf label))
  guard (composed (label.flatMap folded) = label)
  return label

/-- A label as it is written and what it stands for. -/
def label? (chars : List Char) : Option (List Char × List Char) := do
  if "xn--".toList.isPrefixOf chars then
    guard (chars.all isPlain)
    let label ← unwrapped? (chars.drop 4)
    return (chars, label)
  else if chars.all isPlain then return (chars, chars)
  else return ("xn--".toList ++ encode chars, chars)

/-- May a label stand in a name? -/
def isProper (label : List Char) : Bool :=
  label.all isNamable && !label.head?.any isMark && joinersFit [] label

/-- A domain name in ASCII. -/
def domainName? (text : String) : Option String := do
  let name := composed (text.toList.flatMap folded)
  let labels ← ((String.ofList name).splitOn ".").mapM fun l => label? l.toList
  guard (labels.all fun l => isProper l.2)
  guard (!labels.any (hasLeftward ·.2) || labels.all (keepsDirection ·.2))
  return ".".intercalate (labels.map fun l => String.ofList l.1)

end PipelineScript.Url
