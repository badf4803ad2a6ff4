/-
# Paths

A path consists of segments between slashes.  A dot stays where it is, and
two dots go back by one segment, but never out of a drive.
-/
import PipelineScript.Url.Percent

namespace PipelineScript.Url

/-- Is this a slash of either kind? -/
def isSlash (c : Char) : Bool :=
  c == '/' || c == '\\'

/-- Is this the letter of a drive with its mark? -/
def isDrive (segment : String) : Bool :=
  match segment.toList with
  | [letter, mark] => letter.isAlpha && (mark == ':' || mark == '|')
  | _ => false

/-- The usual way to write the letter of a drive. -/
def driveText (segment : String) : String :=
  if isDrive segment then String.ofList (segment.toList.take 1 ++ [':']) else segment

/-- A dot may also be written as an octet. -/
def withDots (segment : String) : String :=
  (segment.replace "%2e" ".").replace "%2E" "."

/-- The segments without the last one, unless that is a drive. -/
def stepBack (segments : List String) : List String :=
  if segments.getLast?.any isDrive then segments else segments.dropLast

/-- The segments that are reached from others by some more.  With drives, a
drive may stand at the beginning. -/
def walk (drives : Bool) (reached : List String) : List String → List String
  | [] => reached
  | s :: rest =>
    let isLast := rest.isEmpty
    if withDots s == ".." then
      walk drives (stepBack reached ++ if isLast then [""] else []) rest
    else if withDots s == "." then walk drives (reached ++ if isLast then [""] else []) rest
    else
      walk drives (reached ++ [if drives && reached.isEmpty then driveText s else s]) rest

/-- The segments of a path behind its first slash.  With both kinds of
slashes, either of them parts segments. -/
def segmentsOf (bothSlashes drives : Bool) (path : List Char) : List String :=
  let even := if bothSlashes then path.map (fun c => if isSlash c then '/' else c) else path
  walk drives [] ((Part.path.encode even).splitOn "/")

/-- Segments behind slashes. -/
def segmentsText (segments : List String) : String :=
  "/" ++ "/".intercalate segments

end PipelineScript.Url
