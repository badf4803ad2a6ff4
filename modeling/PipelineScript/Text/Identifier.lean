/-
# Identifiers from free names

`snakeCase` turns a free name such as `csvFileInput` or `csv-file input`
into an identifier of the generated script, `csv_file_input`.  Only ASCII
letters and digits survive; every run of other characters becomes one
underscore between words, and an underscore also opens a capital that
follows a small letter or a digit.
-/

namespace PipelineScript.Text

/-- The words of the script language and the module aliases that generated
code relies on: no generated name may be one of them. -/
def reservedNames : List String :=
  ["False", "None", "True", "and", "as", "assert", "async", "await", "break", "class",
   "continue", "def", "del", "elif", "else", "except", "finally", "for", "from", "global",
   "if", "import", "in", "is", "lambda", "nonlocal", "not", "or", "pass", "raise", "return",
   "try", "while", "with", "yield", "os", "pd", "np", "sqlalchemy"]

/-- An identifier being built: its characters, last one first, and whether
the last character read was a small letter or a digit. -/
structure IdentifierDraft where
  reversed : List Char := []
  afterSmall : Bool := false

/-- One character of the free name. -/
def IdentifierDraft.push (d : IdentifierDraft) (c : Char) : IdentifierDraft :=
  if c.isUpper then
    ⟨c.toLower :: (if d.afterSmall then '_' :: d.reversed else d.reversed), false⟩
  else if c.isAlphanum then
    ⟨c :: d.reversed, true⟩
  else
    match d.reversed with
    | [] => ⟨[], false⟩
    | '_' :: _ => ⟨d.reversed, false⟩
    | _ :: _ => ⟨'_' :: d.reversed, false⟩

/-- The finished identifier: no underscore at the end, an underscore before
a leading digit, and `node` for a name without letters and digits. -/
def IdentifierDraft.finish (d : IdentifierDraft) : List Char :=
  match (d.reversed.dropWhile (· == '_')).reverse with
  | [] => ['n', 'o', 'd', 'e']
  | c :: r => if c.isDigit then '_' :: c :: r else c :: r

/-- The identifier of a free name. -/
def snakeCase (name : String) : String :=
  String.ofList (name.toList.foldl IdentifierDraft.push {}).finish

end PipelineScript.Text
