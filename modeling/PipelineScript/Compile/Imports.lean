/-
# Import statements

The statements of a script, each exact text once, in the order in which
they were first seen.  Blank statements are ignored; statements that differ
only in their blanks are different statements.
-/
import PipelineScript.Text.Blank

namespace PipelineScript.Compile

/-- The statements so far, in first-seen order. -/
structure Imports where
  statements : List String := []
deriving Repr, DecidableEq

namespace Imports

/-- Would this statement be a new one? -/
def admits (imports : Imports) (statement : String) : Bool :=
  !Text.isBlankText statement && !imports.statements.contains statement

/-- Adds a statement unless it is blank or already there. -/
def insert (imports : Imports) (statement : String) : Imports :=
  if imports.admits statement then ⟨imports.statements ++ [statement]⟩ else imports

/-- Adds statements one after the other. -/
def extend (imports : Imports) (statements : List String) : Imports :=
  statements.foldl insert imports

def size (imports : Imports) : Nat :=
  imports.statements.length

end Imports

end PipelineScript.Compile
