/-
# The registry of components

Components under their identities, in the order of registration.  An
identity is registered once.
-/
import PipelineScript.Component.Basic
import PipelineScript.Text.Visible

namespace PipelineScript

/-- The components of an application. -/
structure Registry where
  components : List Component := []

/-- Why a registry refuses. -/
inductive RegistryError where
  | duplicate (identity : String)
  | unknown (identity : String)
deriving Repr, DecidableEq

def RegistryError.message : RegistryError → String
  | duplicate identity =>
    "A component with identity '" ++ identity ++ "' is already registered"
  | unknown identity => "No component is registered for node type '" ++ identity ++ "'"

namespace Registry

def find? (r : Registry) (identity : String) : Option Component :=
  r.components.find? (·.identity == identity)

def contains (r : Registry) (identity : String) : Bool :=
  (r.find? identity).isSome

/-- The component of an identity. -/
def resolve (r : Registry) (identity : String) : Except RegistryError Component :=
  match r.find? identity with
  | some c => .ok c
  | none => .error (.unknown identity)

/-- Adds a component under a new identity. -/
def register (r : Registry) (c : Component) : Except RegistryError Registry :=
  if r.contains c.identity then .error (.duplicate c.identity)
  else .ok ⟨r.components ++ [c]⟩

/-- Adds components one after the other, up to the first refusal. -/
def registerAll (r : Registry) (cs : List Component) : Except RegistryError Registry :=
  cs.foldlM register r

def identities (r : Registry) : List String :=
  r.components.map (·.identity)

def size (r : Registry) : Nat :=
  r.components.length

/-- The components of a category. -/
def inCategory (r : Registry) (category : String) : List Component :=
  r.components.filter (·.category == category)

/-- The components of a kind. -/
def ofKind (r : Registry) (kind : Kind) : List Component :=
  r.components.filter (·.kind == kind)

/-- The registry as it is shown in messages. -/
def summary (r : Registry) : String :=
  "ComponentRegistry \x7b identities: [" ++
    ", ".intercalate (r.identities.map Text.visible) ++ "] \x7d"

end Registry

end PipelineScript
