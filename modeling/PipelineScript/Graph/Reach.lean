/-
# Searching along arcs

Two searches, both with a stack of what is to be looked at next.  `reached`
collects everything that can be reached from a start; what it meets for the
first time it notes down and puts on the stack.  `meets` asks for one goal and
stays in a pool; it takes from the stack whatever comes and notes it down then.

In both an arc puts its end on the stack once at most, so the arcs bound the
number of looks.
-/

namespace PipelineScript.Graph

variable {α : Type} [BEq α]

/-- Where the arcs go that leave a place. -/
def ends (arcs : List (α × α)) (a : α) : List α :=
  (arcs.filter fun arc => arc.1 == a).map Prod.snd

/-- A search under way: what is to be looked at, and what has been met. -/
structure Search (α : Type) where
  stack : List α
  seen : List α := []

/-- Meets the end of an arc. -/
def Search.meet (start : α) (s : Search α) (b : α) : Search α :=
  if b != start && !s.seen.contains b then ⟨b :: s.stack, b :: s.seen⟩ else s

/-- Looks at what is on the stack, over and over. -/
def Search.run (arcs : List (α × α)) (start : α) : (looks : Nat) → Search α → List α
  | 0, s => s.seen
  | looks + 1, s =>
    match s.stack with
    | [] => s.seen
    | a :: stack => run arcs start looks ((ends arcs a).foldl (meet start) { s with stack })

/-- Everything but the start that can be reached from there. -/
def reached (arcs : List (α × α)) (start : α) : List α :=
  Search.run arcs start (arcs.length + 1) { stack := [start] }

/-- Is the goal met, if every place of the pool leads on to the next ones? -/
def meets (next : α → List α) (pool : List α) (goal : α) :
    (looks : Nat) → (stack seen : List α) → Bool
  | 0, _, _ => false
  | _ + 1, [], _ => false
  | looks + 1, a :: stack, seen =>
    if a == goal then true
    else if !pool.contains a || seen.contains a then meets next pool goal looks stack seen
    else meets next pool goal looks ((next a).reverse ++ stack) (a :: seen)

end PipelineScript.Graph
