/-
# Tickets

Every question is asked under a ticket.  Of the tickets for one target,
that is, a node and a purpose, only the latest counts.  Numbers come from
one counter of 64 bits, so until it has come round a ticket that was overtaken
or whose node was forgotten does not count again.
-/

namespace PipelineScript

/-- What a question is for. -/
inductive Purpose where
  | upstream
  | table
deriving Repr, DecidableEq

/-- Questions for one target overtake each other. -/
structure Target where
  node : String
  purpose : Purpose
deriving Repr, DecidableEq

structure Ticket where
  target : Target
  number : UInt64
deriving Repr, DecidableEq

/-- The tickets that count: the number that was issued last, and the latest
number of each target. -/
structure Tickets where
  issued : UInt64 := 0
  latest : List (Target × UInt64) := []
deriving Repr, DecidableEq

namespace Tickets

/-- A new ticket for a target.  Behind the greatest number the count goes on at
zero. -/
def issue (ts : Tickets) (target : Target) : Ticket × Tickets :=
  let number := ts.issued + 1
  (⟨target, number⟩,
    { issued := number
      latest := (target, number) :: ts.latest.filter (·.1 != target) })

/-- Does the ticket count? -/
def isCurrent (ts : Tickets) (t : Ticket) : Bool :=
  ts.latest.lookup t.target == some t.number

/-- Drops the tickets of a node; answers how many targets had one. -/
def forget (ts : Tickets) (node : String) : Nat × Tickets :=
  let kept := ts.latest.filter (·.1.node != node)
  (ts.latest.length - kept.length, { ts with latest := kept })

end Tickets

end PipelineScript
