/-
# Asking for columns

A question is prepared under a ticket, sent, and completed when its answer
comes or its time is up.  At completion the ticket decides: an answer to a
question that was overtaken is dropped, be it columns or a failure.
-/
import PipelineScript.Compile.Walk
import PipelineScript.Schema.Message
import PipelineScript.Schema.Tickets

namespace PipelineScript

/-- The state of the service that asks. -/
structure Discovery where
  tickets : Tickets := {}
  /-- How long an answer may take, in whole milliseconds. -/
  timeoutMs : Nat := 30000
  /-- With a registry, questions about upstream columns carry a script. -/
  registry : Option Registry := none

/-- A question with its ticket, ready to be sent. -/
structure Prepared where
  ticket : Ticket
  question : Question
deriving Repr

namespace Discovery

/-- The variable that holds what flows into a node: the one that the source
of its first connected input port publishes in the script. -/
def previewVariable? (g : Graph) (id : String) (script : Script) : Option String := do
  let e ← (g.incoming id).head?
  let n ← g.node? e.source
  let port ← n.outputIndex? e.sourcePort
  let f ← script.fragment? e.source
  let slot ← f.outputs[port]?
  slot

/-- The question about what flows into a node. -/
def upstreamQuestion (registry : Option Registry) (g : Graph) (id : String) :
    Except SchemaError Question :=
  match g.upstream? id with
  | none => .error (.missingNode id)
  | some part =>
    match registry with
    | none => .ok (.upstream part id none none)
    | some r =>
      match compile r none part with
      | .error e => .error (.pipeline e)
      | .ok script =>
        .ok (.upstream part id (some script.render) (previewVariable? g id script))

/-- Prepares the question about what flows into a node.  The ticket is
issued even when there is no question, so that a failed attempt overtakes
earlier ones too. -/
def prepareUpstream (d : Discovery) (g : Graph) (id : String) :
    Except SchemaError Prepared × Discovery :=
  let (ticket, tickets) := d.tickets.issue ⟨id, .upstream⟩
  ((upstreamQuestion d.registry g id).map (Prepared.mk ticket), { d with tickets })

/-- The probe query to use: the given one unless it is blank. -/
def probeFor (tableName : String) (probe : Option String) : String :=
  match probe with
  | some q => if Text.isBlankText q then describeQuery tableName else q
  | none => describeQuery tableName

/-- Prepares the question about a table, on behalf of a node. -/
def prepareTable (d : Discovery) (id : String) (connection : Connection) (tableName : String)
    (probe : Option String) : Prepared × Discovery :=
  let (ticket, tickets) := d.tickets.issue ⟨id, .table⟩
  (⟨ticket, .table connection tableName (probeFor tableName probe)⟩, { d with tickets })

/-- What a question comes to: the reply of the backend, or that there was none
when the time was up.  The backend is asked before the clock is, so a reply that
is ready comes in time whatever the limit is. -/
def answerInTime (d : Discovery)
    (reply : Option (Except SchemaError (List Column))) : Except SchemaError (List Column) :=
  reply.getD (.error (.timeout d.timeoutMs))

/-- Completes a question whose outcome is settled. -/
def settle (d : Discovery) (ticket : Ticket) (outcome : Except SchemaError (List Column)) :
    Except SchemaError Finding :=
  if d.tickets.isCurrent ticket then outcome.map .current else .ok .superseded

/-- Completes a question that was waited for. -/
def complete (d : Discovery) (ticket : Ticket)
    (reply : Option (Except SchemaError (List Column))) : Except SchemaError Finding :=
  d.settle ticket (d.answerInTime reply)

/-- Drops every question that is under way for a node; answers for how
many targets there was one. -/
def forget (d : Discovery) (node : String) : Nat × Discovery :=
  let (count, tickets) := d.tickets.forget node
  (count, { d with tickets })

end Discovery

end PipelineScript
