/-
# Questions, tables and what becomes of them

A surface is all that takes part when nodes are edited: the service that asks
the schema backend, the questions it has asked, the tables of the nodes and
the place they write their rows to.  Questions are asked, nodes are forgotten
and questions come back, in any order and any number of times; what comes of
a question goes to the table of its node at once.

A surface keeps a log of what happens.  What becomes of a question can be read
off the log (`Settled`), and so can the columns that came in time (`arrivals`);
the choices of a table change with the second only (`complete_choices`).
-/
import Mathlib.Logic.Function.Basic
import PipelineScript.Proofs.Schema.Tickets
import PipelineScript.Proofs.Table.Edits

namespace PipelineScript

/-- Something that happens while nodes are edited. -/
inductive Happening where
  | askUpstream (graph : Graph) (node : String)
  | askTable (node : String) (connection : Connection) (tableName : String)
      (probe : Option String)
  | forget (node : String)
  /-- A question comes back, with an answer or, its time being up, without. -/
  | comeBack (question : Nat) (reply : Option (Except SchemaError (List Column)))

/-- The target of a new question. -/
def Happening.target? : Happening → Option Target
  | askUpstream _ node => some ⟨node, .upstream⟩
  | askTable node _ _ _ => some ⟨node, .table⟩
  | forget _ | comeBack _ _ => none

/-- The service, the tables of the nodes, and what has happened so far. -/
structure Surface (σ : Type) where
  service : Discovery := {}
  /-- The questions asked.  One that has come back may be sent again. -/
  asked : List Prepared := []
  tables : String → Table MappingRow
  /-- Where the tables write their rows to. -/
  store : σ
  log : List LogEntry := []

namespace Surface

variable {σ : Type}

/-- The surface before anything has happened. -/
def start (timeoutMs : Nat) (registry : Option Registry) (tables : String → Table MappingRow)
    (store : σ) : Surface σ :=
  { service := { timeoutMs, registry }, tables, store }

/-- The service has asked, or failed to ask, a question about a target. -/
def ask (s : Surface σ) (target : Target) (asking : Except SchemaError Prepared × Discovery) :
    Surface σ :=
  { s with
    service := asking.2
    asked := s.asked ++ asking.1.toOption.toList
    log := s.log ++ [.issued (s.service.tickets.issue target).1] }

/-- The outcome of a question goes to the table of its node. -/
def hand (sink : Sink σ) (s : Surface σ) (target : Target)
    (outcome : Except SchemaError Finding) : Surface σ :=
  let table := s.tables target.node
  match target.purpose with
  | .upstream =>
    { s with tables := Function.update s.tables target.node (table.receiveChoices outcome).2 }
  | .table =>
    let edited := table.receiveSchema sink s.store outcome
    { s with
      tables := Function.update s.tables target.node edited.table
      store := edited.sink }

/-- What is noted down when a question comes back. -/
def entry (s : Surface σ) (t : Ticket) (reply : Option (Except SchemaError (List Column))) :
    LogEntry :=
  .completed t reply (s.service.complete t reply)

/-- A question comes back. -/
def complete (sink : Sink σ) (s : Surface σ) (t : Ticket)
    (reply : Option (Except SchemaError (List Column))) : Surface σ :=
  { s.hand sink t.target (s.service.complete t reply) with log := s.log ++ [s.entry t reply] }

def step (sink : Sink σ) (s : Surface σ) : Happening → Surface σ
  | .askUpstream g node => s.ask ⟨node, .upstream⟩ (s.service.prepareUpstream g node)
  | .askTable node connection tableName probe =>
    let (prepared, service) := s.service.prepareTable node connection tableName probe
    s.ask ⟨node, .table⟩ (.ok prepared, service)
  | .forget node =>
    { s with service := (s.service.forget node).2, log := s.log ++ [.forgotten node] }
  | .comeBack question reply =>
    match s.asked[question]? with
    | none => s
    | some p => s.complete sink p.ticket reply

/-- Everything happens one after the other. -/
def run (sink : Sink σ) (s : Surface σ) (happenings : List Happening) : Surface σ :=
  happenings.foldl (step sink) s

end Surface

/-! ## What the log tells -/

/-- What became of a question that came back, by the log so far and the reply:
the columns or the failure of the backend, or that the time was up, if its ticket
counts, and nothing otherwise. -/
structure Settled (timeoutMs : Nat) (before : List LogEntry) (t : Ticket)
    (reply : Option (Except SchemaError (List Column))) (outcome : Except SchemaError Finding) :
    Prop where
  answered : Counts before t → ∀ columns, reply = some (.ok columns) →
    outcome = .ok (.current columns)
  failed : Counts before t → ∀ e, reply = some (.error e) → outcome = .error e
  overdue : Counts before t → reply = none → outcome = .error (.timeout timeoutMs)
  superseded : ¬ Counts before t → outcome = .ok .superseded

/-- The columns that an entry brings for the input of a node. -/
def LogEntry.arrival? (node : String) : LogEntry → Option (Ticket × List Column)
  | completed t _ (.ok (.current columns)) =>
    if t.target = ⟨node, .upstream⟩ then some (t, columns) else none
  | _ => none

/-- The columns that came in time for the input of a node, with their tickets,
in the order in which they came. -/
def arrivals (node : String) (log : List LogEntry) : List (Ticket × List Column) :=
  log.filterMap (·.arrival? node)

theorem arrival?_eq_some_iff {node : String} {e : LogEntry} {t : Ticket}
    {columns : List Column} :
    e.arrival? node = some (t, columns) ↔
      ∃ reply, e = .completed t reply (.ok (.current columns)) ∧
        t.target = ⟨node, .upstream⟩ := by
  constructor
  · intro h
    unfold LogEntry.arrival? at h
    split at h
    · rename_i u reply found
      split at h
      · rename_i htarget
        cases h
        exact ⟨reply, rfl, htarget⟩
      · cases h
    · cases h
  · rintro ⟨reply, rfl, htarget⟩
    simp [LogEntry.arrival?, htarget]

theorem arrival?_of_ne {node : String} {t : Ticket} (h : t.target ≠ ⟨node, .upstream⟩)
    {reply : Option (Except SchemaError (List Column))} {outcome : Except SchemaError Finding} :
    (LogEntry.completed t reply outcome).arrival? node = none := by
  match outcome with
  | .ok (.current columns) => exact if_neg h
  | .ok .superseded => rfl
  | .error e => rfl

/-! ## The operations of the service -/

/-- The service issues a ticket for the target, and a question it prepares
carries this ticket. -/
structure Asks (d : Discovery) (target : Target)
    (asking : Except SchemaError Prepared × Discovery) : Prop where
  tickets : asking.2.tickets = (d.tickets.issue target).2
  timeoutMs : asking.2.timeoutMs = d.timeoutMs
  carries : ∀ p, asking.1 = .ok p → p.ticket = (d.tickets.issue target).1

theorem Asks.ticket_eq {d : Discovery} {target : Target}
    {asking : Except SchemaError Prepared × Discovery} (asks : Asks d target asking) {p : Prepared}
    (hp : p ∈ asking.1.toOption) : p.ticket = (d.tickets.issue target).1 := by
  refine asks.carries p ?_
  cases hask : asking.1 with
  | error e =>
      rw [hask] at hp
      cases hp
  | ok q =>
      rw [hask] at hp
      cases hp
      rfl

theorem asks_prepareUpstream (d : Discovery) (g : Graph) (node : String) :
    Asks d ⟨node, .upstream⟩ (d.prepareUpstream g node) := by
  refine ⟨rfl, rfl, fun p hp => ?_⟩
  have hmap : (d.prepareUpstream g node).1 =
      (Discovery.upstreamQuestion d.registry g node).map
        (Prepared.mk (d.tickets.issue ⟨node, .upstream⟩).1) := rfl
  rw [hmap] at hp
  cases hq : Discovery.upstreamQuestion d.registry g node with
  | error e => rw [hq] at hp; cases hp
  | ok question => rw [hq] at hp; cases hp; rfl

theorem asks_prepareTable (d : Discovery) (node : String) (connection : Connection)
    (tableName : String) (probe : Option String) :
    Asks d ⟨node, .table⟩ (.ok (d.prepareTable node connection tableName probe).1,
      (d.prepareTable node connection tableName probe).2) := by
  refine ⟨rfl, rfl, fun p hp => ?_⟩
  cases hp
  rfl

theorem settled_of_records {log : List LogEntry} {d : Discovery} (h : Records log d.tickets)
    (t : Ticket) (reply : Option (Except SchemaError (List Column))) :
    Settled d.timeoutMs log t reply (d.complete t reply) := by
  have hcounts : Counts log t → d.complete t reply = (d.answerInTime reply).map .current := by
    intro hc
    exact if_pos ((h.current t).mpr hc)
  refine ⟨?_, ?_, ?_, ?_⟩
  · intro hc columns hreply
    rw [hcounts hc, hreply]
    rfl
  · intro hc e hreply
    rw [hcounts hc, hreply]
    rfl
  · intro hc hreply
    rw [hcounts hc, hreply]
    rfl
  · intro hc
    exact if_neg (mt (h.current t).mp hc)

/-! ## The tables -/

namespace Table

theorem receiveSchema_choices {σ : Type} (t : Table MappingRow) (sink : Sink σ) (store : σ)
    (outcome : Except SchemaError Finding) :
    (t.receiveSchema sink store outcome).table.choices = t.choices := by
  match outcome with
  | .ok (.current columns) =>
    show (t.applySchema sink store columns).table.choices = t.choices
    rw [applySchema, commit_table]
  | .ok .superseded => rfl
  | .error e => rfl

end Table

namespace Surface

variable {σ : Type} {sink : Sink σ} {s : Surface σ}

theorem complete_log (t : Ticket) (reply : Option (Except SchemaError (List Column))) :
    (s.complete sink t reply).log = s.log ++ [s.entry t reply] :=
  rfl

theorem complete_service (t : Ticket) (reply : Option (Except SchemaError (List Column))) :
    (s.complete sink t reply).service = s.service := by
  obtain ⟨⟨node, purpose⟩, number⟩ := t
  cases purpose <;> rfl

theorem complete_asked (t : Ticket) (reply : Option (Except SchemaError (List Column))) :
    (s.complete sink t reply).asked = s.asked := by
  obtain ⟨⟨node, purpose⟩, number⟩ := t
  cases purpose <;> rfl

theorem hand_choices_of_ne {node : String} {target : Target} (h : target ≠ ⟨node, .upstream⟩)
    (outcome : Except SchemaError Finding) :
    ((s.hand sink target outcome).tables node).choices = (s.tables node).choices := by
  obtain ⟨other, purpose⟩ := target
  by_cases hnode : node = other
  · subst hnode
    cases purpose with
    | upstream => exact absurd rfl h
    | table =>
        show (Function.update s.tables node _ node).choices = _
        rw [Function.update_self, Table.receiveSchema_choices]
  · cases purpose with
    | upstream => exact congrArg Table.choices (Function.update_of_ne hnode ..)
    | table => exact congrArg Table.choices (Function.update_of_ne hnode ..)

theorem hand_upstream (node : String) (outcome : Except SchemaError Finding) :
    (s.hand sink ⟨node, .upstream⟩ outcome).tables node =
      ((s.tables node).receiveChoices outcome).2 :=
  Function.update_self ..

/-- A table's choices change only by columns that came for its node. -/
theorem complete_choices (t : Ticket) (reply : Option (Except SchemaError (List Column)))
    (node : String) :
    ((s.complete sink t reply).tables node).choices =
      (((s.entry t reply).arrival? node).map (·.2)).getD (s.tables node).choices := by
  show ((s.hand sink t.target (s.service.complete t reply)).tables node).choices = _
  rw [entry]
  generalize s.service.complete t reply = outcome
  by_cases ht : t.target = ⟨node, .upstream⟩
  · rw [ht, hand_upstream]
    match outcome with
    | .ok (.current columns) =>
      simp [LogEntry.arrival?, ht, Table.receiveChoices, Table.applyChoices]
    | .ok .superseded => rfl
    | .error e => rfl
  · rw [hand_choices_of_ne ht, arrival?_of_ne ht]
    rfl

end Surface

end PipelineScript
