/-
# No stale answer is applied

`no_stale_answer` says what every run of a surface amounts to.  A question that
comes back is settled by its ticket alone: if the ticket counts at that moment,
the outcome is what the backend replied, and if not, it is superseded, be it
answered, failed or overdue.  So the choices of a table are always those that
came last in time; and while 64 bits last for the tickets, these are the choices
of the latest question that was answered in time.

All of it follows from an agreement between a surface and its log (`Agrees`),
which every happening keeps.
-/
import PipelineScript.Proofs.Schema.Surface

namespace PipelineScript

namespace Surface

variable {σ : Type} {sink : Sink σ} {s : Surface σ}

/-! ## What every happening keeps -/

/-- The surface agrees with its log. -/
structure Agrees (timeoutMs : Nat) (first : String → Table MappingRow) (s : Surface σ) :
    Prop where
  records : Records s.log s.service.tickets
  limit : s.service.timeoutMs = timeoutMs
  asked : ∀ p ∈ s.asked, .issued p.ticket ∈ s.log
  completed : ∀ t reply outcome, .completed t reply outcome ∈ s.log → .issued t ∈ s.log
  settled : ∀ before t reply outcome, before ++ [.completed t reply outcome] <+: s.log →
    Settled timeoutMs before t reply outcome
  choices : ∀ node, (s.tables node).choices =
    ((arrivals node s.log).getLast?.map (·.2)).getD (first node).choices
  inOrder : InRange s.log → ∀ node, (arrivals node s.log).Pairwise (·.1.number ≤ ·.1.number)

theorem agrees_start (timeoutMs : Nat) (registry : Option Registry)
    (tables : String → Table MappingRow) (store : σ) :
    Agrees timeoutMs tables (start timeoutMs registry tables store) where
  records := records_start
  limit := rfl
  asked := by simp [start]
  completed := by simp [start]
  settled before t reply outcome h := by simp [start] at h
  choices node := rfl
  inOrder _ node := List.Pairwise.nil

section Agrees
variable {timeoutMs : Nat} {first : String → Table MappingRow} (h : Agrees timeoutMs first s)
include h

theorem Agrees.issued_of_mem_arrivals {node : String} {a : Ticket × List Column}
    (ha : a ∈ arrivals node s.log) : .issued a.1 ∈ s.log ∧ a.1.target = ⟨node, .upstream⟩ := by
  obtain ⟨e, he, harrival⟩ := List.mem_filterMap.mp ha
  obtain ⟨reply, rfl, htarget⟩ := arrival?_eq_some_iff.mp harrival
  exact ⟨h.completed _ _ _ he, htarget⟩

/-- Columns that come in time belong to the latest ticket of all those whose
columns came for the node. -/
theorem Agrees.number_le {node : String} {a b : Ticket × List Column} {e : LogEntry}
    (range : InRange s.log) (hb : b ∈ arrivals node s.log) (ha : e.arrival? node = some a)
    (settled : ∀ t reply outcome, e = .completed t reply outcome →
      Settled timeoutMs s.log t reply outcome) : b.1.number ≤ a.1.number := by
  obtain ⟨reply, rfl, htarget⟩ := arrival?_eq_some_iff.mp ha
  obtain ⟨hissued, hsame⟩ := h.issued_of_mem_arrivals hb
  by_cases hcounts : Counts s.log a.1
  · exact h.records.number_le range hcounts hissued (hsame.trans htarget.symm)
  · have hlapsed := (settled _ _ _ rfl).superseded hcounts
    cases hlapsed

/-- The agreement is kept by an entry that the service keeps to.  If it notes
down a question that came back, this must have been settled, and the tables
must have been told. -/
theorem Agrees.append {s' : Surface σ} {e : LogEntry} (hlog : s'.log = s.log ++ [e])
    (records : Records s'.log s'.service.tickets) (limit : s'.service.timeoutMs = timeoutMs)
    (asked : ∀ p ∈ s'.asked, .issued p.ticket ∈ s'.log)
    (settled : ∀ t reply outcome, e = .completed t reply outcome →
      .issued t ∈ s.log ∧ Settled timeoutMs s.log t reply outcome)
    (choices : ∀ node, (s'.tables node).choices =
      ((e.arrival? node).map (·.2)).getD (s.tables node).choices) :
    Agrees timeoutMs first s' := by
  have harrivals : ∀ node, arrivals node s'.log =
      arrivals node s.log ++ (e.arrival? node).toList := by
    intro node
    rw [hlog, arrivals, List.filterMap_append, ← arrivals]
    cases ha : e.arrival? node <;> simp [ha]
  refine ⟨records, limit, asked, ?_, ?_, ?_, ?_⟩
  · intro t reply outcome hmem
    rw [hlog] at hmem ⊢
    refine List.mem_append_left _ ?_
    rcases List.mem_append.mp hmem with hmem | hmem
    · exact h.completed t reply outcome hmem
    · exact (settled t reply outcome (List.mem_singleton.mp hmem).symm).1
  · intro before t reply outcome hprefix
    rw [hlog] at hprefix
    rcases List.prefix_concat_iff.mp hprefix with heq | hprefix
    · obtain ⟨rfl, hentry⟩ := List.append_inj' heq rfl
      exact (settled t reply outcome (List.cons.inj hentry).1.symm).2
    · exact h.settled before t reply outcome hprefix
  · intro node
    rw [choices, harrivals, h.choices node]
    cases e.arrival? node <;> simp
  · intro range node
    have range : InRange s.log := range.of_prefix (hlog ▸ List.prefix_append ..)
    rw [harrivals]
    refine List.pairwise_append.mpr ⟨h.inOrder range node, ?_, ?_⟩
    · cases e.arrival? node <;> simp
    · intro b hb a ha
      refine h.number_le range hb (Option.mem_toList.mp ha) ?_
      intro t reply outcome he
      exact (settled t reply outcome he).2

theorem Agrees.ask {target : Target} {asking : Except SchemaError Prepared × Discovery}
    (asks : Asks s.service target asking) : Agrees timeoutMs first (s.ask target asking) := by
  refine h.append rfl ?_ (asks.timeoutMs.trans h.limit) ?_ ?_ ?_
  · show Records _ asking.2.tickets
    rw [asks.tickets]
    exact h.records.issue target
  · intro p hp
    show _ ∈ s.log ++ [.issued (s.service.tickets.issue target).1]
    rcases List.mem_append.mp hp with hp | hp
    · exact List.mem_append_left _ (h.asked p hp)
    · rw [asks.ticket_eq (Option.mem_toList.mp hp)]
      exact List.mem_append_right _ (List.mem_singleton_self _)
  · intro t reply outcome he
    cases he
  · intro node
    rfl

theorem Agrees.complete (t : Ticket) (ht : .issued t ∈ s.log)
    (reply : Option (Except SchemaError (List Column))) :
    Agrees timeoutMs first (s.complete sink t reply) := by
  refine h.append (complete_log t reply) ?_ ?_ ?_ ?_ (complete_choices t reply)
  · rw [complete_service, complete_log]
    exact h.records.completed t _ _
  · rw [complete_service, h.limit]
  · intro p hp
    rw [complete_asked] at hp
    rw [complete_log]
    exact List.mem_append_left _ (h.asked p hp)
  · intro u reply' outcome he
    cases he
    exact ⟨ht, h.limit ▸ settled_of_records h.records t reply⟩

theorem Agrees.step (x : Happening) : Agrees timeoutMs first (s.step sink x) := by
  cases x with
  | askUpstream g node => exact h.ask (asks_prepareUpstream s.service g node)
  | askTable node connection tableName probe =>
      exact h.ask (asks_prepareTable s.service node connection tableName probe)
  | forget node =>
      refine h.append rfl (h.records.forget node) h.limit ?_ ?_ ?_
      · intro p hp
        exact List.mem_append_left _ (h.asked p hp)
      · intro t reply outcome he
        cases he
      · intro other
        rfl
  | comeBack question reply =>
      cases hq : s.asked[question]? with
      | none => simpa [Surface.step, hq] using h
      | some p =>
          have hp : p ∈ s.asked := List.mem_of_getElem? hq
          simpa [Surface.step, hq] using h.complete p.ticket (h.asked p hp) reply

end Agrees

theorem agrees_run {timeoutMs : Nat} {first : String → Table MappingRow}
    (happenings : List Happening) : ∀ {s : Surface σ}, Agrees timeoutMs first s →
      Agrees timeoutMs first (s.run sink happenings) := by
  induction happenings with
  | nil =>
      intro s h
      exact h
  | cons x rest ih =>
      intro s h
      exact ih (h.step x)

/-! ## Tickets over time -/

theorem log_prefix_step (x : Happening) : s.log <+: (s.step sink x).log := by
  cases x with
  | askUpstream g node => exact List.prefix_append ..
  | askTable node connection tableName probe => exact List.prefix_append ..
  | forget node => exact List.prefix_append ..
  | comeBack question reply =>
      cases hq : s.asked[question]? with
      | none => simp [step, hq]
      | some p => simp [step, hq, complete_log]

theorem log_prefix_run (happenings : List Happening) :
    ∀ {s : Surface σ}, s.log <+: (s.run sink happenings).log := by
  induction happenings with
  | nil => exact List.prefix_rfl
  | cons x rest ih => exact (log_prefix_step x).trans ih

theorem step_asking {x : Happening} {target : Target} (hx : x.target? = some target) :
    ∃ asking, Asks s.service target asking ∧ s.step sink x = s.ask target asking := by
  cases x with
  | askUpstream g node =>
      cases hx
      exact ⟨_, asks_prepareUpstream s.service g node, rfl⟩
  | askTable node connection tableName probe =>
      cases hx
      exact ⟨_, asks_prepareTable s.service node connection tableName probe, rfl⟩
  | forget node => cases hx
  | comeBack question reply => cases hx

section Lapsing
variable {timeoutMs : Nat} {first : String → Table MappingRow} (h : Agrees timeoutMs first s)
  {t : Ticket}
include h

/-- A ticket that does not count has to be issued again to count again. -/
theorem Agrees.issued_again (hlapsed : ¬ s.service.tickets.isCurrent t = true)
    (later : List Happening) (hcurrent : (s.run sink later).service.tickets.isCurrent t = true) :
    ∃ rest, (s.run sink later).log = s.log ++ rest ∧ .issued t ∈ rest := by
  have hlater : Agrees timeoutMs first (s.run sink later) := agrees_run later h
  obtain ⟨rest, hrest⟩ : s.log <+: (s.run sink later).log := log_prefix_run later
  refine ⟨rest, hrest.symm, ?_⟩
  rw [h.records.current] at hlapsed
  rw [hlater.records.current, ← hrest] at hcurrent
  by_contra hnew
  exact not_counts_append hlapsed hnew hcurrent

variable (hissued : .issued t ∈ s.log)
include hissued

theorem Agrees.not_current_run (hlapsed : ¬ s.service.tickets.isCurrent t = true)
    (later : List Happening) (range : InRange (s.run sink later).log) :
    ¬ (s.run sink later).service.tickets.isCurrent t = true := by
  intro hcurrent
  obtain ⟨rest, hlog, hagain⟩ := h.issued_again hlapsed later hcurrent
  have hrecords : Records (s.run sink later).log (s.run sink later).service.tickets :=
    (agrees_run later h).records
  rw [hlog] at hrecords range
  exact hrecords.not_issued_again range hissued hagain

theorem Agrees.current_after_asking {x : Happening} {target : Target}
    (hx : x.target? = some target) (range : InRange (s.step sink x).log) :
    (s.step sink x).service.tickets.isCurrent t = true ↔
      t.target ≠ target ∧ s.service.tickets.isCurrent t = true := by
  have hrecords : Records (s.step sink x).log (s.step sink x).service.tickets :=
    (h.step x).records
  obtain ⟨asking, -, hstep⟩ := step_asking (s := s) hx
  have hlog : (s.step sink x).log = s.log ++ [.issued (s.service.tickets.issue target).1] := by
    rw [hstep]
    rfl
  rw [hlog] at hrecords range
  have hnew : LogEntry.issued (s.service.tickets.issue target).1 ≠ .issued t := by
    intro heq
    exact hrecords.not_issued_again range hissued (List.mem_singleton.mpr heq.symm)
  rw [hrecords.current, counts_append_iff, or_iff_right hnew, h.records.current, and_comm]
  exact and_congr_left' ne_comm

end Lapsing

/-- An outcome that was superseded is noted down, and that is all. -/
theorem step_of_lapsed {question : Nat} {p : Prepared} (hp : s.asked[question]? = some p)
    (hlapsed : ¬ s.service.tickets.isCurrent p.ticket = true)
    (reply : Option (Except SchemaError (List Column))) :
    s.step sink (.comeBack question reply) =
      { s with log := s.log ++ [.completed p.ticket reply (.ok .superseded)] } := by
  have houtcome : s.service.complete p.ticket reply = .ok .superseded := if_neg hlapsed
  have hhand : s.hand sink p.ticket.target (.ok .superseded) = s := by
    cases hpurpose : p.ticket.target.purpose <;>
      simp [hand, hpurpose, Table.receiveChoices, Table.receiveSchema]
  simp [step, hp, complete, entry, houtcome, hhand]

end Surface

/-! ## The run -/

open Surface

/-- What is known of a surface after a run that began with these tables. -/
structure NoStale {σ : Type} (sink : Sink σ) (timeoutMs : Nat)
    (first : String → Table MappingRow) (s : Surface σ) : Prop where
  /-- Asking is noted down with the ticket that is issued, and a question that is
  prepared is asked under this ticket. -/
  asks : ∀ x target, x.target? = some target → ∃ t, t.target = target ∧
    (s.step sink x).log = s.log ++ [.issued t] ∧
      ∃ prepared : Option Prepared, (s.step sink x).asked = s.asked ++ prepared.toList ∧
        ∀ p ∈ prepared, p.ticket = t
  /-- The service takes the tickets for current that count by the log. -/
  current : ∀ t, s.service.tickets.isCurrent t = true ↔ Counts s.log t
  /-- The tickets are numbered from one on, as far as 64 bits go, and then from
  zero on. -/
  numbers : (issuedTickets s.log).map (·.number) =
    (List.range' 1 (issuedTickets s.log).length).map UInt64.ofNat
  /-- A ticket that does not count has to be issued again, with the same number,
  to count again. -/
  issuedAgain : ∀ t, ¬ s.service.tickets.isCurrent t = true →
    ∀ later, (s.run sink later).service.tickets.isCurrent t = true →
      ∃ rest, (s.run sink later).log = s.log ++ rest ∧ .issued t ∈ rest
  /-- Every question that came back was settled by its ticket at that moment. -/
  settled : ∀ before t reply outcome, before ++ [.completed t reply outcome] <+: s.log →
    Settled timeoutMs before t reply outcome
  /-- A question is noted down when it comes back, with the reply that there was
  and what it comes to by then. -/
  comesBack : ∀ question p, s.asked[question]? = some p → ∀ reply, ∃ outcome,
    (s.step sink (.comeBack question reply)).log =
        s.log ++ [.completed p.ticket reply outcome] ∧
      Settled timeoutMs s.log p.ticket reply outcome
  /-- What comes back for an overtaken ticket changes neither a table nor what
  the tables have written. -/
  superseded : ∀ question p, s.asked[question]? = some p →
    ¬ s.service.tickets.isCurrent p.ticket = true → ∀ reply,
      s.step sink (.comeBack question reply) =
        { s with log := s.log ++ [.completed p.ticket reply (.ok .superseded)] }
  /-- A table has the choices that came last in time, or its first ones. -/
  choices : ∀ node, (s.tables node).choices =
    ((arrivals node s.log).getLast?.map (·.2)).getD (first node).choices

/-- What is known besides, as long as 64 bits last for the numbers of the tickets. -/
structure InTurn {σ : Type} (sink : Sink σ) (s : Surface σ) : Prop where
  /-- No number is used twice. -/
  numbered : (issuedTickets s.log).map (·.number.toNat) =
    List.range' 1 (issuedTickets s.log).length
  /-- A ticket that does not count never counts again. -/
  permanent : ∀ t, .issued t ∈ s.log → ¬ s.service.tickets.isCurrent t = true →
    ∀ later, InRange (s.run sink later).log →
      ¬ (s.run sink later).service.tickets.isCurrent t = true
  /-- Asking overtakes the earlier tickets of the target, be there a question
  in the end or not, and leaves all others as they are. -/
  overtaken : ∀ x target, x.target? = some target → InRange (s.step sink x).log →
    ∀ t, .issued t ∈ s.log → ((s.step sink x).service.tickets.isCurrent t = true ↔
      t.target ≠ target ∧ s.service.tickets.isCurrent t = true)
  /-- What came last in time was asked last. -/
  inOrder : ∀ node, (arrivals node s.log).Pairwise (·.1.number ≤ ·.1.number)

/-- **No stale answer is applied**, whatever is asked, forgotten and answered,
and in whatever order. -/
theorem no_stale_answer {σ : Type} (sink : Sink σ) (timeoutMs : Nat) (registry : Option Registry)
    (tables : String → Table MappingRow) (store : σ) (happenings : List Happening) :
    let s := (start timeoutMs registry tables store).run sink happenings
    NoStale sink timeoutMs tables s ∧ (InRange s.log → InTurn sink s) := by
  intro s
  have h : Agrees timeoutMs tables s :=
    agrees_run happenings (agrees_start timeoutMs registry tables store)
  refine ⟨⟨?_, h.records.current, h.records.numbers, ?_, h.settled, ?_, ?_, h.choices⟩, ?_⟩
  · intro x target hx
    obtain ⟨asking, asks, hstep⟩ := step_asking hx
    rw [hstep]
    refine ⟨(s.service.tickets.issue target).1, rfl, rfl, asking.1.toOption, rfl, ?_⟩
    intro p hp
    exact asks.ticket_eq hp
  · intro t hlapsed later hcurrent
    exact h.issued_again hlapsed later hcurrent
  · intro question p hp reply
    refine ⟨s.service.complete p.ticket reply, ?_,
      h.limit ▸ settled_of_records h.records p.ticket reply⟩
    simp only [step, hp]
    exact complete_log p.ticket reply
  · intro question p hp hlapsed reply
    exact step_of_lapsed hp hlapsed reply
  · intro range
    refine ⟨h.records.numbered range, ?_, ?_, h.inOrder range⟩
    · intro t hissued hlapsed later range
      exact h.not_current_run hissued hlapsed later range
    · intro x target hx range t hissued
      exact h.current_after_asking hissued hx range

/-- Two questions about one node, of which the second is answered first.  Then
the node is forgotten and asked about again, in vain. -/
def overtakenQuestions (g : Graph) (first second : List Column) : List Happening :=
  [.askUpstream g "map", .askUpstream g "map", .comeBack 1 (some (.ok second)),
    .comeBack 0 (some (.ok first)), .forget "map", .askUpstream g "map",
    .comeBack 0 (some (.ok first)), .comeBack 2 none]

theorem no_stale_answer_overtaken :
    let g : Graph := { nodes := [⟨"map", "columnMapping", .null, ["in"], []⟩], edges := [] }
    let tables : String → Table MappingRow := fun node => { node, field := "mapping" }
    let sink : Sink Unit := ⟨fun _ _ _ store => .ok () store⟩
    let first : List Column := [⟨"legacy_email", "legacy_email", "object", true⟩]
    let second : List Column := [⟨"email", "email", "object", true⟩]
    let s := (start 30000 none tables ()).run sink (overtakenQuestions g first second)
    InRange s.log ∧ NoStale sink 30000 tables s ∧ InTurn sink s ∧
      (s.tables "map").choices = second := by
  intro g tables sink first second s
  have h := no_stale_answer sink 30000 none tables () (overtakenQuestions g first second)
  have range : InRange s.log := by
    unfold InRange
    decide +kernel
  exact ⟨range, h.1, h.2 range, by decide +kernel⟩

end PipelineScript
