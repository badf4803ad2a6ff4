/-
# Which tickets count

A log notes down, in order, which tickets were issued, which nodes forgotten
and which questions came back.  By the log a ticket counts if it was issued
and nothing has overtaken it since: no ticket for the same target, and no
forgetting of its node (`Counts`).

`Records` says that the service keeps to the log: the tickets it takes for
current are those that count, and the tickets in the log are numbered from one
on, modulo `2 ^ 64`.  Every entry keeps it.  While 64 bits last (`InRange`) no
two of the tickets are the same, so that a lapsed ticket stays so, whatever
happens to its node (`not_counts_append`).
-/
import PipelineScript.Proofs.Lookup
import PipelineScript.Proofs.Since
import PipelineScript.Schema.Discovery

namespace PipelineScript

/-! ## The tickets of the service -/

namespace Tickets

variable {ts : Tickets} {t : Ticket} {target : Target} {node : String}

/-- The new ticket is current, and of the others those for other targets that
were. -/
theorem isCurrent_issue : (ts.issue target).2.isCurrent t = true ↔
    t = (ts.issue target).1 ∨ (t.target ≠ target ∧ ts.isCurrent t = true) := by
  obtain ⟨other, number⟩ := t
  by_cases heq : other = target
  · subst heq
    have hissue : (ts.issue other).1 = ⟨other, ts.issued + 1⟩ := rfl
    rw [hissue, Ticket.mk.injEq]
    simp [issue, isCurrent, eq_comm (a := number)]
  · have hne : (other == target) = false := by simpa using heq
    have hkeep := lookup_filter (· != target) other ts.latest
    simp [issue, isCurrent, List.lookup_cons, hne, hkeep, heq]

theorem isCurrent_forget : (ts.forget node).2.isCurrent t = true ↔
    t.target.node ≠ node ∧ ts.isCurrent t = true := by
  have hkeep := lookup_filter (·.node != node) t.target ts.latest
  by_cases heq : t.target.node = node <;> simp [forget, isCurrent, hkeep, heq]

theorem issue_number : (ts.issue target).1.number = ts.issued + 1 := rfl

theorem issue_issued : (ts.issue target).2.issued = ts.issued + 1 := rfl

theorem forget_issued : (ts.forget node).2.issued = ts.issued := rfl

end Tickets

/-! ## The log -/

/-- What is noted down of the questions and of the nodes they are for. -/
inductive LogEntry where
  /-- A ticket was issued, be there a question for it or not. -/
  | issued (ticket : Ticket)
  | forgotten (node : String)
  /-- A question came back: the reply of the backend, if there was one in time,
  and what was made of it. -/
  | completed (ticket : Ticket) (reply : Option (Except SchemaError (List Column)))
      (outcome : Except SchemaError Finding)

/-- After this entry the ticket does not count any longer. -/
def LogEntry.Overtakes (t : Ticket) : LogEntry → Prop
  | issued u => u.target = t.target
  | forgotten node => node = t.target.node
  | completed _ _ _ => False

/-- The ticket was issued, and nothing has overtaken it since. -/
def Counts (log : List LogEntry) (t : Ticket) : Prop :=
  ∃ before later, log = before ++ .issued t :: later ∧ ∀ e ∈ later, ¬ e.Overtakes t

def LogEntry.ticket? : LogEntry → Option Ticket
  | issued t => some t
  | forgotten _ | completed _ _ _ => none

/-- The tickets issued, in order. -/
def issuedTickets (log : List LogEntry) : List Ticket :=
  log.filterMap LogEntry.ticket?

/-- The counter has not come round: 64 bits last for so many tickets. -/
def InRange (log : List LogEntry) : Prop :=
  (issuedTickets log).length < UInt64.size

section Log
variable {log rest : List LogEntry} {e : LogEntry} {t u : Ticket}

theorem issuedTickets_append (log rest : List LogEntry) :
    issuedTickets (log ++ rest) = issuedTickets log ++ issuedTickets rest :=
  List.filterMap_append

theorem mem_issuedTickets : t ∈ issuedTickets log ↔ .issued t ∈ log := by
  rw [issuedTickets, List.mem_filterMap]
  constructor
  · rintro ⟨e, he, ht⟩
    cases e with
    | issued u => cases ht; exact he
    | forgotten node => cases ht
    | completed u reply outcome => cases ht
  · intro h
    exact ⟨_, h, rfl⟩

theorem InRange.of_prefix {log' : List LogEntry} (h : InRange log') (hlog : log <+: log') :
    InRange log := by
  obtain ⟨rest, rfl⟩ := hlog
  rw [InRange, issuedTickets_append, List.length_append] at h
  exact Nat.lt_of_le_of_lt (Nat.le_add_right ..) h

theorem counts_iff_since : Counts log t ↔ Since (· = .issued t) (LogEntry.Overtakes t) log := by
  simp [Counts, Since]

theorem not_counts_nil : ¬ Counts [] t :=
  mt counts_iff_since.mp not_since_nil

theorem counts_append_iff :
    Counts (log ++ [e]) t ↔ e = .issued t ∨ (Counts log t ∧ ¬ e.Overtakes t) := by
  rw [counts_iff_since, counts_iff_since, since_append_iff]

/-- A ticket that does not count does not count again unless it is issued once
more. -/
theorem not_counts_append (h : ¬ Counts log t) (hrest : .issued t ∉ rest) :
    ¬ Counts (log ++ rest) t := by
  induction rest using List.reverseRecOn with
  | nil => rwa [List.append_nil]
  | append_singleton rest e ih =>
      rw [List.mem_append, not_or] at hrest
      rw [← List.append_assoc, counts_append_iff]
      rintro (rfl | ⟨hcounts, -⟩)
      · exact hrest.2 (List.mem_singleton_self _)
      · exact ih hrest.1 hcounts

end Log

/-! ## The service and the log -/

/-- The service knows which tickets of the log count, and numbers them on. -/
structure Records (log : List LogEntry) (ts : Tickets) : Prop where
  current : ∀ t, ts.isCurrent t = true ↔ Counts log t
  issued : ts.issued = UInt64.ofNat (issuedTickets log).length
  numbers : (issuedTickets log).map (·.number) =
    (List.range' 1 (issuedTickets log).length).map UInt64.ofNat

theorem records_start : Records [] {} where
  current t := by simp [Tickets.isCurrent, not_counts_nil]
  issued := rfl
  numbers := rfl

section Records
variable {log rest : List LogEntry} {ts : Tickets} {t u : Ticket} (h : Records log ts)
include h

theorem Records.issue (target : Target) :
    Records (log ++ [.issued (ts.issue target).1]) (ts.issue target).2 := by
  have hissued : issuedTickets (log ++ [.issued (ts.issue target).1]) =
      issuedTickets log ++ [(ts.issue target).1] := issuedTickets_append ..
  refine ⟨?_, ?_, ?_⟩
  · intro t
    rw [Tickets.isCurrent_issue, counts_append_iff, h.current, LogEntry.issued.injEq, and_comm,
      ne_comm]
    exact or_congr_left eq_comm
  · rw [hissued, List.length_append, List.length_singleton, Tickets.issue_issued, h.issued,
      UInt64.ofNat_add]
    rfl
  · rw [hissued, List.length_append, List.length_singleton, List.range'_concat, List.map_append,
      List.map_append, h.numbers]
    simp [Tickets.issue_number, h.issued, UInt64.ofNat_add, UInt64.add_comm]

/-- An entry that issues no ticket is kept if the service takes the same tickets
for current that count with it. -/
theorem Records.unnumbered {ts' : Tickets} {e : LogEntry} (hissued : ts'.issued = ts.issued)
    (he : e.ticket? = none) (hcurrent : ∀ t, ts'.isCurrent t = true ↔
      ts.isCurrent t = true ∧ ¬ e.Overtakes t) : Records (log ++ [e]) ts' := by
  have hsame : issuedTickets (log ++ [e]) = issuedTickets log := by
    simp [issuedTickets, he]
  refine ⟨?_, ?_, ?_⟩
  · intro t
    rw [hcurrent, h.current, counts_append_iff, or_iff_right]
    rintro rfl
    cases he
  · rw [hsame, hissued, h.issued]
  · rw [hsame, h.numbers]

theorem Records.forget (node : String) :
    Records (log ++ [.forgotten node]) (ts.forget node).2 := by
  refine h.unnumbered Tickets.forget_issued rfl ?_
  intro t
  rw [Tickets.isCurrent_forget, and_comm, ne_comm]
  rfl

theorem Records.completed (t : Ticket) (reply : Option (Except SchemaError (List Column)))
    (outcome : Except SchemaError Finding) : Records (log ++ [.completed t reply outcome]) ts := by
  refine h.unnumbered rfl rfl ?_
  intro u
  exact (and_iff_left id).symm

/-! ### While 64 bits last -/

theorem Records.numbered (range : InRange log) :
    (issuedTickets log).map (·.number.toNat) = List.range' 1 (issuedTickets log).length := by
  have hnumbers := congrArg (List.map UInt64.toNat) h.numbers
  rw [List.map_map, List.map_map] at hnumbers
  have hsame : ∀ n ∈ List.range' 1 (issuedTickets log).length, (UInt64.ofNat n).toNat = n := by
    intro n hn
    have hlt : n < 1 + (issuedTickets log).length := (List.mem_range'_1.mp hn).2
    exact UInt64.toNat_ofNat_of_lt' (Nat.lt_of_le_of_lt (by omega) range)
  exact hnumbers.trans ((List.map_congr_left hsame).trans (List.map_id _))

theorem Records.ordered (range : InRange log) :
    (issuedTickets log).Pairwise (·.number < ·.number) := by
  have hordered := List.pairwise_lt_range' (s := 1) (n := (issuedTickets log).length)
  rw [← h.numbered range, List.pairwise_map] at hordered
  exact hordered

theorem Records.number_le (range : InRange log) (ht : Counts log t) (hu : .issued u ∈ log)
    (same : u.target = t.target) : u.number ≤ t.number := by
  obtain ⟨before, later, rfl, hlater⟩ := ht
  have hordered := h.ordered range
  rw [issuedTickets_append] at hordered
  rcases List.mem_append.mp hu with hbefore | hrest
  · have hlt := (List.pairwise_append.mp hordered).2.2 u (mem_issuedTickets.mpr hbefore) t
      (mem_issuedTickets.mpr List.mem_cons_self)
    exact UInt64.le_of_lt hlt
  · rcases List.mem_cons.mp hrest with heq | hlate
    · cases heq
      exact UInt64.le_refl _
    · exact absurd same (hlater _ hlate)

end Records

theorem Records.not_issued_again {log rest : List LogEntry} {ts : Tickets} {t : Ticket}
    (h : Records (log ++ rest) ts) (range : InRange (log ++ rest)) (ht : .issued t ∈ log) :
    .issued t ∉ rest := by
  intro hagain
  have hordered := h.ordered range
  rw [issuedTickets_append] at hordered
  have hlt := (List.pairwise_append.mp hordered).2.2 t (mem_issuedTickets.mpr ht) t
    (mem_issuedTickets.mpr hagain)
  exact UInt64.lt_irrefl _ hlt

end PipelineScript
