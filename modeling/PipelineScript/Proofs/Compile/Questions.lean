/-
# What a plan comes to

Plans are put together with `bind`, and a plan that is put together runs one
part after the other (`run_bind`).

Three plans ask for all that a component usually needs: the variables of all
its input ports, those of all its output ports, and some of its own.  The
first succeeds with what the ports are answered with (`run_needInputs`) or
fails over one of them (`exists_of_run_needInputs_error`); the second fills
every output port (`run_publishAll`), and the third never fails.
-/
import PipelineScript.Proofs.Compile.Answers

namespace PipelineScript

open Compile

namespace Plan

variable {α β : Type}

/-- The variables published on the output ports from `port` on, so many. -/
def publishAll (port : Nat) : (count : Nat) → Plan (List String)
  | 0 => done []
  | count + 1 => (publish port).bind fun v =>
      (publishAll (port + 1) count).bind fun rest => done (v :: rest)

/-- New variables with these bases, for use within the node. -/
def freshAll : List String → Plan (List String)
  | [] => done []
  | base :: bases => fresh base fun v => (freshAll bases).bind fun rest => done (v :: rest)

/-! ## Plans put together -/

theorem input_congr {port : Nat} {next next' : Except CompileError String → Plan α}
    (failed : ∀ e, next (.error e) = next' (.error e))
    (answered : ∀ v, next (.ok v) = next' (.ok v)) :
    input port next = input port next' :=
  congrArg (input port) (funext fun
    | .error e => failed e
    | .ok v => answered v)

theorem output_congr {port : Nat} {next next' : Except CompileError String → Plan α}
    (failed : ∀ e, next (.error e) = next' (.error e))
    (answered : ∀ v, next (.ok v) = next' (.ok v)) :
    output port next = output port next' :=
  congrArg (output port) (funext fun
    | .error e => failed e
    | .ok v => answered v)

variable {site : Site}

theorem run_bind (m : Plan α) (k : α → Plan β) (p : Progress) :
    (m.bind k).run site p =
      match m.run site p with
      | .ok (a, q) => (k a).run site q
      | .error e => .error e := by
  induction m generalizing p with
  | done a => rfl
  | fail e => rfl
  | input port next ih => exact ih _ _
  | output port next ih => exact ih _ _
  | fresh base next ih => exact ih _ _
  | isTaken name next ih => exact ih _ _
  | inputCount next ih => exact ih _ _
  | nodeId next ih => exact ih _ _

theorem exists_of_run_bind_ok {m : Plan α} {k : α → Plan β} {p q : Progress} {b : β}
    (h : (m.bind k).run site p = .ok (b, q)) :
    ∃ a q', m.run site p = .ok (a, q') ∧ (k a).run site q' = .ok (b, q) := by
  rw [run_bind] at h
  cases hm : m.run site p with
  | error e => simp [hm] at h
  | ok v => exact ⟨v.1, v.2, rfl, by simpa only [hm] using h⟩

theorem of_run_bind_error {m : Plan α} {k : α → Plan β} {p : Progress} {e : CompileError}
    (h : (m.bind k).run site p = .error e) :
    m.run site p = .error e ∨
      ∃ a q, m.run site p = .ok (a, q) ∧ (k a).run site q = .error e := by
  rw [run_bind] at h
  cases hm : m.run site p with
  | error e' =>
      rw [hm] at h
      cases h
      exact Or.inl rfl
  | ok v => exact Or.inr ⟨v.1, v.2, rfl, by simpa only [hm] using h⟩

/-! ## Inputs -/

theorem needInputs_succ (port count : Nat) :
    needInputs port (count + 1) =
      (needInput port).bind fun v =>
        (needInputs (port + 1) count).bind fun rest => done (v :: rest) :=
  rfl

theorem run_needInput_eq_ok_iff {port : Nat} {p q : Progress} {v : String} :
    (needInput port).run site p = .ok (v, q) ↔ site.input port = .ok v ∧ q = p := by
  show (ofExcept (site.input port)).run site p = _ ↔ _
  cases site.input port <;> simp [ofExcept, run, eq_comm]

theorem run_needInput_eq_error_iff {port : Nat} {p : Progress} {e : CompileError} :
    (needInput port).run site p = .error e ↔ site.input port = .error e := by
  show (ofExcept (site.input port)).run site p = _ ↔ _
  cases site.input port <;> simp [ofExcept, run]

/-- The variables are what the ports are answered with, and nothing else
happens. -/
theorem run_needInputs {p q : Progress} : ∀ {count port : Nat} {vs : List String},
    (needInputs port count).run site p = .ok (vs, q) →
      q = p ∧ (List.range' port count).map site.input = vs.map .ok := by
  intro count
  induction count with
  | zero =>
      intro port vs h
      cases h
      exact ⟨rfl, rfl⟩
  | succ count ih =>
      intro port vs h
      rw [needInputs_succ] at h
      obtain ⟨v, p', hv, h⟩ := exists_of_run_bind_ok h
      obtain ⟨rest, q', hrest, h⟩ := exists_of_run_bind_ok h
      cases h
      obtain ⟨hinput, rfl⟩ := run_needInput_eq_ok_iff.mp hv
      obtain ⟨rfl, hinputs⟩ := ih hrest
      exact ⟨rfl, by rw [List.range'_succ, List.map_cons, List.map_cons, hinput, hinputs]⟩

theorem exists_of_run_needInputs_error {p : Progress} {e : CompileError} :
    ∀ {count port : Nat}, (needInputs port count).run site p = .error e →
      ∃ i ∈ List.range' port count, site.input i = .error e := by
  intro count
  induction count with
  | zero =>
      intro port h
      cases h
  | succ count ih =>
      intro port h
      rw [needInputs_succ] at h
      rw [List.range'_succ]
      rcases of_run_bind_error h with h | ⟨v, p', hv, hrest⟩
      · exact ⟨port, List.mem_cons_self, run_needInput_eq_error_iff.mp h⟩
      · obtain ⟨-, rfl⟩ := run_needInput_eq_ok_iff.mp hv
        rcases of_run_bind_error hrest with hrest | ⟨rest, q, -, hdone⟩
        · obtain ⟨i, hi, herror⟩ := ih hrest
          exact ⟨i, List.mem_cons_of_mem _ hi, herror⟩
        · cases hdone

/-! ## Outputs -/

theorem output_of_lt {port : Nat} {p : Progress} (h : port < p.outputs.length) :
    ∃ name, (site.output port p).1 = .ok name ∧
      (site.output port p).2.outputs = p.outputs.set port (some name) := by
  cases hp : p.outputs[port]? with
  | none => exact absurd (List.getElem?_eq_none_iff.mp hp) (Nat.not_le.mpr h)
  | some slot =>
      cases slot with
      | none =>
          rw [output_of_none site hp]
          exact ⟨_, rfl, rfl⟩
      | some name =>
          rw [output_of_some site hp]
          refine ⟨name, rfl, ?_⟩
          obtain ⟨hlt, he⟩ := List.getElem?_eq_some_iff.mp hp
          rw [← he, List.set_getElem_self]

theorem run_publish (port : Nat) (p : Progress) :
    (publish port).run site p =
      (site.output port p).1.map fun v => (v, (site.output port p).2) := by
  show (ofExcept (site.output port p).1).run site (site.output port p).2 = _
  cases (site.output port p).1 <;> rfl

theorem run_publish_eq_ok_iff {port : Nat} {p q : Progress} {v : String} :
    (publish port).run site p = .ok (v, q) ↔
      (site.output port p).1 = .ok v ∧ q = (site.output port p).2 := by
  rw [run_publish]
  cases (site.output port p).1 <;> simp [Except.map, eq_comm]

/-- All ports of the node from one on are filled with the variables that are
answered. -/
theorem run_publishAll {p : Progress} : ∀ {count port : Nat},
    p.outputs.length = port + count →
      ∃ vs q, (publishAll port count).run site p = .ok (vs, q) ∧
        q.outputs = p.outputs.take port ++ vs.map some := by
  intro count
  induction count generalizing p with
  | zero =>
      intro port h
      exact ⟨[], p, rfl, by simp [List.take_of_length_le, h]⟩
  | succ count ih =>
      intro port h
      obtain ⟨v, hv, hset⟩ := @output_of_lt site port p (by omega)
      obtain ⟨vs, q, hvs, hq⟩ := @ih (site.output port p).2 (port + 1)
        (by rw [hset, List.length_set]; omega)
      refine ⟨v :: vs, q, ?_, ?_⟩
      · rw [publishAll, run_bind, run_publish, hv]
        show ((publishAll (port + 1) count).bind _).run site _ = _
        rw [run_bind, hvs]
        rfl
      · rw [hq, hset, ← List.take_append_getElem (by simp; omega),
          List.take_set_of_le (Nat.le_refl port), List.getElem_set_self]
        simp

/-! ## Variables of one's own -/

theorem run_freshAll : ∀ (bases : List String) (p : Progress),
    ∃ vs q, (freshAll bases).run site p = .ok (vs, q) ∧ q.outputs = p.outputs
  | [], p => ⟨[], p, rfl, rfl⟩
  | base :: bases, p => by
      obtain ⟨vs, q, hvs, hq⟩ := run_freshAll bases (Site.fresh base p).2
      refine ⟨(Site.fresh base p).1 :: vs, q, ?_, hq⟩
      rw [freshAll, run_fresh, run_bind, hvs]
      rfl

end Plan

end PipelineScript
