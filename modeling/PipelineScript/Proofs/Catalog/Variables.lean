/-
# The variables of a standard script

A component is told three kinds of variables: those that feed its input ports,
those that it publishes, and those that it keeps to itself.  The first have been
published by other nodes, and the others are numbered names of bases that the
components choose.

So what holds of all numbered names of these bases (`Yields`) holds of every
variable that a standard component is told in a compilation (`told_of_mem_stages`),
and of every variable in its code (`Told.asks`).  An example are the characters
that no name has in it (`yields_lacking`).
-/
import PipelineScript.Proofs.Catalog.Verdict
import PipelineScript.Proofs.Compile.Stage
import PipelineScript.Proofs.Lookup

namespace PipelineScript.Catalog

open Compile

/-! ## New names -/

/-- Every variable with this base has the property, whatever is taken. -/
def Yields (P : String → Prop) (base : String) : Prop :=
  ∀ names : Names, P (names.allocate base).1

/-- A character that is no digit comes from the base. -/
theorem yields_lacking {x : Char} (hx : ¬ x.isDigit = true) {base : String}
    (h : x ∉ base.toList) : Yields (fun v => x ∉ v.toList) base := by
  intro names
  obtain ⟨digits, hdigits, he⟩ := names.exists_digits base
  rw [he, String.toList_append, List.mem_append]
  exact not_or.mpr ⟨h, fun hmem => hx (hdigits x hmem)⟩

/-! ## One node -/

variable {P : String → Prop} {site : Site} {p q : Progress}

theorem freshAll_yields : ∀ {bases : List String} {p : Progress} {vs : List String},
    (∀ base ∈ bases, Yields P base) → (Plan.freshAll bases).run site p = .ok (vs, q) →
      ∀ v ∈ vs, P v := by
  intro bases
  induction bases with
  | nil =>
      intro p vs _ run
      cases run
      exact fun v hv => absurd hv List.not_mem_nil
  | cons base bases ih =>
      intro p vs hbases run
      obtain ⟨hbase, hrest⟩ := List.forall_mem_cons.mp hbases
      rw [Plan.freshAll, Plan.run_fresh] at run
      obtain ⟨rest, p₁, hp, run⟩ := Plan.exists_of_run_bind_ok run
      cases run
      exact List.forall_mem_cons.mpr ⟨hbase p.names, ih hrest hp⟩

theorem own_yields {b : Builtin} (own : ∀ base ∈ b.ownBases, Yields P base) {c : Cast}
    (run : b.asks.run site p = .ok (c, q)) : ∀ v ∈ c.own, P v := by
  obtain ⟨inputs, p₁, -, run⟩ := Plan.exists_of_run_bind_ok run
  obtain ⟨outputs, p₂, -, run⟩ := Plan.exists_of_run_bind_ok run
  obtain ⟨vs, p₃, hown, run⟩ := Plan.exists_of_run_bind_ok run
  cases run
  exact freshAll_yields own hown

/-- The property holds of every variable that the node may be told: of those
that feed it, those that it has published, and those that are still to come. -/
structure Told (P : String → Prop) (site : Site) (p : Progress) : Prop where
  feeds : ∀ name, .available name ∈ site.feeds → P name
  outputs : ∀ name, some name ∈ p.outputs → P name
  base : Yields P site.base

namespace Told

theorem input (h : Told P site p) {port : Nat} {name : String}
    (answer : site.input port = .ok name) : P name := by
  unfold Site.input at answer
  split at answer
  · next name' hfeed =>
    cases answer
    exact h.feeds name (List.mem_of_getElem? hfeed)
  all_goals cases answer

theorem output (h : Told P site p) (port : Nat) :
    Told P site (site.output port p).2 ∧ ∀ name, (site.output port p).1 = .ok name → P name := by
  cases hp : p.outputs[port]? with
  | none =>
      rw [output_of_missing site hp]
      exact ⟨h, fun name hname => nomatch hname⟩
  | some slot =>
      cases slot with
      | some name =>
          rw [output_of_some site hp]
          refine ⟨h, fun name' hname => ?_⟩
          cases hname
          exact h.outputs name (List.mem_of_getElem? hp)
      | none =>
          rw [output_of_none site hp]
          have new := h.base p.names
          refine ⟨⟨h.feeds, fun name hname => ?_, h.base⟩, fun name hname => ?_⟩
          · rcases List.mem_or_eq_of_mem_set hname with hold | hnew
            · exact h.outputs name hold
            · cases hnew
              exact new
          · cases hname
            exact new

theorem needInputs (h : Told P site p) {port count : Nat} {vs : List String}
    (run : (Plan.needInputs port count).run site p = .ok (vs, q)) :
    Told P site q ∧ ∀ v ∈ vs, P v := by
  obtain ⟨rfl, answers⟩ := Plan.run_needInputs run
  refine ⟨h, fun v hv => ?_⟩
  obtain ⟨i, -, answer⟩ := List.mem_map.mp (answers ▸ List.mem_map_of_mem hv)
  exact h.input answer

theorem publishAll : ∀ {count port : Nat} {p : Progress} {vs : List String}, Told P site p →
    (Plan.publishAll port count).run site p = .ok (vs, q) → Told P site q ∧ ∀ v ∈ vs, P v := by
  intro count
  induction count with
  | zero =>
      intro port p vs h run
      cases run
      exact ⟨h, by simp⟩
  | succ count ih =>
      intro port p vs h run
      obtain ⟨v, p₁, hv, run⟩ := Plan.exists_of_run_bind_ok run
      obtain ⟨rest, p₂, hrest, run⟩ := Plan.exists_of_run_bind_ok run
      cases run
      obtain ⟨answer, rfl⟩ := Plan.run_publish_eq_ok_iff.mp hv
      obtain ⟨h, name⟩ := h.output port
      obtain ⟨h, names⟩ := ih h hrest
      exact ⟨h, List.forall_mem_cons.mpr ⟨name v answer, names⟩⟩

theorem freshAll : ∀ {bases : List String} {p : Progress} {vs : List String}, Told P site p →
    (Plan.freshAll bases).run site p = .ok (vs, q) → Told P site q := by
  intro bases
  induction bases with
  | nil =>
      intro p vs h run
      cases run
      exact h
  | cons base bases ih =>
      intro p vs h run
      rw [Plan.freshAll, Plan.run_fresh] at run
      obtain ⟨rest, p₁, hp, run⟩ := Plan.exists_of_run_bind_ok run
      cases run
      have next : Told P site (Site.fresh base p).2 := ⟨h.feeds, h.outputs, h.base⟩
      exact ih next hp

theorem asks (h : Told P site p) {b : Builtin} (own : ∀ base ∈ b.ownBases, Yields P base)
    {c : Cast} (run : b.asks.run site p = .ok (c, q)) :
    Told P site q ∧ (∀ v ∈ c.inputs, P v) ∧ (∀ v ∈ c.outputs, P v) ∧ ∀ v ∈ c.own, P v := by
  have own := own_yields own run
  obtain ⟨inputs, p₁, hinputs, run⟩ := Plan.exists_of_run_bind_ok run
  obtain ⟨outputs, p₂, houtputs, run⟩ := Plan.exists_of_run_bind_ok run
  obtain ⟨vs, p₃, hown, run⟩ := Plan.exists_of_run_bind_ok run
  cases run
  obtain ⟨h, inputs⟩ := h.needInputs hinputs
  obtain ⟨h, outputs⟩ := h.publishAll houtputs
  exact ⟨h.freshAll hown, inputs, outputs, own⟩

end Told

/-! ## In a compilation -/

/-- The bases of all variables that a component chooses yield names with the
property. -/
def Builtin.Yields (P : String → Prop) (b : Builtin) : Prop :=
  Catalog.Yields P b.component.variableBase ∧ ∀ base ∈ b.ownBases, Catalog.Yields P base

theorem Builtin.yields_lacking {x : Char} (hx : Reserved x) (b : Builtin) :
    b.Yields fun v => x ∉ v.toList := by
  refine ⟨?_, fun base hbase => ?_⟩
  · rcases hx with rfl | rfl <;> cases b <;> exact Catalog.yields_lacking (by decide) (by decide)
  · cases b with
    | sqlTableOutput =>
        obtain rfl := List.mem_singleton.mp hbase
        rcases hx with rfl | rfl <;> exact Catalog.yields_lacking (by decide) (by decide)
    | envVariables | csvFileInput | filterRows | columnMapping | mergeFrames | csvFileOutput =>
        cases hbase

section Compilation
variable {g : Graph} {t : Stage}

/-- The property holds of every variable published so far. -/
def AllPublished (P : String → Prop) (w : Walk) : Prop :=
  ∀ id outputs, (id, .emitted outputs) ∈ w.outcomes → ∀ name, some name ∈ outputs → P name

theorem exists_of_feedAt {outcomes : List (String × Outcome)} {id port name : String}
    (h : feedAt g outcomes id port = .available name) :
    ∃ source outputs, (source, .emitted outputs) ∈ outcomes ∧ some name ∈ outputs := by
  unfold feedAt at h
  split at h
  · cases h
  next e _ =>
  unfold feedOf at h
  split at h
  · cases h
  · cases h
  next outputs hlookup =>
  dsimp only at h
  split at h
  · next found =>
    cases h
    obtain ⟨n, -, found⟩ := Option.bind_eq_some_iff.mp found
    obtain ⟨i, -, found⟩ := Option.bind_eq_some_iff.mp found
    obtain ⟨slot, hslot, rfl⟩ := Option.bind_eq_some_iff.mp found
    exact ⟨e.source, outputs, mem_of_lookup hlookup, List.mem_of_getElem? hslot⟩
  · cases h

theorem AllPublished.told (h : AllPublished P t.walk) (base : Yields P t.component.variableBase) :
    Told P (t.site g) t.start where
  feeds name hname := by
    obtain ⟨port, -, hfeed⟩ := List.mem_map.mp hname
    obtain ⟨source, outputs, hmem, hslot⟩ := exists_of_feedAt hfeed
    exact h source outputs hmem name hslot
  outputs name hname := by simp [Stage.start, Progress.start] at hname
  base := base

theorem AllPublished.next (h : AllPublished P t.walk) {b : Builtin} (hb : b.component = t.component)
    (yields : b.Yields P) {generated : Generated} {p : Progress}
    (hr : t.result g = .ok (generated, p)) : AllPublished P (t.next generated p) := by
  cases generated with
  | fragment code =>
      have told : Told P (t.site g) t.start := h.told (hb ▸ yields.1)
      rw [Stage.result, Stage.plan, ← hb] at hr
      obtain ⟨layout, cast, -, hasks, -⟩ := Builtin.of_run_fragment hr
      intro id outputs hmem name hname
      rcases List.mem_cons.mp hmem with heq | hmem
      · cases heq
        exact (told.asks yields.2 hasks).1.outputs name hname
      · exact h id outputs hmem name hname
  | skipped reason =>
      intro id outputs hmem name hname
      rcases List.mem_cons.mp hmem with heq | hmem
      · cases heq
      · exact h id outputs hmem name hname

/-- Nothing has to be assumed of the variables in a compilation. -/
theorem told_of_mem_stages (yields : ∀ b : Builtin, b.Yields P)
    (ht : t ∈ stages Registry.standard g) : Told P (t.site g) t.start := by
  obtain ⟨before, after, -, hv⟩ := reaches_of_mem_stages ht
  obtain ⟨b, hb⟩ := Builtin.exists_of_find_standard (component_of_mem_stages ht).2
  have published : AllPublished P t.walk :=
    visitAll_induction (P := fun _ w => AllPublished P w) hv (by simp [AllPublished]) ?_
  · exact published.told (hb ▸ (yields b).1)
  · intro _ u generated p hu h hr
    obtain ⟨b, hb⟩ := Builtin.exists_of_find_standard (component_of_mem_walk hu).2
    exact h.next hb (yields b) hr

end Compilation

end PipelineScript.Catalog
