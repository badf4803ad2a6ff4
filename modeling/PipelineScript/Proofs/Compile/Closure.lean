/-
# Skipped nodes never feed emitted ones

The standard components ask for all their inputs before they write any code
(`Catalog.Builtin.asks`), and a component that writes code publishes on every
output port.  So in a script of the standard components the emitted nodes are
closed under what feeds them: `Closed`.  And where a compilation fails for want
of something, the node that it names is one that lacks it (`AtFault`).

Both rest on two facts about a single stage: an emitted node has a source for
each of its ports among the fragments before it (`sources_of_fragment`), and a
node that fails over a port fails over one without an edge, or over one whose
source was skipped (`atFault_of_input`).
-/
import PipelineScript.Proofs.Catalog.Verdict
import PipelineScript.Proofs.Compile.Wiring

namespace PipelineScript

open Compile Catalog

/-- Every node of a registered type has the ports of its component. -/
def Graph.Declared (g : Graph) (r : Registry) : Prop :=
  ∀ n ∈ g.nodes, ∀ c, r.find? n.component = some c → n.inputs = c.inputs ∧ n.outputs = c.outputs

/-- What is emitted stands on what is emitted. -/
structure Closed (g : Graph) (s : Script) : Prop where
  /-- All input ports of an emitted node are fed by emitted nodes. -/
  fed : ∀ f ∈ s.fragments, ∃ n ∈ g.nodes, n.id = f.node ∧
    ∀ port ∈ n.inputs, ∃ e, g.Into n port e ∧ ∃ d ∈ s.fragments, d.node = e.source
  ancestors : ∀ f ∈ s.fragments, ∀ id, Relation.TransGen g.Flows id f.node →
    ∃ d ∈ s.fragments, d.node = id
  skipped : ∀ x ∈ s.skipped, ∀ f ∈ s.fragments, ¬Relation.TransGen g.Flows x.node f.node

/-- The compilation skips this node. -/
def SkippedAt (g : Graph) (n : Node) (reason : String) : Prop :=
  ∃ t ∈ stages Registry.standard g, t.node = n ∧ ∃ p, t.result g = .ok (.skipped reason, p)

/-- The compilation comes to this node and does not skip it. -/
def GoesOnAt (g : Graph) (n : Node) : Prop :=
  ∃ t ∈ stages Registry.standard g, t.node = n ∧ ∀ reason p, t.result g ≠ .ok (.skipped reason, p)

/-- Whom a compilation may blame for something that is missing, and for what. -/
inductive AtFault (g : Graph) : String → Shortfall → Prop where
  /-- A node that was skipped, although one that was not needs it. -/
  | skipped {m n : Node} {e : Edge} {reason : String} (source : m ∈ g.nodes) (target : n ∈ g.nodes)
      (edge : e ∈ g.edges) (leaves : e.source = m.id) (arrives : e.target = n.id)
      (gaveUp : SkippedAt g m reason) (goesOn : GoesOnAt g n) :
      AtFault g m.id (.upstream (.skipped reason) n.id)
  /-- A node with an input port that no edge arrives at. -/
  | unconnected {n : Node} {port : String} (node : n ∈ g.nodes) (has : port ∈ n.inputs)
      (free : ∀ e, ¬g.Into n port e) : AtFault g n.id (.unconnected port)
  /-- A node with a mapping table that has rows, none of them complete. -/
  | unmapped {n : Node} {b : Builtin} {rows : List MappingRow} (node : n ∈ g.nodes)
      (type : Registry.standard.find? n.component = some b.component) (table : b.Maps n.config rows)
      (unmapped : Unmapped rows) : AtFault g n.id (.noMappedColumn rows.length)

variable {g : Graph} {header : Option String} {s : Script} {t : Stage}

/-! ## One stage -/

section Stage
variable (wf : g.WellFormed) (declared : g.Declared Registry.standard)
  (ht : t ∈ stages Registry.standard g)

section
include declared ht

theorem declared_inputs : t.node.inputs = t.component.inputs :=
  have ⟨hn, hc⟩ := component_of_mem_stages ht
  (declared _ hn _ hc).1

theorem start_outputs_length : t.start.outputs.length = t.component.outputs.length := by
  obtain ⟨hn, hc⟩ := component_of_mem_stages ht
  rw [← (declared _ hn _ hc).2]
  simp [Stage.start, Progress.start]

theorem none_not_mem_outputs {code : String} {p : Progress}
    (h : t.result g = .ok (.fragment code, p)) : none ∉ p.outputs := by
  obtain ⟨b, hb⟩ := Builtin.exists_of_find_standard (component_of_mem_stages ht).2
  have ports := start_outputs_length declared ht
  rw [Stage.result, Stage.plan, ← hb] at h
  obtain ⟨layout, cast, -, hasks, -⟩ := Builtin.of_run_fragment h
  exact Builtin.asks_outputs hasks (hb ▸ ports)

theorem not_published_none (e : Edge) : ¬Published g t.walk.fragments e none := by
  rintro ⟨m, -, -, k, -, f, hf, -, hslot⟩
  obtain ⟨u, hu, code, p, hr, -, houtputs⟩ := (traced_of_mem_stages ht).fragment f hf
  exact none_not_mem_outputs declared hu hr (houtputs ▸ List.mem_of_getElem? hslot)

end

include wf declared ht

/-- All input ports of an emitted node are fed by fragments before it. -/
theorem sources_of_fragment {code : String} {p : Progress}
    (h : t.result g = .ok (.fragment code, p)) {port : String} (hport : port ∈ t.node.inputs) :
    ∃ e, g.Into t.node port e ∧ ∃ d ∈ t.walk.fragments, d.node = e.source := by
  obtain ⟨b, hb⟩ := Builtin.exists_of_find_standard (component_of_mem_stages ht).2
  obtain ⟨i, hi, hget⟩ := List.mem_iff_getElem.mp hport
  have inputs := declared_inputs declared ht
  rw [Stage.result, Stage.plan, ← hb] at h
  obtain ⟨layout, cast, -, hasks, -⟩ := Builtin.of_run_fragment h
  obtain ⟨v, hv⟩ := Builtin.asks_inputs hasks (hb ▸ inputs ▸ hi)
  obtain ⟨e, he, m, -, hm, k, -, f, hf, hfm, -⟩ :=
    (input_eq_ok_iff_published wf ht (List.getElem?_eq_some_iff.mpr ⟨hi, hget⟩)).mp hv
  exact ⟨e, he, f, hf, hfm.trans hm⟩

/-- A node that fails for want of a variable lacks an edge, or the source of
one was skipped. -/
theorem atFault_of_input {i : Nat} (hi : i < t.node.inputs.length) {e : CompileError}
    (h : (t.site g).input i = .error e) (failed : t.result g = .error e) :
    ∃ m cause, e = .incomplete m cause ∧ AtFault g m cause := by
  obtain ⟨hn, -⟩ := component_of_mem_stages ht
  rcases (input_eq_error_iff_blamed wf ht (List.getElem?_eq_getElem hi)).mp h with
    ⟨free, rfl⟩ | ⟨d, -, hnone, -⟩ | ⟨d, reason, hd, hskip, rfl⟩
  · exact ⟨_, _, rfl, .unconnected hn (List.getElem_mem hi) free⟩
  · exact absurd hnone (not_published_none declared ht d)
  · obtain ⟨u, hu, p, hr, hsource⟩ := (traced_of_mem_stages ht).skipped _ hskip
    have goesOn : GoesOnAt g t.node := ⟨t, ht, rfl, fun _ _ hr => nomatch failed.symm.trans hr⟩
    refine ⟨_, _, rfl, ?_⟩
    rw [show d.source = u.node.id from hsource]
    exact .skipped (component_of_mem_stages hu).1 hn hd.1 hsource hd.2.1 ⟨u, hu, rfl, p, hr⟩ goesOn

/-- A stage of standard components fails over its configuration, or blames a
node that is at fault. -/
theorem stage_error {e : CompileError} (failed : t.result g = .error e) :
    (∃ b : Builtin, ∃ cause own, Registry.standard.find? t.node.component = some b.component ∧
        b.verdict t.node.config = .rejected cause own ∧ e = .invalid t.node.id cause) ∨
      ∃ m cause, e = .incomplete m cause ∧ AtFault g m cause := by
  obtain ⟨hn, hc⟩ := component_of_mem_stages ht
  obtain ⟨b, hb⟩ := Builtin.exists_of_find_standard (component_of_mem_stages ht).2
  have inputs := declared_inputs declared ht
  have outputs := start_outputs_length declared ht
  have hrun := failed
  rw [Stage.result, Stage.plan, ← hb] at hrun
  rw [← hb] at hc inputs outputs
  rcases Builtin.of_run_error hrun with
    ⟨cause, own, hverdict, rfl⟩ | ⟨count, hverdict, rfl⟩ | ⟨layout, -, hasks⟩
  · exact Or.inl ⟨b, cause, own, hc, hverdict, rfl⟩
  · obtain ⟨rows, table, unmapped, rfl⟩ := Builtin.maps_of_lacking hverdict
    exact Or.inr ⟨_, _, rfl, .unmapped hn hc table unmapped⟩
  · obtain ⟨i, hi, hinput⟩ := Builtin.asks_error hasks outputs
    exact Or.inr (atFault_of_input wf declared ht (inputs ▸ hi) hinput failed)

end Stage

/-! ## All of them -/

section Compiled
variable (wf : g.WellFormed) (declared : g.Declared Registry.standard)
  (h : compile Registry.standard header g = .ok s)
include wf declared h

theorem fed_of_compile : ∀ f ∈ s.fragments, ∃ n ∈ g.nodes, n.id = f.node ∧
    ∀ port ∈ n.inputs, ∃ e, g.Into n port e ∧ ∃ d ∈ s.fragments, d.node = e.source := by
  intro f hf
  obtain ⟨order, w, ho, hv, rfl⟩ := compile_eq_ok_iff.mp h
  obtain ⟨t, ht, code, p, hr, hid, -⟩ := (traced_of_visitAll hv).fragment f hf
  rw [← stages_of_order ho] at ht
  refine ⟨t.node, (component_of_mem_stages ht).1, hid.symm, fun port hport => ?_⟩
  obtain ⟨e, he, d, hd, hsource⟩ := sources_of_fragment wf declared ht hr hport
  exact ⟨e, he, d, (precedes_of_compile wf.distinct h ht).fragments.subset hd, hsource⟩

theorem emitted_of_flows {id : String} {f : Fragment} (hf : f ∈ s.fragments)
    (flow : g.Flows id f.node) : ∃ d ∈ s.fragments, d.node = id := by
  obtain ⟨e, he, rfl, htarget⟩ := flow
  obtain ⟨n, hn, hid, hfed⟩ := fed_of_compile wf declared h f hf
  obtain ⟨m, hm, hmid, hport⟩ := wf.target e he
  cases Graph.eq_of_id_eq wf.distinct hm hn (hmid.trans (htarget.trans hid.symm))
  obtain ⟨d, hd, hemitted⟩ := hfed _ hport
  rwa [wf.into_unique hd ⟨he, htarget.trans hid.symm, rfl⟩] at hemitted

theorem closed_of_compile : Closed g s := by
  have ancestors : ∀ f ∈ s.fragments, ∀ id, Relation.TransGen g.Flows id f.node →
      ∃ d ∈ s.fragments, d.node = id := by
    -- backwards along the path, from the emitted node
    intro f hf id path
    induction path using Relation.TransGen.head_induction_on with
    | single flow => exact emitted_of_flows wf declared h hf flow
    | head flow _ ih =>
        obtain ⟨d, hd, rfl⟩ := ih
        exact emitted_of_flows wf declared h hd flow
  refine ⟨fed_of_compile wf declared h, ancestors, fun x hx f hf path => ?_⟩
  obtain ⟨d, hd, hid⟩ := ancestors f hf _ path
  obtain ⟨order, w, ho, hv, rfl⟩ := compile_eq_ok_iff.mp h
  have isOrder := Graph.isOrder_of_order wf.distinct ho
  have nodup := ((accounts_of_visitAll hv).all.trans (isOrder.perm.map _)).nodup_iff.mpr wf.distinct
  exact (List.nodup_append.mp nodup).2.2 _ (List.mem_map_of_mem hd) _ (List.mem_map_of_mem hx) hid

end Compiled

/-- **Skipped nodes never feed emitted ones.**  A script of the standard
components emits a node only with everything that the node depends on; and a
compilation that fails for want of something names a node at fault. -/
theorem compile_closed (header : Option String) (g : Graph) (wf : g.WellFormed)
    (declared : g.Declared Registry.standard) :
    (∀ s, compile Registry.standard header g = .ok s → Closed g s) ∧
      ∀ m cause, compile Registry.standard header g = .error (.incomplete m cause) →
        AtFault g m cause := by
  refine ⟨fun s h => closed_of_compile wf declared h, fun m cause h => ?_⟩
  rcases of_compile_error h with ⟨_, -, he⟩ | ⟨n, -, -, he⟩ | ⟨t, ht, failed⟩
  · cases he
  · cases he
  · rcases stage_error wf declared ht failed with ⟨b, flaw, own, -, -, he⟩ | ⟨m', cause', he, fault⟩
    · cases he
    · cases he
      exact fault

/-- The node that is blamed for something missing, and for what. -/
def blamed : Except CompileError Script → Option (String × Shortfall)
  | .error (.incomplete m cause) => some (m, cause)
  | _ => none

theorem of_blamed {x : Except CompileError Script} {m : String} {cause : Shortfall}
    (h : blamed x = some (m, cause)) : x = .error (.incomplete m cause) := by
  unfold blamed at h
  split at h
  · cases h
    rfl
  · cases h

/-! A source, a filter and a writer: with a file to read the first two are
emitted, and without one the source is blamed. -/

/-- The source reads this file. -/
def chainFrom (path : String) : Graph where
  nodes := [⟨"a", "csvFileInput", .obj [("filePath", .str path)], [], ["out"]⟩,
    ⟨"b", "filterRows", .obj [("condition", .str "x > 1")], ["in"], ["out"]⟩,
    ⟨"c", "csvFileOutput", .null, ["in"], []⟩]
  edges := [⟨"a", "out", "b", "in"⟩, ⟨"b", "out", "c", "in"⟩]

theorem chainFrom_wellFormed (path : String) : (chainFrom path).WellFormed where
  distinct := by simp [chainFrom, Graph.ids]
  source := by simp [chainFrom]
  target := by simp [chainFrom]
  single := by simp [chainFrom]

theorem chainFrom_declared (path : String) : (chainFrom path).Declared Registry.standard := by
  intro n hn c hc
  simp only [chainFrom, List.mem_cons, List.not_mem_nil, or_false] at hn
  rcases hn with rfl | rfl | rfl <;> cases hc <;> exact ⟨rfl, rfl⟩

theorem compile_closed_chain :
    (chainFrom "in.csv").WellFormed ∧ (chainFrom "in.csv").Declared Registry.standard ∧
      (chainFrom "").WellFormed ∧ (chainFrom "").Declared Registry.standard ∧
      (∃ s, compile Registry.standard none (chainFrom "in.csv") = .ok s ∧
        s.fragments.map (·.node) = ["a", "b"] ∧ s.skipped.map (·.node) = ["c"] ∧
        Closed (chainFrom "in.csv") s) ∧
      ∃ cause, compile Registry.standard none (chainFrom "") = .error (.incomplete "a" cause) ∧
        AtFault (chainFrom "") "a" cause := by
  have full : (compile Registry.standard none (chainFrom "in.csv")).toOption =
      some ⟨none, ["import pandas as pd"],
        [⟨"a", "csvFileInput", "source1 = pd.read_csv(\"in.csv\", sep=\",\")", [some "source1"]⟩,
          ⟨"b", "filterRows", "filtered1 = source1.query(\"x > 1\")", [some "filtered1"]⟩],
        [⟨"c", "no output file path"⟩]⟩ := by decide +kernel
  have full := ok_of_toOption full
  have empty : blamed (compile Registry.standard none (chainFrom "")) =
      some ("a", .upstream (.skipped "no file path selected") "b") := by decide +kernel
  have empty := of_blamed empty
  have wf := chainFrom_wellFormed
  have declared := chainFrom_declared
  exact ⟨wf _, declared _, wf _, declared _,
    ⟨_, full, rfl, rfl, (compile_closed _ _ (wf _) (declared _)).1 _ full⟩,
    _, empty, (compile_closed _ _ (wf _) (declared _)).2 _ _ empty⟩

end PipelineScript
