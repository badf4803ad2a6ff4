/-
# Editing keeps graphs in shape

An `Edit` is one of the eight things an editor can do to a graph.  `edit`
carries it out: it answers something or it refuses, and it leaves a graph in
both cases.  A refusal leaves the graph as it was (`careful_attempt`).

Every graph that edits lead to, whatever they are given and however many are
refused, is well-formed; that is all that the rest of the theory asks of a
graph.  `tidy_afterEdits` adds what an editor sees of it: the edges into a
node stand in the order of its ports, and adding a node of a known component
never fails for want of an id.

Each successful edit has a lemma here that it keeps graphs well-formed
(`WellFormed.addNode` and so on).  Two facts carry them: nodes may be replaced
by nodes with the same ports (`WellFormed.of_frames`), and edges may be left
out (`WellFormed.of_edges`).
-/
import PipelineScript.Proofs.Graph.Careful
import PipelineScript.Proofs.Graph.WellFormed
import PipelineScript.Proofs.Text.Numbered

namespace PipelineScript

/-- One edit, with everything it is given. -/
inductive Edit where
  | addNode (r : Registry) (component : String)
  | insertNode (n : Node)
  | removeNode (id : String)
  | connect (source sourcePort target targetPort : String)
  | link (source target : String)
  | disconnect (source target : String)
  | setConfig (id : String) (config : Json)
  | setConfigField (id field : String) (value : Json)

/-- What an edit answers when it succeeds. -/
inductive Edit.Answer where
  | done
  /-- The id of a new node. -/
  | id (id : String)
  /-- The node that was removed. -/
  | node (n : Node)
  /-- How many edges were removed. -/
  | count (k : Nat)

namespace Graph

/-- What an edit does. -/
def attempt : Edit → Editing Edit.Answer
  | .addNode r component => do return .id (← addNode r component)
  | .insertNode n => do insertNode n; return .done
  | .removeNode id => do return .node (← removeNode id)
  | .connect source sourcePort target targetPort => do
    connect source sourcePort target targetPort
    return .done
  | .link source target => do link source target; return .done
  | .disconnect source target => do return .count (← disconnect source target)
  | .setConfig id config => do setConfig id config; return .done
  | .setConfigField id field value => do setConfigField id field value; return .done

/-- Carries out an edit: the answer or the refusal, and the graph that there
is now. -/
def edit (g : Graph) (e : Edit) : Except GraphError Edit.Answer × Graph :=
  match (attempt e).run g with
  | .ok answer g' => (.ok answer, g')
  | .error cause g' => (.error cause, g')

/-- The graph after some edits of the empty one. -/
def afterEdits (edits : List Edit) : Graph :=
  edits.foldl (fun g e => (g.edit e).2) {}

variable {g g' : Graph}

/-- An edit that is refused leaves the graph as it was. -/
theorem careful_attempt (e : Edit) : Careful (attempt e) := by
  have answered : ∀ {α : Type} {m : Editing α} {f : α → Edit.Answer}, Careful m →
      Careful (do return f (← m)) := fun h => h.bind fun _ => passes_pure _
  cases e with
  | addNode r component => exact answered (careful_addNode r component)
  | insertNode n => exact answered (careful_insertNode n)
  | removeNode id => exact answered (careful_removeNode id)
  | connect source sourcePort target targetPort =>
      exact answered (careful_connect source sourcePort target targetPort)
  | link source target => exact answered (careful_link source target)
  | disconnect source target => exact answered (passes_disconnect source target).careful
  | setConfig id config => exact answered (careful_updateNode id _)
  | setConfigField id field value => exact answered (careful_updateNode id _)

/-! ## What keeps a graph well-formed -/

/-- What edges know of a node: all but its component and its configuration. -/
def frame (n : Node) : String × List String × List String :=
  (n.id, n.inputs, n.outputs)

theorem frame_eq_iff {n m : Node} :
    frame m = frame n ↔ m.id = n.id ∧ m.inputs = n.inputs ∧ m.outputs = n.outputs := by
  simp [frame]

theorem wellFormed_empty : ({} : Graph).WellFormed where
  distinct := List.nodup_nil
  source := by simp
  target := by simp
  single := List.nodup_nil

/-- Only the ids and ports of the nodes matter. -/
theorem WellFormed.of_frames (wf : g.WellFormed) (frames : g'.nodes.map frame = g.nodes.map frame)
    (edges : g'.edges = g.edges) : g'.WellFormed := by
  have found : ∀ n ∈ g.nodes, ∃ m ∈ g'.nodes, frame m = frame n := fun n hn =>
    List.mem_map.mp (frames ▸ List.mem_map_of_mem hn)
  refine ⟨?_, ?_, ?_, edges ▸ wf.single⟩
  · have ids : g'.ids = g.ids := by
      have := congrArg (List.map Prod.fst) frames
      rw [List.map_map, List.map_map] at this
      exact this
    exact ids ▸ wf.distinct
  · intro e he
    obtain ⟨n, hn, hid, hport⟩ := wf.source e (edges ▸ he)
    obtain ⟨m, hm, hf⟩ := found n hn
    obtain ⟨hmid, -, hout⟩ := frame_eq_iff.mp hf
    exact ⟨m, hm, hmid.trans hid, hout ▸ hport⟩
  · intro e he
    obtain ⟨n, hn, hid, hport⟩ := wf.target e (edges ▸ he)
    obtain ⟨m, hm, hf⟩ := found n hn
    obtain ⟨hmid, hin, -⟩ := frame_eq_iff.mp hf
    exact ⟨m, hm, hmid.trans hid, hin ▸ hport⟩

theorem WellFormed.of_edges (wf : g.WellFormed) (nodes : g'.nodes = g.nodes)
    (edges : g'.edges.Sublist g.edges) : g'.WellFormed where
  distinct := by
    rw [ids, nodes]
    exact wf.distinct
  source e he := nodes ▸ wf.source e (edges.subset he)
  target e he := nodes ▸ wf.target e (edges.subset he)
  single := (edges.map _).nodup wf.single

/-! ## New nodes -/

theorem contains_iff {id : String} : g.contains id = true ↔ id ∈ g.ids :=
  node?_isSome_iff

theorem WellFormed.append (wf : g.WellFormed) {n : Node} (new : n.id ∉ g.ids) :
    ({ g with nodes := g.nodes ++ [n] } : Graph).WellFormed where
  distinct := by
    show ((g.nodes ++ [n]).map (·.id)).Nodup
    rw [List.map_append]
    refine List.nodup_append.mpr ⟨wf.distinct, by simp, ?_⟩
    rintro a ha b hb rfl
    obtain rfl : a = n.id := by simpa using hb
    exact new ha
  source e he := by
    obtain ⟨m, hm, h⟩ := wf.source e he
    exact ⟨m, List.mem_append_left _ hm, h⟩
  target e he := by
    obtain ⟨m, hm, h⟩ := wf.target e he
    exact ⟨m, List.mem_append_left _ hm, h⟩
  single := wf.single

theorem insertNode_eq_ok_iff {n : Node} :
    (insertNode n).run g = .ok () g' ↔
      n.id ∉ g.ids ∧ g' = { g with nodes := g.nodes ++ [n] } := by
  by_cases h : n.id ∈ g.ids
  · simp [insertNode, contains_iff.mpr h, h]
  · simp [insertNode, pushNode, mt contains_iff.mp h, h, eq_comm]

theorem WellFormed.insertNode (wf : g.WellFormed) {n : Node}
    (h : (Graph.insertNode n).run g = .ok () g') : g'.WellFormed := by
  obtain ⟨new, rfl⟩ := insertNode_eq_ok_iff.mp h
  exact wf.append new

theorem firstFreeId_not_mem {identity : String} : ∀ (tries k : Nat),
    (∃ i, k ≤ i ∧ i < k + tries ∧ identity ++ "-" ++ toString i ∉ g.ids) →
      g.firstFreeId identity tries k ∉ g.ids
  | 0, k, ⟨i, hk, hi, _⟩ => absurd hi (by omega)
  | tries + 1, k, ⟨i, hk, hi, free⟩ => by
      by_cases taken : identity ++ "-" ++ toString k ∈ g.ids
      · rw [firstFreeId, if_pos (contains_iff.mpr taken)]
        have hne : i ≠ k := fun he => free (he ▸ taken)
        exact firstFreeId_not_mem tries (k + 1) ⟨i, by omega, by omega, free⟩
      · rw [firstFreeId, if_neg (mt contains_iff.mp taken)]
        exact taken

theorem freshId_not_mem (g : Graph) (identity : String) : g.freshId identity ∉ g.ids := by
  have room : g.ids.length < g.nodes.length + 1 := by simp [ids]
  exact firstFreeId_not_mem _ _ (Text.exists_numbered_not_mem room _ _)

theorem addNode_eq_ok_iff {r : Registry} {component id : String} :
    (addNode r component).run g = .ok id g' ↔
      ∃ c, r.find? component = some c ∧ id = g.freshId c.identity ∧
        g' = { g with nodes := g.nodes ++ [c.newNode id c.defaultConfig] } := by
  cases hc : r.find? component with
  | none => simp [addNode, Registry.resolve, hc]
  | some c =>
      simp only [addNode, pushNode, Registry.resolve, hc, EStateM.run_bind, EStateM.run_get,
        EStateM.run_modify, EStateM.run_pure, EStateM.Result.ok.injEq, Option.some.injEq]
      constructor
      · rintro ⟨rfl, rfl⟩
        exact ⟨c, rfl, rfl, rfl⟩
      · rintro ⟨_, rfl, rfl, rfl⟩
        exact ⟨rfl, rfl⟩

theorem WellFormed.addNode (wf : g.WellFormed) {r : Registry} {component id : String}
    (h : (Graph.addNode r component).run g = .ok id g') : g'.WellFormed := by
  obtain ⟨c, -, rfl, rfl⟩ := addNode_eq_ok_iff.mp h
  exact wf.append (freshId_not_mem g c.identity)

/-! ## Nodes that go, and nodes that change -/

/-- The graph without a node and without the edges that touch it. -/
def without (g : Graph) (id : String) : Graph where
  nodes := g.nodes.eraseP (·.id == id)
  edges := g.edges.filter fun e => e.source != id && e.target != id

theorem removeNode_eq_ok_iff {id : String} {n : Node} :
    (removeNode id).run g = .ok n g' ↔ g.node? id = some n ∧ g' = g.without id := by
  cases h : g.node? id with
  | none => simp [removeNode, getNode_of_none h]
  | some m =>
      simp only [removeNode, getNode_of_some h, EStateM.run_bind, EStateM.run_modify,
        EStateM.run_pure, EStateM.Result.ok.injEq, Option.some.injEq]
      exact and_congr_right fun _ => eq_comm

theorem WellFormed.without (wf : g.WellFormed) (id : String) : (g.without id).WellFormed := by
  -- an edge that stays touches other nodes only, and these stay as well
  have stays : ∀ n ∈ g.nodes, n.id ≠ id → n ∈ g.nodes.eraseP (·.id == id) := by
    intro n hn hne
    exact (List.mem_eraseP_of_neg (by simpa using hne)).mpr hn
  refine ⟨?_, ?_, ?_, ?_⟩
  · exact (List.eraseP_sublist.map _).nodup wf.distinct
  · intro e he
    obtain ⟨he, hkeep⟩ := List.mem_filter.mp he
    obtain ⟨n, hn, hid, hport⟩ := wf.source e he
    simp only [Bool.and_eq_true, bne_iff_ne] at hkeep
    exact ⟨n, stays n hn (hid ▸ hkeep.1), hid, hport⟩
  · intro e he
    obtain ⟨he, hkeep⟩ := List.mem_filter.mp he
    obtain ⟨n, hn, hid, hport⟩ := wf.target e he
    simp only [Bool.and_eq_true, bne_iff_ne] at hkeep
    exact ⟨n, stays n hn (hid ▸ hkeep.2), hid, hport⟩
  · exact (List.filter_sublist.map _).nodup wf.single

theorem WellFormed.removeNode (wf : g.WellFormed) {id : String} {n : Node}
    (h : (Graph.removeNode id).run g = .ok n g') : g'.WellFormed :=
  (removeNode_eq_ok_iff.mp h).2 ▸ wf.without id

theorem updateFirst_frames {id : String} {f : Node → Node} (keeps : ∀ n, frame (f n) = frame n) :
    ∀ ns : List Node, (updateFirst id f ns).map frame = ns.map frame
  | [] => rfl
  | n :: rest => by
      by_cases h : n.id == id
      · simp [updateFirst, h, keeps]
      · simp [updateFirst, h, updateFirst_frames keeps rest]

theorem updateNode_eq_ok_iff {id : String} {f : Node → Node} :
    (updateNode id f).run g = .ok () g' ↔
      id ∈ g.ids ∧ g' = { g with nodes := updateFirst id f g.nodes } := by
  by_cases h : id ∈ g.ids
  · simp [updateNode, contains_iff.mpr h, h, eq_comm]
  · simp [updateNode, mt contains_iff.mp h, h]

theorem WellFormed.updateNode (wf : g.WellFormed) {id : String} {f : Node → Node}
    (keeps : ∀ n, frame (f n) = frame n) (h : (Graph.updateNode id f).run g = .ok () g') :
    g'.WellFormed := by
  obtain ⟨-, rfl⟩ := updateNode_eq_ok_iff.mp h
  exact wf.of_frames (updateFirst_frames keeps g.nodes) rfl

/-! ## Edges -/

/-- There is such a node, with such a port. -/
def HasPort (g : Graph) (id : String) (side : Side) (port : String) : Prop :=
  ∃ n, g.node? id = some n ∧ port ∈ n.ports side

theorem HasPort.exists_mem {id port : String} {side : Side} (h : g.HasPort id side port) :
    ∃ n ∈ g.nodes, n.id = id ∧ port ∈ n.ports side := by
  obtain ⟨n, hn, hport⟩ := h
  exact ⟨n, List.mem_of_find?_eq_some hn, by simpa using List.find?_some hn, hport⟩

theorem HasPort.mem_ids {id port : String} {side : Side} (h : g.HasPort id side port) :
    id ∈ g.ids := by
  obtain ⟨n, hn, rfl, -⟩ := h.exists_mem
  exact Graph.mem_ids hn

section Connect
variable {source sourcePort target targetPort : String}

theorem connect_eq_ok_iff :
    (connect source sourcePort target targetPort).run g = .ok () g' ↔
      g.HasPort source .output sourcePort ∧ g.HasPort target .input targetPort ∧
        g' = { g with edges := freePort g.edges target targetPort ++
          [⟨source, sourcePort, target, targetPort⟩] } := by
  cases hs : g.node? source with
  | none => simp [connect, getNode_of_none hs, HasPort, hs]
  | some s =>
      by_cases hsp : sourcePort ∈ s.outputs
      · cases ht : g.node? target with
        | none => simp [connect, getNode_of_some hs, getNode_of_none ht, hsp, HasPort, hs, ht]
        | some t =>
            by_cases htp : targetPort ∈ t.inputs <;>
              simp [connect, getNode_of_some hs, getNode_of_some ht, hsp, htp, HasPort, Node.ports,
                hs, ht, eq_comm]
      · simp [connect, getNode_of_some hs, hsp, HasPort, Node.ports, hs]

theorem connect_of_missing_source (missing : source ∉ g.ids) :
    (connect source sourcePort target targetPort).run g = .error (.missingNode source) g := by
  have hs : g.node? source = none := by
    simpa using mt node?_isSome_iff.mp missing
  simp [connect, getNode_of_none hs]

theorem connect_of_missing_target (hsource : g.HasPort source .output sourcePort)
    (missing : target ∉ g.ids) :
    (connect source sourcePort target targetPort).run g = .error (.missingNode target) g := by
  obtain ⟨s, hs, hport⟩ := hsource
  have hport : sourcePort ∈ s.outputs := hport
  have ht : g.node? target = none := by
    simpa using mt node?_isSome_iff.mp missing
  simp [connect, getNode_of_some hs, getNode_of_none ht, hport]

end Connect

theorem mem_freePort {edges : List Edge} {target port : String} {e : Edge} :
    e ∈ freePort edges target port ↔ e ∈ edges ∧ ¬ (e.target = target ∧ e.targetPort = port) := by
  simp [freePort, imp_iff_not_or]

theorem WellFormed.connect (wf : g.WellFormed) {source sourcePort target targetPort : String}
    (h : (Graph.connect source sourcePort target targetPort).run g = .ok () g') :
    g'.WellFormed := by
  obtain ⟨hsource, htarget, rfl⟩ := connect_eq_ok_iff.mp h
  refine ⟨wf.distinct, ?_, ?_, ?_⟩
  · intro e he
    rcases List.mem_append.mp he with he | he
    · exact wf.source e (mem_freePort.mp he).1
    · obtain rfl := List.mem_singleton.mp he
      exact hsource.exists_mem
  · intro e he
    rcases List.mem_append.mp he with he | he
    · exact wf.target e (mem_freePort.mp he).1
    · obtain rfl := List.mem_singleton.mp he
      exact htarget.exists_mem
  · -- no edge that is kept arrives where the new one does
    show ((freePort g.edges target targetPort ++ [_]).map _).Nodup
    rw [List.map_append]
    refine List.nodup_append.mpr ⟨(List.filter_sublist.map _).nodup wf.single, by simp, ?_⟩
    rintro _ ha _ hb rfl
    obtain ⟨e, he, heq⟩ := List.mem_map.mp ha
    have hnew : (e.target, e.targetPort) = (target, targetPort) := by simpa [heq] using hb
    exact (mem_freePort.mp he).2 (Prod.mk.inj hnew)

theorem exists_connect_of_link {source target : String} (h : (link source target).run g = .ok () g') :
    ∃ sourcePort targetPort,
      (connect source sourcePort target targetPort).run g = .ok () g' := by
  obtain ⟨s, -, h⟩ := (looks_getNode source).exists_of_run_bind h
  obtain ⟨sourcePort, -, h⟩ := (looks_firstPort s .output).exists_of_run_bind h
  obtain ⟨t, -, h⟩ := (looks_getNode target).exists_of_run_bind h
  obtain ⟨targetPort, -, h⟩ := (looks_firstPort t .input).exists_of_run_bind h
  exact ⟨sourcePort, targetPort, h⟩

theorem firstPort_of_mem {n : Node} {side : Side} {port : String} (h : port ∈ n.ports side) :
    ∃ first, (∀ g, (firstPort n side).run g = .ok first g) ∧ first ∈ n.ports side := by
  cases hp : n.ports side with
  | nil => simp [hp] at h
  | cons first rest => exact ⟨first, by simp [firstPort, hp], by simp⟩

theorem exists_link_iff {source target : String} :
    (∃ g', (link source target).run g = .ok () g') ↔
      (∃ port, g.HasPort source .output port) ∧ ∃ port, g.HasPort target .input port := by
  constructor
  · rintro ⟨g', h⟩
    obtain ⟨sourcePort, targetPort, h⟩ := exists_connect_of_link h
    obtain ⟨hsource, htarget, -⟩ := connect_eq_ok_iff.mp h
    exact ⟨⟨sourcePort, hsource⟩, ⟨targetPort, htarget⟩⟩
  · rintro ⟨⟨_, s, hs, hsp⟩, ⟨_, t, ht, htp⟩⟩
    obtain ⟨sourcePort, hfs, hsp⟩ := firstPort_of_mem hsp
    obtain ⟨targetPort, hft, htp⟩ := firstPort_of_mem htp
    have h := connect_eq_ok_iff.mpr ⟨⟨s, hs, hsp⟩, ⟨t, ht, htp⟩, rfl⟩
    refine ⟨_, Eq.trans ?_ h⟩
    simp [link, getNode_of_some hs, getNode_of_some ht, hfs, hft]

theorem WellFormed.link (wf : g.WellFormed) {source target : String}
    (h : (Graph.link source target).run g = .ok () g') : g'.WellFormed := by
  obtain ⟨sourcePort, targetPort, h⟩ := exists_connect_of_link h
  exact wf.connect h

theorem run_disconnect (source target : String) :
    ∃ k, (disconnect source target).run g = .ok k
      { g with edges := g.edges.filter fun e => !(e.source == source && e.target == target) } :=
  ⟨_, rfl⟩

/-! ## One edit, and all of them -/

theorem exists_of_answer {α : Type} {m : Editing α} {f : α → Edit.Answer} {answer : Edit.Answer}
    (h : (do return f (← m) : Editing Edit.Answer).run g = .ok answer g') :
    ∃ a, m.run g = .ok a g' := by
  obtain ⟨a, g₁, ha, h⟩ := exists_of_run_bind h
  cases h
  exact ⟨a, ha⟩

/-- An edit that succeeds makes a well-formed graph of one. -/
theorem WellFormed.attempt (wf : g.WellFormed) {e : Edit} {answer : Edit.Answer}
    (h : (Graph.attempt e).run g = .ok answer g') : g'.WellFormed := by
  cases e with
  | addNode r component =>
      obtain ⟨id, done⟩ := exists_of_answer h
      exact wf.addNode done
  | insertNode n =>
      obtain ⟨_, done⟩ := exists_of_answer h
      exact wf.insertNode done
  | removeNode id =>
      obtain ⟨n, done⟩ := exists_of_answer h
      exact wf.removeNode done
  | connect source sourcePort target targetPort =>
      obtain ⟨_, done⟩ := exists_of_answer h
      exact wf.connect done
  | link source target =>
      obtain ⟨_, done⟩ := exists_of_answer h
      exact wf.link done
  | disconnect source target =>
      obtain ⟨k, done⟩ := exists_of_answer h
      obtain ⟨k', done'⟩ := run_disconnect source target
      cases done'.symm.trans done
      exact wf.of_edges rfl List.filter_sublist
  | setConfig id config =>
      obtain ⟨_, done⟩ := exists_of_answer h
      exact wf.updateNode (f := fun n => { n with config }) (fun _ => rfl) done
  | setConfigField id field value =>
      obtain ⟨_, done⟩ := exists_of_answer h
      exact wf.updateNode (f := fun n => { n with config := n.config.setField field value })
        (fun _ => rfl) done

/-- The edit names nodes and ports that are there, and nothing new that is
there already. -/
def Permits (g : Graph) : Edit → Prop
  | .addNode r component => r.contains component = true
  | .insertNode n => n.id ∉ g.ids
  | .removeNode id => id ∈ g.ids
  | .connect source sourcePort target targetPort =>
    g.HasPort source .output sourcePort ∧ g.HasPort target .input targetPort
  | .link source target =>
    (∃ port, g.HasPort source .output port) ∧ ∃ port, g.HasPort target .input port
  | .disconnect _ _ => True
  | .setConfig id _ => id ∈ g.ids
  | .setConfigField id _ _ => id ∈ g.ids

theorem exists_answer_iff {α : Type} {m : Editing α} {f : α → Edit.Answer} :
    (∃ answer g', (do return f (← m) : Editing Edit.Answer).run g = .ok answer g') ↔
      ∃ a g', m.run g = .ok a g' := by
  constructor
  · rintro ⟨answer, g', h⟩
    obtain ⟨a, h⟩ := exists_of_answer h
    exact ⟨a, g', h⟩
  · rintro ⟨a, g', h⟩
    exact ⟨f a, g', by rw [EStateM.run_bind, h]; rfl⟩

theorem exists_done_iff {m : Editing Unit} :
    (∃ answer g', (do m; return .done : Editing Edit.Answer).run g = .ok answer g') ↔
      ∃ g', m.run g = .ok () g' :=
  exists_answer_iff.trans ⟨fun ⟨_, h⟩ => h, fun h => ⟨(), h⟩⟩

theorem exists_updateNode_iff {id : String} {f : Node → Node} :
    (∃ g', (updateNode id f).run g = .ok () g') ↔ id ∈ g.ids := by
  simp [updateNode_eq_ok_iff]

theorem exists_attempt_iff {e : Edit} :
    (∃ answer g', (attempt e).run g = .ok answer g') ↔ g.Permits e := by
  cases e with
  | addNode r component =>
      refine exists_answer_iff.trans ?_
      rw [Permits, Registry.contains, Option.isSome_iff_exists]
      simp [addNode_eq_ok_iff]
  | insertNode n =>
      refine exists_done_iff.trans ?_
      simp [insertNode_eq_ok_iff, Permits]
  | removeNode id =>
      refine exists_answer_iff.trans ?_
      rw [Permits, ← node?_isSome_iff, Option.isSome_iff_exists]
      simp [removeNode_eq_ok_iff]
  | connect source sourcePort target targetPort =>
      refine exists_done_iff.trans ?_
      simp [connect_eq_ok_iff, Permits]
  | link source target => exact exists_done_iff.trans exists_link_iff
  | disconnect source target =>
      refine exists_answer_iff.trans ?_
      simpa [Permits] using passes_disconnect source target g
  | setConfig id config => exact exists_done_iff.trans exists_updateNode_iff
  | setConfigField id field value => exact exists_done_iff.trans exists_updateNode_iff

/-- An edit leaves the graph alone, or makes the one that was attempted. -/
theorem edit_cases (e : Edit) :
    (g.edit e).2 = g ∨ ∃ answer, (attempt e).run g = .ok answer (g.edit e).2 := by
  cases hrun : (attempt e).run g with
  | error c g₁ => exact Or.inl (by simpa [edit, hrun] using careful_attempt e g c g₁ hrun)
  | ok a g₁ => exact Or.inr ⟨a, by simp [edit, hrun]⟩

theorem edit_of_error {e : Edit} {cause : GraphError} (h : (g.edit e).1 = .error cause) :
    (g.edit e).2 = g := by
  cases hrun : (attempt e).run g with
  | error c g₁ => simpa [edit, hrun] using careful_attempt e g c g₁ hrun
  | ok a g₁ => simp [edit, hrun] at h

theorem exists_edit_iff {e : Edit} : (∃ answer, (g.edit e).1 = .ok answer) ↔ g.Permits e := by
  rw [← exists_attempt_iff]
  cases h : (attempt e).run g <;> simp [edit, h]

theorem WellFormed.edit (wf : g.WellFormed) (e : Edit) : (g.edit e).2.WellFormed := by
  rcases g.edit_cases e with same | ⟨answer, h⟩
  · exact same.symm ▸ wf
  · exact wf.attempt h

theorem wellFormed_afterEdits (edits : List Edit) : (afterEdits edits).WellFormed := by
  suffices ∀ g : Graph, g.WellFormed → (edits.foldl (fun g e => (g.edit e).2) g).WellFormed from
    this {} wellFormed_empty
  induction edits with
  | nil => exact fun _ wf => wf
  | cons e edits ih => exact fun g wf => ih _ (wf.edit e)

/-! ## What an editor sees -/

/-- One edge stands before the other by the positions of their ports. -/
def Before (n : Node) (a b : Edge) : Prop :=
  ∃ i j, n.inputIndex? a.targetPort = some i ∧ n.inputIndex? b.targetPort = some j ∧ i < j

theorem WellFormed.exists_inputIndex (wf : g.WellFormed) {n : Node} (hn : n ∈ g.nodes) {e : Edge}
    (he : e ∈ g.edges) (ht : e.target = n.id) :
    ∃ i, n.inputIndex? e.targetPort = some i ∧ arrival n e = i := by
  obtain ⟨m, hm, hid, hport⟩ := wf.target e he
  obtain rfl := eq_of_id_eq wf.distinct hm hn (hid.trans ht)
  obtain ⟨i, hi⟩ := Option.isSome_iff_exists.mp (List.isSome_idxOf?.mpr hport)
  have hi : m.inputIndex? e.targetPort = some i := hi
  exact ⟨i, hi, by simp [arrival, hi]⟩

theorem inputIndex?_inj {n : Node} {p q : String} {i : Nat} (hp : n.inputIndex? p = some i)
    (hq : n.inputIndex? q = some i) : p = q := by
  obtain ⟨hlt, hp, -⟩ := List.idxOf?_eq_some_iff.mp hp
  obtain ⟨hlt', hq, -⟩ := List.idxOf?_eq_some_iff.mp hq
  exact hp.symm.trans hq

section Incoming
variable {n : Node}

theorem incoming_perm {id : String} (h : id ∈ g.ids) :
    (g.incoming id).Perm (g.edges.filter (·.target == id)) := by
  obtain ⟨n, hn⟩ := Option.isSome_iff_exists.mp (node?_isSome_iff.mpr h)
  simpa [incoming, hn] using List.mergeSort_perm _ _

theorem incoming_sorted (h : g.node? n.id = some n) :
    (g.incoming n.id).Pairwise fun a b => arrival n a ≤ arrival n b := by
  have sorted := @List.pairwise_mergeSort _ (fun a b => decide (arrival n a ≤ arrival n b))
    (fun a b c hab hbc => by
      simp only [decide_eq_true_eq] at hab hbc ⊢
      exact hab.trans hbc)
    (fun a b => by simpa using Nat.le_total (arrival n a) (arrival n b))
    (g.edges.filter (·.target == n.id))
  simpa [incoming, h] using sorted

theorem WellFormed.incoming_ports (wf : g.WellFormed) (hn : n ∈ g.nodes) :
    (g.incoming n.id).Pairwise fun a b => a.targetPort ≠ b.targetPort := by
  have perm := incoming_perm (mem_ids hn)
  have nodup : ((g.incoming n.id).map fun e => (e.target, e.targetPort)).Nodup :=
    (perm.map _).nodup_iff.mpr ((List.filter_sublist.map _).nodup wf.single)
  refine (List.pairwise_map.mp nodup).imp_of_mem fun ha hb hne hport => hne ?_
  have ha := ((mem_incoming (mem_ids hn)).mp ha).2
  have hb := ((mem_incoming (mem_ids hn)).mp hb).2
  exact Prod.ext (ha.trans hb.symm) hport

theorem WellFormed.incoming_before (wf : g.WellFormed) (hn : n ∈ g.nodes) :
    (g.incoming n.id).Pairwise (Before n) := by
  have sorted := incoming_sorted ((node?_eq_some_iff wf.distinct).mpr ⟨hn, rfl⟩)
  refine (sorted.and (wf.incoming_ports hn)).imp_of_mem fun ha hb ⟨hle, hne⟩ => ?_
  obtain ⟨ha, hta⟩ := (mem_incoming (mem_ids hn)).mp ha
  obtain ⟨hb, htb⟩ := (mem_incoming (mem_ids hn)).mp hb
  obtain ⟨i, hi, hai⟩ := wf.exists_inputIndex hn ha hta
  obtain ⟨j, hj, hbj⟩ := wf.exists_inputIndex hn hb htb
  refine ⟨i, j, hi, hj, Nat.lt_of_le_of_ne (hai ▸ hbj ▸ hle) fun hij => hne ?_⟩
  exact inputIndex?_inj hi (hij ▸ hj)

end Incoming

/-- What an editor may rely on. -/
structure Tidy (g : Graph) : Prop extends g.WellFormed where
  /-- The edges into a node are listed once each, in the order of the ports at
  which they arrive, one a port at most. -/
  incoming : ∀ n ∈ g.nodes, (g.incoming n.id).Perm (g.edges.filter (·.target == n.id)) ∧
    (g.incoming n.id).Pairwise (Before n)
  /-- An edit is refused if it names something that is not there, or something
  new that is there already, and only then. -/
  permitted : ∀ e, (∃ answer, (g.edit e).1 = .ok answer) ↔ g.Permits e
  /-- An edit that is refused changes nothing. -/
  refused : ∀ e cause, (g.edit e).1 = .error cause → (g.edit e).2 = g
  /-- A node of a known component can always be added, under an id that no
  node has. -/
  added : ∀ (r : Registry) component c, r.find? component = some c →
    ∃ id, id ∉ g.ids ∧ g.edit (.addNode r component) =
      (.ok (.id id), { g with nodes := g.nodes ++ [c.newNode id c.defaultConfig] })

/-- **Edits keep a graph tidy**, whatever they are given and whichever of them
are refused. -/
theorem tidy_afterEdits (edits : List Edit) : (afterEdits edits).Tidy := by
  have wf := wellFormed_afterEdits edits
  refine { wf with incoming := ?_, permitted := ?_, refused := ?_, added := ?_ }
  · exact fun n hn => ⟨incoming_perm (mem_ids hn), wf.incoming_before hn⟩
  · exact fun e => exists_edit_iff
  · exact fun e cause h => edit_of_error h
  · intro r component c hc
    refine ⟨_, freshId_not_mem (afterEdits edits) c.identity, ?_⟩
    rw [edit, attempt, EStateM.run_bind, addNode_eq_ok_iff.mpr ⟨c, hc, rfl, rfl⟩]
    rfl

end Graph

end PipelineScript
