/-
# The variable of a question

A question about what flows into a node names a variable of its script.  The
service looks it up on its own: the first edge into the node, the port at its
source, and what the fragment of the source has there.  `prepared_question` says
that it is the variable that the compiler would use: the one that it would
answer the node with, asked about the first connected input port, if the node
stood behind the pipeline of the question.

The two lookups are made in three different graphs.  The edges are those into
the node in the whole graph, the script is that of the part upstream of it, and
the compiler would walk over that part with the node behind it
(`Graph.joined`).  What they have in common is that the walk comes to the node
with the fragments of the script (`Graph.Newcomer.reaches`).
-/
import PipelineScript.Proofs.Compile.Growth
import PipelineScript.Proofs.Compile.Uniqueness
import PipelineScript.Schema.Discovery

namespace PipelineScript

open Compile

variable {r : Registry} {g : Graph} {n : Node} {e : Edge} {v : String}

/-! ## The first edge into a node -/

namespace Graph

/-- The edge arrives at this input port, and none arrives at a port before. -/
structure FirstInto (g : Graph) (n : Node) (i : Nat) (e : Edge) : Prop where
  into : ∃ port, n.inputs[i]? = some port ∧ g.Into n port e
  free : ∀ j < i, ∀ port, n.inputs[j]? = some port → ∀ d, ¬ g.Into n port d

theorem WellFormed.arrival_spec (wf : g.WellFormed) (hn : n ∈ g.nodes) (he : e ∈ g.edges)
    (ht : e.target = n.id) :
    n.inputs[arrival n e]? = some e.targetPort ∧
      ∀ i, n.inputs[i]? = some e.targetPort → arrival n e ≤ i := by
  obtain ⟨k, hk, harrival⟩ := wf.exists_inputIndex hn he ht
  rw [harrival]
  obtain ⟨hlt, hport, hfirst⟩ := List.idxOf?_eq_some_iff.mp hk
  refine ⟨List.getElem?_eq_some_iff.mpr ⟨hlt, hport⟩, fun i hi => ?_⟩
  by_contra hlt'
  obtain ⟨_, hi⟩ := List.getElem?_eq_some_iff.mp hi
  exact hfirst i (Nat.not_le.mp hlt') hi

theorem firstInto_iff (wf : g.WellFormed) (hn : n ∈ g.nodes) {i : Nat} :
    g.FirstInto n i e ↔ (e ∈ g.edges ∧ e.target = n.id) ∧ arrival n e = i ∧
      ∀ d ∈ g.edges, d.target = n.id → i ≤ arrival n d := by
  constructor
  · rintro ⟨⟨port, hport, he, ht, rfl⟩, free⟩
    have least : ∀ d ∈ g.edges, d.target = n.id → i ≤ arrival n d := by
      intro d hd hdt
      by_contra hlt
      obtain ⟨hport, -⟩ := wf.arrival_spec hn hd hdt
      exact free _ (Nat.not_le.mp hlt) _ hport d ⟨hd, hdt, rfl⟩
    obtain ⟨-, hfirst⟩ := wf.arrival_spec hn he ht
    exact ⟨⟨he, ht⟩, Nat.le_antisymm (hfirst i hport) (least e he ht), least⟩
  · rintro ⟨⟨he, ht⟩, rfl, least⟩
    obtain ⟨hport, -⟩ := wf.arrival_spec hn he ht
    refine ⟨⟨e.targetPort, hport, he, ht, rfl⟩, fun j hj port hj' d hd => ?_⟩
    obtain ⟨hd, hdt, rfl⟩ := hd
    obtain ⟨-, hfirst⟩ := wf.arrival_spec hn hd hdt
    have hle := (least d hd hdt).trans (hfirst j hj')
    exact Nat.not_le.mpr hj hle

/-- Among the edges into a node, the one at the first connected port is first. -/
theorem head?_incoming_eq_some_iff (wf : g.WellFormed) (hn : n ∈ g.nodes) :
    (g.incoming n.id).head? = some e ↔ ∃ i, g.FirstInto n i e := by
  have sorted := incoming_sorted ((node?_eq_some_iff wf.distinct).mpr ⟨hn, rfl⟩)
  have mem : ∀ d, d ∈ g.incoming n.id ↔ d ∈ g.edges ∧ d.target = n.id := fun d =>
    mem_incoming (mem_ids hn)
  simp only [firstInto_iff wf hn]
  constructor
  · intro h
    obtain ⟨rest, hin⟩ := List.head?_eq_some_iff.mp h
    rw [hin] at sorted mem
    refine ⟨arrival n e, (mem e).mp List.mem_cons_self, rfl, fun d hd hdt => ?_⟩
    rcases List.mem_cons.mp ((mem d).mpr ⟨hd, hdt⟩) with rfl | hrest
    · exact Nat.le_refl _
    · exact List.rel_of_pairwise_cons sorted hrest
  · rintro ⟨_, he, rfl, least⟩
    cases hin : g.incoming n.id with
    | nil => exact absurd (hin ▸ (mem e).mpr he) List.not_mem_nil
    | cons d rest =>
        rw [hin] at sorted mem
        obtain ⟨hd, hdt⟩ := (mem d).mp List.mem_cons_self
        rcases List.mem_cons.mp ((mem e).mpr he) with rfl | hrest
        · rfl
        · -- both arrive at the same place, and a port has one edge only
          have same : arrival n d = arrival n e :=
            Nat.le_antisymm (List.rel_of_pairwise_cons sorted hrest) (least d hd hdt)
          obtain ⟨hport, -⟩ := wf.arrival_spec hn he.1 he.2
          obtain ⟨hport', -⟩ := wf.arrival_spec hn hd hdt
          have ports : d.targetPort = e.targetPort :=
            Option.some.inj (hport'.symm.trans (same ▸ hport))
          rw [List.head?_cons, wf.into_unique ⟨hd, hdt, ports⟩ ⟨he.1, he.2, rfl⟩]

end Graph

/-! ## The two lookups -/

/-- Generated next, the node would be answered with this variable about its
port, whatever component it is for. -/
def Answered (r : Registry) (g : Graph) (n : Node) (i : Nat) (v : String) : Prop :=
  ∃ w, Reaches r g n w ∧ ∀ c, (Stage.site ⟨w, n, c⟩ g).input i = .ok v

theorem fragments_nodup (wf : g.WellFormed) {header : Option String} {s : Script}
    (h : compile r header g = .ok s) : (s.fragments.map (·.node)).Nodup := by
  obtain ⟨order, w, ho, hv, rfl⟩ := compile_eq_ok_iff.mp h
  exact (accounts_of_visitAll hv).fragmentOrder.nodup (Graph.order_ids_nodup wf.distinct ho)

theorem fragment?_eq_some_iff {s : Script} (nodup : (s.fragments.map (·.node)).Nodup)
    {id : String} {f : Fragment} :
    s.fragment? id = some f ↔ f ∈ s.fragments ∧ f.node = id := by
  constructor
  · intro h
    exact ⟨List.mem_of_find?_eq_some h, by simpa using List.find?_some h⟩
  · rintro ⟨hf, rfl⟩
    cases h : s.fragment? f.node with
    | none => exact absurd (List.find?_eq_none.mp h f hf) (by simp)
    | some d =>
        have hd : d ∈ s.fragments := List.mem_of_find?_eq_some h
        have hnode : d.node = f.node := by simpa using List.find?_some h
        rw [List.inj_on_of_nodup_map nodup hd hf hnode]

theorem previewVariable?_eq_some_iff {s : Script} (distinct : g.ids.Nodup)
    (nodup : (s.fragments.map (·.node)).Nodup) {id : String} :
    Discovery.previewVariable? g id s = some v ↔
      ∃ e, (g.incoming id).head? = some e ∧ Published g s.fragments e (some v) := by
  simp only [Discovery.previewVariable?, Published, Option.bind_eq_bind, Option.bind_eq_some_iff,
    Graph.node?_eq_some_iff distinct, fragment?_eq_some_iff nodup]
  constructor
  · rintro ⟨e, he, m, ⟨hm, hid⟩, k, hk, f, ⟨hf, hnode⟩, slot, hslot, rfl⟩
    exact ⟨e, he, m, hm, hid, k, hk, f, hf, hnode.trans hid.symm, hslot⟩
  · rintro ⟨e, he, m, hm, hid, k, hk, f, hf, hnode, hslot⟩
    exact ⟨e, he, m, ⟨hm, hid⟩, k, hk, f, ⟨hf, hnode.trans hid⟩, some v, hslot, rfl⟩

/-- The name is published once: in the fragment of the edge's source, for the
output port that the edge leaves from. -/
def PublishedOnce (g : Graph) (fragments : List Fragment) (e : Edge) (v : String) : Prop :=
  ∃ m ∈ g.nodes, m.id = e.source ∧ ∃ k, m.outputIndex? e.sourcePort = some k ∧
    ∃ f, f.node = m.id ∧ fragments.filter (fun f => f.outputs.contains (some v)) = [f] ∧
      ∀ j, f.outputs[j]? = some (some v) ↔ j = k

theorem publishedOnce_of_published {fragments : List Fragment}
    (nodup : (published fragments).Nodup) (h : Published g fragments e (some v)) :
    PublishedOnce g fragments e v := by
  obtain ⟨m, hm, hid, k, hk, f, hf, hnode, hslot⟩ := h
  refine ⟨m, hm, hid, k, hk, f, hnode, ?_, fun j => ⟨fun hj => ?_, fun hj => hj ▸ hslot⟩⟩
  · exact publishers_eq nodup hf (List.mem_of_getElem? hslot)
  · exact slot_unique (slots_nodup nodup hf) hj hslot

section Joined
variable {keep : List String}

theorem joined_into_iff (hn : n ∈ g.nodes) {port : String} :
    ((g.cut keep).joined n (g.incoming n.id)).Into n port e ↔ g.Into n port e := by
  refine and_congr_left fun ⟨ht, _⟩ => ⟨fun he => ?_, fun he => ?_⟩
  · rcases List.mem_append.mp he with he | he
    · exact (Graph.mem_cut_edges.mp he).1
    · exact (Graph.mem_of_mem_incoming he).1
  · exact List.mem_append_right _ ((Graph.mem_incoming (Graph.mem_ids hn)).mpr ⟨he, ht⟩)

theorem published_joined_iff (hn : n ∈ g.nodes) (hs : e.source ∈ keep) {inflow : List Edge}
    {fragments : List Fragment} {slot : Option String} :
    Published ((g.cut keep).joined n inflow) fragments e slot ↔ Published g fragments e slot := by
  constructor
  · rintro ⟨m, hm, hid, rest⟩
    rcases List.mem_append.mp hm with hm | hm
    · exact ⟨m, (Graph.mem_cut_nodes.mp hm).1, hid, rest⟩
    · exact ⟨m, List.mem_singleton.mp hm ▸ hn, hid, rest⟩
  · rintro ⟨m, hm, hid, rest⟩
    exact ⟨m, List.mem_append_left _ (Graph.mem_cut_nodes.mpr ⟨hm, hid ▸ hs⟩), hid, rest⟩

variable {s : Script} (wf : g.WellFormed) (hn : n ∈ g.nodes)
  (compiled : compile r none (g.cut keep) = .ok s)
include wf hn compiled

/-- **The two lookups agree.** -/
theorem previewVariable?_eq_some_iff_answered (out : n.id ∉ keep)
    (fed : ∀ e ∈ g.edges, e.target = n.id → e.source ∈ keep) :
    Discovery.previewVariable? g n.id s = some v ↔
      ∃ e i, g.FirstInto n i e ∧
        Answered r ((g.cut keep).joined n (g.incoming n.id)) n i v := by
  have late := Graph.newcomer_joined wf hn out fed
  rw [previewVariable?_eq_some_iff wf.distinct (fragments_nodup (wf.cut keep) compiled)]
  obtain ⟨order, w, ho, hv, rfl⟩ := compile_eq_ok_iff.mp compiled
  have reached := late.reaches ho hv
  constructor
  · rintro ⟨e, hhead, hp⟩
    obtain ⟨i, hfirst⟩ := (Graph.head?_incoming_eq_some_iff wf hn).mp hhead
    obtain ⟨port, hport, hinto⟩ := hfirst.into
    have hs := fed e hinto.1 hinto.2.1
    refine ⟨e, i, hfirst, w, reached, fun c => ?_⟩
    exact (reached.input_eq_ok_iff late.larger c hport).mpr
      ⟨e, (joined_into_iff hn).mpr hinto, (published_joined_iff hn hs).mpr hp⟩
  · rintro ⟨e, i, hfirst, w', reached', answered⟩
    obtain rfl := reached'.unique late.larger.distinct reached
    obtain ⟨port, hport, hinto⟩ := hfirst.into
    have hs := fed e hinto.1 hinto.2.1
    -- what the node is answered does not depend on its component
    obtain ⟨d, hd, hp⟩ := (reached.input_eq_ok_iff late.larger idler hport).mp (answered idler)
    obtain rfl := wf.into_unique ((joined_into_iff hn).mp hd) hinto
    exact ⟨d, (Graph.head?_incoming_eq_some_iff wf hn).mpr ⟨i, hfirst⟩,
      (published_joined_iff hn hs).mp hp⟩

theorem publishedOnce_of_previewVariable?
    (supplied : ∀ t ∈ stages r (g.cut keep), t.Supplied (g.cut keep))
    (h : Discovery.previewVariable? g n.id s = some v) {i : Nat} (first : g.FirstInto n i e) :
    PublishedOnce g s.fragments e v := by
  rw [previewVariable?_eq_some_iff wf.distinct (fragments_nodup (wf.cut keep) compiled)] at h
  obtain ⟨d, hhead, hp⟩ := h
  have hhead' := (Graph.head?_incoming_eq_some_iff wf hn).mpr ⟨i, first⟩
  obtain rfl := Option.some.inj (hhead.symm.trans hhead')
  obtain ⟨order, w, ho, hv, rfl⟩ := compile_eq_ok_iff.mp compiled
  rw [stages_of_order ho] at supplied
  exact publishedOnce_of_published (stacked_of_supplied hv supplied).published_nodup hp

end Joined

/-! ## The question -/

/-- What a question about a node says, in terms of the compiler. -/
structure Previews (r : Registry) (g : Graph) (n : Node) (part : Graph) (s : Script)
    (preview : Option String) : Prop where
  upstream : g.upstream? n.id = some part
  script : compileUntil r none g n.id = .ok s
  /-- The variable is the one that the compiler would answer about the first
  connected port, if the node stood behind the part. -/
  answer : ∀ v, preview = some v ↔ ∃ e i, g.FirstInto n i e ∧
    Answered r (part.joined n (g.incoming n.id)) n i v
  /-- The source of the edge publishes it, on the port that the edge leaves
  from, and nothing else in the script does. -/
  once : (∀ t ∈ stages r part, t.Supplied part) → ∀ v e i, preview = some v →
    g.FirstInto n i e → PublishedOnce g s.fragments e v

theorem upstreamQuestion_eq_ok_iff {id : String} {q : Question} :
    Discovery.upstreamQuestion (some r) g id = .ok q ↔
      ∃ part s, g.upstream? id = some part ∧ compile r none part = .ok s ∧
        q = .upstream part id (some s.render) (Discovery.previewVariable? g id s) := by
  cases hp : g.upstream? id with
  | none => simp [Discovery.upstreamQuestion, hp]
  | some part =>
      cases hc : compile r none part with
      | error e => simp [Discovery.upstreamQuestion, hp, hc]
      | ok s => simp [Discovery.upstreamQuestion, hp, hc, eq_comm]

theorem prepareUpstream_eq_ok_iff {d : Discovery} {id : String} {prepared : Prepared} :
    (d.prepareUpstream g id).1 = .ok prepared ↔
      ∃ q, Discovery.upstreamQuestion d.registry g id = .ok q ∧
        prepared = ⟨(d.tickets.issue ⟨id, .upstream⟩).1, q⟩ := by
  show (Discovery.upstreamQuestion d.registry g id).map _ = _ ↔ _
  cases Discovery.upstreamQuestion d.registry g id <;>
    simp [Except.map, Tickets.issue, eq_comm]

/-- **The variable of a question is the one that the compiler would use.** -/
theorem prepared_question (d : Discovery) (r : Registry) (g : Graph) (id : String)
    (prepared : Prepared) (registry : d.registry = some r) (wf : g.WellFormed)
    (acyclic : g.isAcyclic = true) (h : (d.prepareUpstream g id).1 = .ok prepared) :
    ∃ n part s preview, g.node? id = some n ∧
      prepared.question = .upstream part id (some s.render) preview ∧
      Previews r g n part s preview := by
  obtain ⟨q, hq, rfl⟩ := prepareUpstream_eq_ok_iff.mp h
  rw [registry] at hq
  obtain ⟨part, s, hpart, compiled, rfl⟩ := upstreamQuestion_eq_ok_iff.mp hq
  obtain ⟨n, hfound⟩ := Option.isSome_iff_exists.mp
    (Graph.node?_isSome_iff.mpr (Graph.mem_ids_of_upstream? hpart))
  obtain ⟨hn, rfl⟩ := (Graph.node?_eq_some_iff wf.distinct).mp hfound
  obtain ⟨order, ho⟩ := Graph.exists_order_of_isAcyclic acyclic
  have circleless := Graph.no_circles_of_order wf.joins ho
  obtain ⟨keep, hkeep, mem⟩ := Graph.exists_ancestors wf.joins circleless (Graph.mem_ids hn)
  have out : n.id ∉ keep := fun hin => circleless n.id ((mem _).mp hin)
  have fed : ∀ e ∈ g.edges, e.target = n.id → e.source ∈ keep := fun e he ht =>
    (mem _).mpr (.single ⟨e, he, rfl, ht⟩)
  obtain rfl : g.cut keep = part := by
    rw [Graph.upstream?_eq, hkeep] at hpart
    exact Option.some.inj hpart
  refine ⟨n, g.cut keep, s, _, hfound, rfl, hpart, ?_, ?_, ?_⟩
  · rw [compileUntil, hpart]
    exact compiled
  · intro v
    exact previewVariable?_eq_some_iff_answered wf hn compiled out fed
  · intro supplied v e i hv first
    exact publishedOnce_of_previewVariable? wf hn compiled supplied hv first

/-! A node with three input ports, the first of them not connected.  The second is
fed by the second output of a node that publishes two variables. -/

/-- Publishes on both of its output ports. -/
def pairEmitter : Component where
  identity := "pair"
  display := "Pair"
  category := "Test"
  kind := .input
  variableBase := "w"
  imports _ := []
  generate _ := .bind (.publish 0) fun v => .bind (.publish 1) fun w => .done (.fragment (v ++ w))

def junction : Graph where
  nodes := [⟨"z", "record", .null, ["a", "b", "c"], []⟩,
    ⟨"m", "pair", .null, [], ["one", "two"]⟩]
  edges := [⟨"m", "one", "z", "c"⟩, ⟨"m", "two", "z", "b"⟩]

def junctionService : Discovery where
  registry := some ⟨[pairEmitter, recorder]⟩

theorem junction_wellFormed : junction.WellFormed where
  distinct := by decide
  source := by decide
  target := by decide
  single := by decide

def junctionPart : Graph where
  nodes := [⟨"m", "pair", .null, [], ["one", "two"]⟩]

def junctionScript : Script where
  fragments := [⟨"m", "pair", "w1w2", [some "w1", some "w2"]⟩]

theorem prepared_question_junction :
    junctionService.registry = some ⟨[pairEmitter, recorder]⟩ ∧ junction.WellFormed ∧
      junction.isAcyclic = true ∧
      ∃ prepared, (junctionService.prepareUpstream junction "z").1 = .ok prepared ∧
        ∃ n part s, junction.node? "z" = some n ∧
          prepared.question = .upstream part "z" (some s.render) (some "w2") ∧
          Previews ⟨[pairEmitter, recorder]⟩ junction n part s (some "w2") ∧
          ∃ e i, junction.FirstInto n i e ∧ PublishedOnce junction s.fragments e "w2" := by
  have acyclic : junction.isAcyclic = true := by decide +kernel
  have part : junction.upstream? "z" = some junctionPart := rfl
  have compiled : compile ⟨[pairEmitter, recorder]⟩ none junctionPart = .ok junctionScript :=
    ok_of_toOption (by decide +kernel)
  have preview : Discovery.previewVariable? junction "z" junctionScript = some "w2" := by
    simp [Discovery.previewVariable?, Graph.incoming, Graph.node?, Graph.arrival,
      Node.inputIndex?, Node.outputIndex?, Script.fragment?, junction, junctionScript,
      List.mergeSort, List.idxOf?, List.findIdx?, List.findIdx?.go]
  have tables : ∀ names ∈ nameTables ⟨[pairEmitter, recorder]⟩ junctionPart,
      names.size < Names.suffixLimit := by decide +kernel
  have question : Discovery.upstreamQuestion junctionService.registry junction "z" =
      .ok (.upstream junctionPart "z" (some junctionScript.render) (some "w2")) :=
    upstreamQuestion_eq_ok_iff.mpr
      ⟨junctionPart, junctionScript, part, compiled, preview ▸ rfl⟩
  have prepared := prepareUpstream_eq_ok_iff.mpr ⟨_, question, rfl⟩
  obtain ⟨n, _, s, _, hn, hq, previews⟩ := prepared_question junctionService
    ⟨[pairEmitter, recorder]⟩ junction "z" _ rfl junction_wellFormed acyclic prepared
  obtain ⟨rfl, -, -, rfl⟩ := Question.upstream.inj hq
  obtain ⟨e, i, first, -⟩ := (previews.answer "w2").mp rfl
  exact ⟨rfl, junction_wellFormed, acyclic, _, prepared, n, _, s, hn, hq, previews, e, i, first,
    previews.once (supplied_of_tables tables) "w2" e i rfl first⟩

end PipelineScript
