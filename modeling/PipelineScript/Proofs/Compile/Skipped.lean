/-
# Skipped nodes leave no trace

A node that gives up without anyone depending on it might as well not be there:
if it is removed, the script is the same, but for the entry that says why there
is no fragment (`compile_without_skipped`).

The rest of the graph is closed under sources, so it is ordered and fed as it
was (`Graph.order_without`, `sameFeeds_cut`), and the two walks differ in what
they know of the node only.  `Walk.forget` drops that from a walk.  Visits of
other nodes commute with it (`visitAll_forget`), and what the node itself does is
undone by it: the names that it was handed lie on top of the table, and the
rollback takes them off again (`rollback_of_result`).
-/
import PipelineScript.Graph.Edit
import PipelineScript.Proofs.Compile.Feeds
import PipelineScript.Proofs.Compile.Imports
import PipelineScript.Proofs.Compile.Uniqueness
import PipelineScript.Proofs.Compile.Wiring
import PipelineScript.Proofs.Graph.Editing

namespace PipelineScript

/-! ## The graph without a node -/

namespace Graph

variable {g : Graph} {n : Node} {id : String}

/-- The ids of the other nodes. -/
def others (g : Graph) (id : String) : List String :=
  g.ids.filter (· != id)

theorem mem_others {other : String} : other ∈ g.others id ↔ other ∈ g.ids ∧ other ≠ id := by
  simp [others]

theorem eraseP_id_eq_filter : ∀ {ns : List Node}, (ns.map (·.id)).Nodup →
    ns.eraseP (·.id == id) = ns.filter (·.id != id)
  | [], _ => rfl
  | n :: ns, distinct => by
      obtain ⟨new, distinct⟩ := List.nodup_cons.mp distinct
      by_cases h : n.id = id
      · have rest : ∀ m ∈ ns, (m.id != id) = true := by
          intro m hm
          simpa using fun same => new (List.mem_map.mpr ⟨m, hm, same.trans h.symm⟩)
        simp [h, List.filter_eq_self.mpr rest]
      · simp [h, eraseP_id_eq_filter distinct]

/-- A node is removed by cutting the graph down to the others. -/
theorem removeNode_eq_cut (wf : g.WellFormed) (hn : n ∈ g.nodes) :
    (removeNode n.id).run g = .ok n (g.cut (g.others n.id)) := by
  have kept : ∀ other ∈ g.ids, (g.others n.id).contains other = (other != n.id) := by
    intro other h
    rw [Bool.eq_iff_iff, List.contains_iff_mem, mem_others, bne_iff_ne]
    exact and_iff_right h
  have nodes : g.nodes.eraseP (·.id == n.id) =
      g.nodes.filter fun m => (g.others n.id).contains m.id := by
    rw [eraseP_id_eq_filter wf.distinct]
    refine List.filter_congr fun m hm => ?_
    rw [kept m.id (mem_ids hm)]
  have edges : (g.edges.filter fun e => e.source != n.id && e.target != n.id) =
      g.edges.filter fun e => (g.others n.id).contains e.source &&
        (g.others n.id).contains e.target := by
    refine List.filter_congr fun e he => ?_
    obtain ⟨source, target⟩ := wf.joins e he
    rw [kept e.source source, kept e.target target]
  refine removeNode_eq_ok_iff.mpr ⟨(node?_eq_some_iff wf.distinct).mpr ⟨hn, rfl⟩, ?_⟩
  rw [without, cut, nodes, edges]

theorem sourceClosed_others (wf : g.WellFormed) (sink : ∀ e ∈ g.edges, e.source ≠ id) :
    g.SourceClosed (g.others id) :=
  fun e he _ => mem_others.mpr ⟨(wf.joins e he).1, sink e he⟩

theorem order_without (wf : g.WellFormed) (sink : ∀ e ∈ g.edges, e.source ≠ n.id)
    {before after : List Node} (h : g.order = .ok (before ++ n :: after)) :
    (g.cut (g.others n.id)).order = .ok (before ++ after) ∧
      ∀ m ∈ before ++ after, m.id ∈ g.others n.id := by
  have perm := order_perm h
  have distinct := order_ids_nodup wf.distinct h
  have apart : ∀ m ∈ before ++ after, m.id ∈ g.others n.id := by
    intro m hm
    have hn : n.id ∉ (before ++ after).map (·.id) := by
      rw [List.map_append, List.map_cons] at distinct
      rw [List.map_append]
      exact (List.nodup_cons.mp (List.nodup_middle.mp distinct)).1
    have there : m ∈ before ++ n :: after := by
      rw [List.mem_append, List.mem_cons]
      exact (List.mem_append.mp hm).imp_right Or.inr
    refine mem_others.mpr ⟨mem_ids (perm.subset there), fun same => hn ?_⟩
    exact List.mem_map.mpr ⟨m, hm, same⟩
  refine ⟨?_, apart⟩
  rw [order_cut wf (sourceClosed_others wf sink) h, List.filter_append,
    List.filter_cons_of_neg (by simp [others]), ← List.filter_append]
  refine congrArg Except.ok (List.filter_eq_self.mpr fun m hm => ?_)
  exact List.contains_iff_mem.mpr (apart m hm)

end Graph

namespace Compile

variable {r : Registry} {g : Graph} {n : Node} {id : String} {w : Walk} {ns : List Node}

/-! ## Tables without repetitions

These hold with and without room, unlike the other facts about names. -/

theorem run_names_nodup {t : Stage} {generated : Generated} {p : Progress}
    (hr : t.result g = .ok (generated, p)) (nodup : t.walk.names.taken.Nodup) :
    p.names.taken.Nodup := by
  refine Plan.run_invariant (I := fun q => q.names.taken.Nodup) False ?_ ?_ t.plan hr
    False.elim nodup
  · intro q base _ h
    exact Names.insert_nodup h _
  · intro q port _ h
    cases hp : q.outputs[port]? with
    | none => rwa [output_of_missing _ hp]
    | some slot =>
        cases slot with
        | some name => rwa [output_of_some _ hp]
        | none =>
            rw [output_of_none _ hp]
            exact Names.insert_nodup h _

theorem names_nodup_of_visitAll (h : Walk.visitAll r g {} ns = .ok w) :
    w.names.taken.Nodup := by
  refine visitAll_induction (P := fun _ w => w.names.taken.Nodup) h (Names.ofList_nodup _) ?_
  intro _ t generated p _ nodup hr
  have mine := run_names_nodup hr nodup
  cases generated with
  | fragment code => exact mine
  | skipped reason =>
      show (p.names.releaseAll p.allocated).taken.Nodup
      rw [Names.releaseAll_taken]
      exact mine.diff

/-- Whatever a node has asked for, to give it back restores the table. -/
theorem rollback_of_result {t : Stage} {generated : Generated} {p : Progress}
    (hr : t.result g = .ok (generated, p)) (nodup : t.walk.names.taken.Nodup)
    (supplied : t.Supplied g) : p.rollback = t.walk.names := by
  have grown := (growing_of_result hr nodup supplied).1
  have same : p.rollback.taken = t.walk.names.taken :=
    Names.releaseAll_reverse grown.taken grown.nodup
  exact congrArg Names.mk same

/-! ## Walks that know nothing of a node -/

/-- The walk as if the node had not been met. -/
def Walk.forget (w : Walk) (id : String) : Walk :=
  { w with
    outcomes := w.outcomes.filter fun o => o.1 != id
    skipped := w.skipped.filter fun x => x.node != id }

theorem forget_start (id : String) : ({} : Walk).forget id = {} := by
  simp only [Walk.forget, List.filter_nil]

theorem lookup_forget (w : Walk) {other : String} (hne : other ≠ id) :
    (w.forget id).outcomes.lookup other = w.outcomes.lookup other := by
  rw [Walk.forget, lookup_filter (· != id), if_pos (bne_iff_ne.mpr hne)]

/-- What the node does is forgotten, if it gives back its names. -/
theorem forget_record_skipped {c : Component} {reason : String} {p : Progress}
    (back : p.rollback = w.names) :
    (w.record c n (.skipped reason) p).forget n.id = w.forget n.id := by
  simp [Walk.record, Walk.forget, back]

section Sink
variable (sink : ∀ e ∈ g.edges, e.source ≠ id)
include sink

theorem site_forget (w : Walk) (c : Component) (m : Node) :
    (w.forget id).site g c m = w.site g c m := by
  have feeds : ∀ port, feedAt g (w.forget id).outcomes m.id port =
      feedAt g w.outcomes m.id port := by
    intro port
    rw [feedAt, feedAt]
    cases h : (g.incoming m.id).find? (·.targetPort == port) with
    | none => rfl
    | some e =>
        have he := (Graph.mem_of_mem_incoming (List.mem_of_find?_eq_some h)).1
        exact congrArg (feedOf g e) (lookup_forget w (sink e he))
  rw [Walk.site, Walk.site, funext feeds]

theorem visit_forget (w : Walk) {m : Node} (hm : m.id ≠ id) :
    (w.forget id).visit r g m = (w.visit r g m).map (·.forget id) := by
  have record : ∀ c generated p,
      (w.forget id).record c m generated p = (w.record c m generated p).forget id := by
    intro c generated p
    cases generated <;> simp [Walk.record, Walk.forget, hm]
  have names : (w.forget id).names = w.names := rfl
  cases hc : r.find? m.component with
  | none => simp [Walk.visit, hc, Except.map]
  | some c =>
      simp only [Walk.visit, hc, site_forget sink, names]
      cases (c.generate m.config).run (w.site g c m) (.start w.names m) with
      | error e => rfl
      | ok v =>
          obtain ⟨generated, p⟩ := v
          exact congrArg Except.ok (record c generated p)

theorem visitAll_forget (others : ∀ m ∈ ns, m.id ≠ id) (w : Walk) :
    Walk.visitAll r g (w.forget id) ns = (Walk.visitAll r g w ns).map (·.forget id) := by
  induction ns generalizing w with
  | nil => rfl
  | cons m ns ih =>
      rw [Walk.visitAll, Walk.visitAll, visit_forget sink w (others m List.mem_cons_self)]
      cases w.visit r g m with
      | error e => rfl
      | ok v => exact ih (fun k hk => others k (List.mem_cons_of_mem m hk)) v

/-- The walk around a node is the walk over it, and then the node forgotten. -/
theorem visitAll_around {before after : List Node} (apart : ∀ m ∈ before ++ after, m.id ≠ id)
    {w v w' : Walk} (first : Walk.visitAll r g {} before = .ok w)
    (skip : v.forget id = w.forget id) (last : Walk.visitAll r g v after = .ok w') :
    Walk.visitAll r g {} (before ++ after) = .ok (w'.forget id) := by
  have first' : Walk.visitAll r g {} before = .ok (w.forget id) := by
    have h := visitAll_forget sink (fun m hm => apart m (List.mem_append_left _ hm)) {} (r := r)
    rw [forget_start, first] at h
    exact first.trans h
  have last' : Walk.visitAll r g (v.forget id) after = .ok (w'.forget id) := by
    rw [visitAll_forget sink fun m hm => apart m (List.mem_append_right _ hm), last]
    rfl
  exact visitAll_append.mpr ⟨_, first', skip ▸ last'⟩

end Sink

end Compile

/-! ## Scripts -/

open Compile

variable {r : Registry} {g : Graph} {header : Option String} {s : Script} {id : String}

/-- Of a node that was skipped, nothing is left in the script but one entry. -/
structure Untraced (r : Registry) (g : Graph) (s : Script) (n : Node) : Prop where
  /-- Whatever it asked for, it left the names as they were. -/
  released : ∃ t ∈ stages r g, t.node = n ∧ ∃ reason p,
    t.result g = .ok (.skipped reason, p) ∧ p.rollback = t.walk.names
  /-- The imports were brought by other nodes. -/
  imports : ∀ statement ∈ s.imports, ∃ t ∈ stages r g, t.node.id ≠ n.id ∧
    (∃ code p, t.result g = .ok (.fragment code, p)) ∧
      statement ∈ t.component.imports t.node.config
  /-- No two entries are about one node. -/
  once : (s.skipped.map (·.node)).Nodup

/-- **A skipped sink leaves no trace.**  If nothing is connected to the outputs
of a node that was skipped, the script without the node is the script with it,
less its entry. -/
theorem compile_without_skipped (r : Registry) (header : Option String) (g : Graph) (s : Script)
    (id : String) (wf : g.WellFormed) (h : compile r header g = .ok s)
    (skipped : id ∈ s.skipped.map (·.node)) (sink : ∀ e ∈ g.edges, e.source ≠ id)
    (supplied : ∀ t ∈ stages r g, t.node.id = id → t.Supplied g) :
    ∃ n g', (Graph.removeNode id).run g = .ok n g' ∧
      compile r header g' = .ok { s with skipped := s.skipped.filter fun x => x.node != id } ∧
      Untraced r g s n := by
  obtain ⟨order, w, ho, hv, rfl⟩ := compile_eq_ok_iff.mp h
  have hstages := stages_of_order (r := r) ho
  obtain ⟨x, hx, rfl⟩ := List.mem_map.mp skipped
  obtain ⟨t, ht, p, hr, hid⟩ := (traced_of_visitAll hv).skipped x hx
  rw [hid] at sink supplied ⊢
  -- the walk up to the node, the node, and the walk behind it
  obtain ⟨before, after, hsplit⟩ := List.append_of_mem ht
  obtain ⟨rest, rfl, hc, first, -⟩ := stages_split hsplit
  obtain ⟨w₁, hfirst, hrest⟩ := visitAll_append.mp hv
  obtain rfl : t.walk = w₁ := Except.ok.inj (first.symm.trans hfirst)
  obtain ⟨c, generated, q, hc', hr', last⟩ := visitAll_cons_eq_ok_iff.mp hrest
  obtain rfl : t.component = c := Option.some.inj (hc.symm.trans hc')
  cases hr.symm.trans hr'
  have mem : t ∈ stages r g := hstages ▸ ht
  have back := rollback_of_result hr (names_nodup_of_visitAll first) (supplied t mem rfl)
  obtain ⟨ho', kept⟩ := Graph.order_without wf sink ho
  have apart : ∀ m ∈ before.map (·.node) ++ rest, m.id ≠ t.node.id :=
    fun m hm => (Graph.mem_others.mp (kept m hm)).2
  have around := visitAll_around sink apart first (forget_record_skipped back) last
  have same := visitAll_congr (r := r) (fun m hm =>
    sameFeeds_cut wf.distinct (Graph.sourceClosed_others wf sink) (kept m hm)) {}
  refine ⟨t.node, _, Graph.removeNode_eq_cut wf (component_of_mem_stages mem).1, ?_, ?_⟩
  · exact compile_eq_ok_iff.mpr ⟨_, _, ho', same.trans around, rfl⟩
  · have once := (accounts_of_visitAll hv).skippedOrder.nodup
      (Graph.order_ids_nodup wf.distinct ho)
    refine ⟨⟨t, mem, rfl, x.reason, p, hr, back⟩, ?_, once⟩
    intro statement hs
    obtain ⟨u, hu, ⟨code, q, hq⟩, brought⟩ := imported_of_visitAll hv statement hs
    have hu : u ∈ stages r g := hstages ▸ hu
    refine ⟨u, hu, fun hid => ?_, ⟨code, q, hq⟩, brought⟩
    obtain rfl := stage_unique wf.distinct hu mem hid
    cases hr.symm.trans hq

/-! A node between two sources, fed by the first: it takes a variable and two
more, and then gives up.  The second source gets the variable that it gave back,
and the last node the two others. -/

/-- Publishes, hoards, and then gives up. -/
def waverer : Component where
  identity := "waver"
  display := "Waver"
  category := "Test"
  kind := .transform
  variableBase := "w1"
  imports _ := ["import doubt"]
  generate _ := .bind (.publish 0) fun _ => .bind (hoard 2) fun vs =>
    .done (.skipped ("no use for " ++ " ".intercalate vs))

def wavering : Graph where
  nodes := [⟨"a", "publish", .null, [], ["out"]⟩, ⟨"n", "waver", .null, ["in"], ["out"]⟩,
    ⟨"i", "idle", .null, [], []⟩, ⟨"b", "publish", .null, [], ["out"]⟩,
    ⟨"h", "hoard", .null, [], []⟩]
  edges := [⟨"a", "out", "n", "in"⟩]

def waveringScript : Script where
  fragments := [⟨"a", "publish", "w11", [some "w11"]⟩, ⟨"b", "publish", "w12", [some "w12"]⟩,
    ⟨"h", "hoard", "w1 w2 w3 w4 w5 w6 w7 w8 w9 w10 w13", []⟩]
  skipped := [⟨"n", "no use for w1 w2"⟩, ⟨"i", "nothing to do"⟩]

theorem wavering_wellFormed : wavering.WellFormed where
  distinct := by decide
  source := by decide
  target := by decide
  single := by decide

theorem compile_without_skipped_wavering :
    wavering.WellFormed ∧
      compile ⟨[publisher, waverer, idler, hoarder]⟩ none wavering = .ok waveringScript ∧
      "n" ∈ waveringScript.skipped.map (·.node) ∧ (∀ e ∈ wavering.edges, e.source ≠ "n") ∧
      (∀ t ∈ stages ⟨[publisher, waverer, idler, hoarder]⟩ wavering,
        t.node.id = "n" → t.Supplied wavering) ∧
      ∃ n g', (Graph.removeNode "n").run wavering = .ok n g' ∧
        compile ⟨[publisher, waverer, idler, hoarder]⟩ none g' =
          .ok { waveringScript with skipped := [⟨"i", "nothing to do"⟩] } ∧
        Untraced ⟨[publisher, waverer, idler, hoarder]⟩ wavering waveringScript n := by
  have h : compile ⟨[publisher, waverer, idler, hoarder]⟩ none wavering = .ok waveringScript :=
    ok_of_toOption (by decide +kernel)
  have skipped : "n" ∈ waveringScript.skipped.map (·.node) := by decide
  have sink : ∀ e ∈ wavering.edges, e.source ≠ "n" := by decide
  have tables : ∀ names ∈ nameTables ⟨[publisher, waverer, idler, hoarder]⟩ wavering,
      names.size < Names.suffixLimit := by decide +kernel
  have supplied : ∀ t ∈ stages ⟨[publisher, waverer, idler, hoarder]⟩ wavering,
      t.node.id = "n" → t.Supplied wavering := by
    intro t ht _
    exact supplied_of_tables tables t ht
  exact ⟨wavering_wellFormed, h, skipped, sink, supplied,
    compile_without_skipped _ none wavering waveringScript "n" wavering_wellFormed h skipped sink
      supplied⟩

end PipelineScript
