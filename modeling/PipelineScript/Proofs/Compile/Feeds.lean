/-
# What a walk sees of a graph

A walk asks the graph for one thing only: what feeds the input ports of the
node that it visits.  So it does the same over two graphs in which the same
feeds the nodes on its way (`visitAll_congr`).

What feeds a node is decided by the edges into it and the ports of their
sources.  A part that is closed under sources keeps both, and the nodes of the
part are fed in it as they are in the whole graph (`sameFeeds_cut`).
-/
import PipelineScript.Proofs.Compile.Stage
import PipelineScript.Proofs.Graph.Upstream

namespace PipelineScript.Compile

variable {r : Registry} {g g' : Graph} {n : Node}

/-- Whatever became of the other nodes, the same feeds the node in both graphs. -/
def SameFeeds (g g' : Graph) (n : Node) : Prop :=
  ∀ outcomes port, feedAt g' outcomes n.id port = feedAt g outcomes n.id port

theorem SameFeeds.symm (same : SameFeeds g g' n) : SameFeeds g' g n :=
  fun outcomes port => (same outcomes port).symm

/-! ## One walk over two graphs -/

theorem SameFeeds.site_eq (same : SameFeeds g g' n) (w : Walk) (c : Component) :
    w.site g' c n = w.site g c n := by
  have feeds : n.inputs.map (feedAt g' w.outcomes n.id) =
      n.inputs.map (feedAt g w.outcomes n.id) :=
    List.map_congr_left fun port _ => same w.outcomes port
  rw [Walk.site, Walk.site, feeds]

theorem SameFeeds.visit_eq (same : SameFeeds g g' n) (w : Walk) :
    w.visit r g' n = w.visit r g n := by
  simp only [Walk.visit, same.site_eq w]

/-- All that a walk sees of a graph is what feeds the nodes that it visits. -/
theorem visitAll_congr {ns : List Node} (same : ∀ n ∈ ns, SameFeeds g g' n) :
    ∀ w : Walk, Walk.visitAll r g' w ns = Walk.visitAll r g w ns := by
  induction ns with
  | nil =>
      intro w
      rfl
  | cons n ns ih =>
      intro w
      have others := ih fun m hm => same m (List.mem_cons_of_mem n hm)
      rw [Walk.visitAll, Walk.visitAll, (same n List.mem_cons_self).visit_eq w]
      cases w.visit r g n with
      | error e => rfl
      | ok v => exact others v

/-! ## Parts of a graph -/

theorem feedOf_congr {e : Edge} (same : g'.node? e.source = g.node? e.source)
    (o : Option Outcome) : feedOf g' e o = feedOf g e o := by
  cases o with
  | none => rfl
  | some o =>
      cases o with
      | skipped reason => rfl
      | emitted outputs => simp only [feedOf, same]

theorem sameFeeds_cut {keep : List String} (distinct : g.ids.Nodup)
    (closed : g.SourceClosed keep) (hn : n.id ∈ keep) : SameFeeds g (g.cut keep) n := by
  intro outcomes port
  rw [feedAt, feedAt, Graph.incoming_cut closed distinct hn]
  cases h : (g.incoming n.id).find? (·.targetPort == port) with
  | none => rfl
  | some e =>
      have he := Graph.mem_of_mem_incoming (List.mem_of_find?_eq_some h)
      exact feedOf_congr (Graph.cut_node? distinct (closed e he.1 (he.2 ▸ hn))) _

end PipelineScript.Compile
