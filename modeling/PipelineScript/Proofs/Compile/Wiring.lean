/-
# Fragments refer to the right variables

While a node is generated its context is asked for the variables that feed
its input ports.  `compile_wired` says what it answers in a graph as the
editor builds them: the variable that the source of the port's edge published
at the port's other end, or whom to blame for there being none.

The answers come from the outcomes that the walk has collected.  `Accounts`
ties these to the fragments and skipped nodes that will be in the script; it
is what every generated node keeps.  That the source of an edge already has
an outcome is the order's doing (`Graph.IsOrder.forward`).
-/
import Mathlib.Data.List.Infix
import PipelineScript.Proofs.Compile.Answers
import PipelineScript.Proofs.Compile.Stage
import PipelineScript.Proofs.Graph.WellFormed
import PipelineScript.Proofs.Lookup

namespace PipelineScript.Compile

variable {r : Registry} {g : Graph}

/-! ## The books of the walk -/

/-- The walk has dealt with these nodes: each one has an outcome, and stands
among the fragments or among the skipped nodes accordingly. -/
structure Accounts (visited : List Node) (w : Walk) : Prop where
  keys : w.outcomes.map Prod.fst = (visited.map (·.id)).reverse
  emitted : ∀ id outputs, (id, .emitted outputs) ∈ w.outcomes ↔
    ∃ f ∈ w.fragments, f.node = id ∧ f.outputs = outputs
  skipped : ∀ id reason, (id, .skipped reason) ∈ w.outcomes ↔ ⟨id, reason⟩ ∈ w.skipped
  all : (w.fragments.map (·.node) ++ w.skipped.map (·.node)).Perm (visited.map (·.id))
  fragmentOrder : (w.fragments.map (·.node)).Sublist (visited.map (·.id))
  skippedOrder : (w.skipped.map (·.node)).Sublist (visited.map (·.id))
  sizes : ∀ f ∈ w.fragments, ∃ m ∈ visited, m.id = f.node ∧ f.outputs.length = m.outputs.length

theorem accounts_start : Accounts [] {} := by
  constructor <;> simp

theorem Accounts.next {visited : List Node} {t : Stage} {generated : Generated} {p : Progress}
    (h : Accounts visited t.walk) (hr : t.result g = .ok (generated, p)) :
    Accounts (visited ++ [t.node]) (t.next generated p) := by
  cases generated with
  | fragment code =>
      have hsize : p.outputs.length = t.node.outputs.length := by
        rw [Plan.run_outputs_length hr]
        simp [Stage.start, Progress.start]
      refine ⟨?_, ?_, ?_, ?_, ?_, ?_, ?_⟩
      · simp [Stage.next, Walk.record, h.keys]
      · intro id outputs
        simp only [Stage.next, Walk.record, List.mem_cons, Prod.mk.injEq, Outcome.emitted.injEq,
          h.emitted, List.mem_append, List.not_mem_nil, or_false]
        constructor
        · rintro (⟨rfl, rfl⟩ | ⟨f, hf, hid, ho⟩)
          · exact ⟨_, Or.inr rfl, rfl, rfl⟩
          · exact ⟨f, Or.inl hf, hid, ho⟩
        · rintro ⟨f, hf | rfl, hid, ho⟩
          · exact Or.inr ⟨f, hf, hid, ho⟩
          · exact Or.inl ⟨hid.symm, ho.symm⟩
      · intro id reason
        simp [Stage.next, Walk.record, h.skipped]
      · have hswap : ((t.walk.fragments.map (·.node) ++ [t.node.id]) ++
            t.walk.skipped.map (·.node)).Perm (visited.map (·.id) ++ [t.node.id]) := by
          rw [List.append_assoc]
          refine (List.Perm.append_left _ List.perm_append_comm).trans ?_
          rw [← List.append_assoc]
          exact h.all.append_right _
        simpa [Stage.next, Walk.record] using hswap
      · simpa [Stage.next, Walk.record] using h.fragmentOrder.append_right [t.node.id]
      · simpa [Stage.next, Walk.record] using
          h.skippedOrder.trans (List.sublist_append_left _ [t.node.id])
      · intro f hf
        simp only [Stage.next, Walk.record, List.mem_append, List.mem_singleton] at hf
        rcases hf with hf | rfl
        · obtain ⟨m, hm, hid, hl⟩ := h.sizes f hf
          exact ⟨m, List.mem_append_left _ hm, hid, hl⟩
        · exact ⟨t.node, by simp, rfl, hsize⟩
  | skipped reason =>
      refine ⟨?_, ?_, ?_, ?_, ?_, ?_, ?_⟩
      · simp [Stage.next, Walk.record, h.keys]
      · intro id outputs
        simp [Stage.next, Walk.record, h.emitted]
      · intro id reason
        simp only [Stage.next, Walk.record, List.mem_cons, Prod.mk.injEq, Outcome.skipped.injEq,
          h.skipped, List.mem_append, SkippedNode.mk.injEq, List.not_mem_nil, or_false]
        exact or_comm
      · simpa [Stage.next, Walk.record] using h.all.append_right [t.node.id]
      · simpa [Stage.next, Walk.record] using
          h.fragmentOrder.trans (List.sublist_append_left _ [t.node.id])
      · simpa [Stage.next, Walk.record] using h.skippedOrder.append_right [t.node.id]
      · intro f hf
        obtain ⟨m, hm, hid, hl⟩ := h.sizes f hf
        exact ⟨m, List.mem_append_left _ hm, hid, hl⟩

/-- The books balance after every walk. -/
theorem accounts_of_visitAll {ns : List Node} {w : Walk}
    (h : Walk.visitAll r g {} ns = .ok w) : Accounts ns w := by
  have := visitAll_induction (P := fun ts w => Accounts (ts.map (·.node)) w) h accounts_start
    fun before t generated p _ hp hr => by simpa using hp.next hr
  rwa [stages_nodes h] at this

section Lookup
variable {visited : List Node} {w : Walk} (h : Accounts visited w)
include h

theorem Accounts.exists_lookup {id : String} (hid : id ∈ visited.map (·.id)) :
    ∃ o, w.outcomes.lookup id = some o := by
  have hk : id ∈ w.outcomes.map Prod.fst := by
    rw [h.keys]
    exact List.mem_reverse.mpr hid
  exact PipelineScript.exists_lookup hk

theorem Accounts.lookup_eq_some_iff (distinct : (visited.map (·.id)).Nodup) {id : String}
    {o : Outcome} : w.outcomes.lookup id = some o ↔ (id, o) ∈ w.outcomes := by
  have nodup : (w.outcomes.map Prod.fst).Nodup := by
    rw [h.keys]
    exact List.nodup_reverse.mpr distinct
  exact lookup_eq_some_iff_mem nodup

end Lookup

/-! ## What was published at the source of an edge -/

/-- The source of the edge was emitted, and its fragment has this entry for
the edge's output port. -/
def Published (g : Graph) (fragments : List Fragment) (e : Edge) (slot : Option String) : Prop :=
  ∃ m ∈ g.nodes, m.id = e.source ∧ ∃ k, m.outputIndex? e.sourcePort = some k ∧
    ∃ f ∈ fragments, f.node = m.id ∧ f.outputs[k]? = some slot

/-- The source of the edge was skipped for this reason. -/
def GaveUp (skipped : List SkippedNode) (e : Edge) (reason : String) : Prop :=
  ⟨e.source, reason⟩ ∈ skipped

/-- What an edge brings from an entry of its source's fragment. -/
def slotFeed (e : Edge) : Option String → Feed
  | some name => .available name
  | none => .unavailable e.source (.noValue e.sourcePort)

theorem outputIndex?_of_mem {m : Node} {port : String} (h : port ∈ m.outputs) :
    ∃ k, m.outputIndex? port = some k ∧ k < m.outputs.length := by
  obtain ⟨k, hk⟩ := Option.isSome_iff_exists.mp (List.isSome_idxOf?.mpr h)
  obtain ⟨hlt, -⟩ := List.idxOf?_eq_some_iff.mp hk
  exact ⟨k, hk, hlt⟩

section Feeds
variable (wf : g.WellFormed) {visited : List Node} {w : Walk} (h : Accounts visited w)
  (distinct : (visited.map (·.id)).Nodup)
include h distinct

theorem feedOf_of_gaveUp {e : Edge} {reason : String} (hg : GaveUp w.skipped e reason) :
    feedOf g e (w.outcomes.lookup e.source) = .unavailable e.source (.skipped reason) := by
  have hl := (h.lookup_eq_some_iff distinct).mpr ((h.skipped _ _).mpr hg)
  rw [hl]
  rfl

include wf

theorem feedOf_of_published {e : Edge} {slot : Option String}
    (hp : Published g w.fragments e slot) :
    feedOf g e (w.outcomes.lookup e.source) = slotFeed e slot := by
  obtain ⟨m, hm, hmid, k, hk, f, hf, hfid, hslot⟩ := hp
  have hmem := (h.emitted _ _).mpr ⟨f, hf, hfid.trans hmid, rfl⟩
  have hl := (h.lookup_eq_some_iff distinct).mpr hmem
  have hnode := (Graph.node?_eq_some_iff wf.distinct).mpr ⟨hm, hmid⟩
  cases slot <;> simp [hl, feedOf, hnode, hk, hslot, slotFeed]

/-- An edge whose source has been dealt with has something at its other end,
or a reason for there being nothing. -/
theorem published_or_gaveUp (sub : visited ⊆ g.nodes) {e : Edge} (he : e ∈ g.edges)
    (hs : e.source ∈ visited.map (·.id)) :
    (∃ slot, Published g w.fragments e slot) ∨ ∃ reason, GaveUp w.skipped e reason := by
  obtain ⟨o, ho⟩ := h.exists_lookup hs
  have hmem := (h.lookup_eq_some_iff distinct).mp ho
  cases o with
  | skipped reason => exact Or.inr ⟨reason, (h.skipped _ _).mp hmem⟩
  | emitted outputs =>
      obtain ⟨f, hf, hfid, -⟩ := (h.emitted _ _).mp hmem
      obtain ⟨m, hm, hmid, hport⟩ := wf.source e he
      obtain ⟨m', hm', hmid', hl⟩ := h.sizes f hf
      have : m' = m := Graph.eq_of_id_eq wf.distinct (sub hm') hm
        (hmid'.trans (hfid.trans hmid.symm))
      subst this
      obtain ⟨k, hk, hlt⟩ := outputIndex?_of_mem hport
      exact Or.inl ⟨_, m', hm, hmid, k, hk, f, hf, hfid.trans hmid.symm,
        List.getElem?_eq_getElem (hl ▸ hlt)⟩

end Feeds

/-! ## What feeds an input port -/

theorem feedAt_of_into (wf : g.WellFormed) {n : Node} (hn : n ∈ g.nodes) {port : String}
    {e : Edge} (he : g.Into n port e) (outcomes : List (String × Outcome)) :
    feedAt g outcomes n.id port = feedOf g e (outcomes.lookup e.source) := by
  rw [feedAt, (Graph.find_incoming_eq_some_iff wf hn).mpr he]

theorem feedAt_of_not_into {n : Node} (hn : n ∈ g.nodes) {port : String}
    (he : ∀ e, ¬ g.Into n port e) (outcomes : List (String × Outcome)) :
    feedAt g outcomes n.id port = .unconnected := by
  rw [feedAt, (Graph.find_incoming_eq_none_iff hn).mpr he]

section Port
variable (wf : g.WellFormed) {visited : List Node} {w : Walk} (h : Accounts visited w)
  (distinct : (visited.map (·.id)).Nodup) (sub : visited ⊆ g.nodes) {n : Node}
  (hn : n ∈ g.nodes) (fed : g.Fed visited n)
include wf h distinct sub hn fed

/-- The three things that can feed a port. -/
theorem feedAt_cases (port : String) :
    ((∀ e, ¬ g.Into n port e) ∧ feedAt g w.outcomes n.id port = .unconnected) ∨
    (∃ e slot, g.Into n port e ∧ Published g w.fragments e slot ∧
      feedAt g w.outcomes n.id port = slotFeed e slot) ∨
    (∃ e reason, g.Into n port e ∧ GaveUp w.skipped e reason ∧
      feedAt g w.outcomes n.id port = .unavailable e.source (.skipped reason)) := by
  by_cases hno : ∀ e, ¬ g.Into n port e
  · exact Or.inl ⟨hno, feedAt_of_not_into hn hno _⟩
  · obtain ⟨e, he⟩ := not_forall_not.mp hno
    refine Or.inr ?_
    rw [feedAt_of_into wf hn he]
    rcases published_or_gaveUp wf h distinct sub he.1 (fed e he.1 he.2.1) with
      ⟨slot, hp⟩ | ⟨reason, hg⟩
    · exact Or.inl ⟨e, slot, he, hp, feedOf_of_published wf h distinct hp⟩
    · exact Or.inr ⟨e, reason, he, hg, feedOf_of_gaveUp h distinct hg⟩

theorem feedAt_eq_unconnected_iff {port : String} :
    feedAt g w.outcomes n.id port = .unconnected ↔ ∀ e, ¬ g.Into n port e := by
  refine ⟨fun hf => ?_, fun hno => feedAt_of_not_into hn hno _⟩
  rcases feedAt_cases wf h distinct sub hn fed port with
    ⟨hno, -⟩ | ⟨e, slot, -, -, hf'⟩ | ⟨e, reason, -, -, hf'⟩
  · exact hno
  · rw [hf] at hf'
    cases slot <;> cases hf'
  · rw [hf] at hf'
    cases hf'

theorem feedAt_eq_available_iff {port name : String} :
    feedAt g w.outcomes n.id port = .available name ↔
      ∃ e, g.Into n port e ∧ Published g w.fragments e (some name) := by
  constructor
  · intro hf
    rcases feedAt_cases wf h distinct sub hn fed port with
      ⟨-, hf'⟩ | ⟨e, slot, he, hp, hf'⟩ | ⟨e, reason, -, -, hf'⟩ <;> rw [hf] at hf'
    · cases hf'
    · cases slot <;> cases hf'
      exact ⟨e, he, hp⟩
    · cases hf'
  · rintro ⟨e, he, hp⟩
    rw [feedAt_of_into wf hn he]
    exact feedOf_of_published wf h distinct hp

theorem feedAt_eq_unavailable_iff {port source : String} {gap : Gap} :
    feedAt g w.outcomes n.id port = .unavailable source gap ↔
      ∃ e, g.Into n port e ∧ e.source = source ∧
        ((Published g w.fragments e none ∧ gap = .noValue e.sourcePort) ∨
          ∃ reason, GaveUp w.skipped e reason ∧ gap = .skipped reason) := by
  constructor
  · intro hf
    rcases feedAt_cases wf h distinct sub hn fed port with
      ⟨-, hf'⟩ | ⟨e, slot, he, hp, hf'⟩ | ⟨e, reason, he, hg, hf'⟩ <;> rw [hf] at hf'
    · cases hf'
    · cases slot <;> cases hf'
      exact ⟨e, he, rfl, Or.inl ⟨hp, rfl⟩⟩
    · cases hf'
      exact ⟨e, he, rfl, Or.inr ⟨reason, hg, rfl⟩⟩
  · rintro ⟨e, he, rfl, ⟨hp, rfl⟩ | ⟨reason, hg, rfl⟩⟩
    · rw [feedAt_of_into wf hn he]
      exact feedOf_of_published wf h distinct hp
    · rw [feedAt_of_into wf hn he]
      exact feedOf_of_gaveUp h distinct hg

end Port

/-! ## What the context answers -/

section Input
variable {t : Stage} {i : Nat} {port : String} (hi : t.node.inputs[i]? = some port)
include hi

theorem feeds_getElem? :
    (t.site g).feeds[i]? = some (feedAt g t.walk.outcomes t.node.id port) := by
  simp [Stage.site, Walk.site, hi]

theorem input_eq_ok_iff {name : String} :
    (t.site g).input i = .ok name ↔
      feedAt g t.walk.outcomes t.node.id port = .available name := by
  cases hf : feedAt g t.walk.outcomes t.node.id port <;>
    simp [Site.input, feeds_getElem? hi, hf]

theorem input_eq_error_iff {cause : CompileError} :
    (t.site g).input i = .error cause ↔
      (feedAt g t.walk.outcomes t.node.id port = .unconnected ∧
        cause = .incomplete t.node.id (.unconnected port)) ∨
      ∃ source gap, feedAt g t.walk.outcomes t.node.id port = .unavailable source gap ∧
        cause = .incomplete source (.upstream gap t.node.id) := by
  have hnode : (t.site g).node = t.node := rfl
  cases hf : feedAt g t.walk.outcomes t.node.id port <;>
    simp [Site.input, feeds_getElem? hi, hf, hnode, hi, eq_comm]

end Input

/-! ## The place of a node in the walk -/

/-- The script continues what the walk has at this stage, and the node's own
entry comes next. -/
structure Stage.Precedes (t : Stage) (s : Script) : Prop where
  fragments : t.walk.fragments <+: s.fragments
  skipped : t.walk.skipped <+: s.skipped
  ownFragment : ∀ f ∈ s.fragments, f.node = t.node.id → t.walk.fragments ++ [f] <+: s.fragments
  ownSkipped : ∀ x ∈ s.skipped, x.node = t.node.id → t.walk.skipped ++ [x] <+: s.skipped

theorem record_prefix (w : Walk) (c : Component) (n : Node) (generated : Generated)
    (p : Progress) :
    w.fragments <+: (w.record c n generated p).fragments ∧
      w.skipped <+: (w.record c n generated p).skipped := by
  cases generated with
  | fragment code => exact ⟨List.prefix_append _ _, List.prefix_refl _⟩
  | skipped reason => exact ⟨List.prefix_refl _, List.prefix_append _ _⟩

theorem visitAll_prefix {w w' : Walk} {ns : List Node} (h : Walk.visitAll r g w ns = .ok w') :
    w.fragments <+: w'.fragments ∧ w.skipped <+: w'.skipped :=
  visitAll_induction
    (P := fun _ v => w.fragments <+: v.fragments ∧ w.skipped <+: v.skipped) h
    ⟨List.prefix_refl _, List.prefix_refl _⟩
    fun _ t generated p _ hp _ =>
      have hn := record_prefix t.walk t.component t.node generated p
      ⟨hp.1.trans hn.1, hp.2.trans hn.2⟩

theorem prefix_of_key_eq {α β : Type} {key : α → β} {xs ys : List α} {a b : α}
    (nodup : (ys.map key).Nodup) (h : xs ++ [a] <+: ys) (hb : b ∈ ys) (he : key b = key a) :
    xs ++ [b] <+: ys := by
  have ha : a ∈ ys := h.subset (by simp)
  rw [List.inj_on_of_nodup_map nodup hb ha he]
  exact h

theorem precedes_of_prefix {t : Stage} {generated : Generated} {p : Progress} {s : Script}
    (nodup : (s.fragments.map (·.node) ++ s.skipped.map (·.node)).Nodup)
    (hf : (t.next generated p).fragments <+: s.fragments)
    (hx : (t.next generated p).skipped <+: s.skipped) : t.Precedes s := by
  have hp := record_prefix t.walk t.component t.node generated p
  obtain ⟨nodupF, nodupX, disjoint⟩ := List.nodup_append.mp nodup
  cases generated with
  | fragment code =>
      refine ⟨hp.1.trans hf, hp.2.trans hx, fun f hmem hid => ?_, fun x hmem hid => ?_⟩
      · exact prefix_of_key_eq nodupF hf hmem hid
      · have hown := hf.subset (List.mem_append_right _ List.mem_cons_self)
        exact absurd hid.symm (disjoint _ (List.mem_map_of_mem hown) _ (List.mem_map_of_mem hmem))
  | skipped reason =>
      refine ⟨hp.1.trans hf, hp.2.trans hx, fun f hmem hid => ?_, fun x hmem hid => ?_⟩
      · have hown := hx.subset (List.mem_append_right _ List.mem_cons_self)
        exact absurd hid (disjoint _ (List.mem_map_of_mem hmem) _ (List.mem_map_of_mem hown))
      · exact prefix_of_key_eq nodupX hx hmem hid

/-- Where the walk comes to a node, the books are those of the nodes before it,
and these are all that the node depends on. -/
theorem accounts_of_reaches (distinct : g.ids.Nodup) {n : Node} {w : Walk}
    (reached : Reaches r g n w) :
    ∃ visited, Accounts visited w ∧ (visited.map (·.id)).Nodup ∧ visited ⊆ g.nodes ∧
      n ∈ g.nodes ∧ g.Fed visited n := by
  obtain ⟨before, after, ho, hv⟩ := reached
  have isOrder := Graph.isOrder_of_order distinct ho
  have sub : before.Sublist (before ++ n :: after) := List.sublist_append_left _ _
  have hids := Graph.order_ids_nodup distinct ho
  exact ⟨before, accounts_of_visitAll hv, (sub.map _).nodup hids,
    fun m hm => isOrder.perm.subset (sub.subset hm), isOrder.perm.subset (by simp),
    isOrder.forward before n after rfl⟩

/-- What the context of a node answers about a port, whatever component it is
for. -/
theorem Reaches.input_eq_ok_iff (wf : g.WellFormed) {n : Node} {w : Walk}
    (reached : Reaches r g n w) (c : Component) {i : Nat} {port : String}
    (hi : n.inputs[i]? = some port) {name : String} :
    (Stage.site ⟨w, n, c⟩ g).input i = .ok name ↔
      ∃ e, g.Into n port e ∧ Published g w.fragments e (some name) := by
  obtain ⟨visited, acc, distinct, sub, hn, fed⟩ := accounts_of_reaches wf.distinct reached
  rw [Compile.input_eq_ok_iff hi, feedAt_eq_available_iff wf acc distinct sub hn fed]

end PipelineScript.Compile

namespace PipelineScript

open Compile

variable {r : Registry} {g : Graph} {header : Option String} {s : Script}

/-- How a script hangs together: which nodes it speaks of, and what the
context answers about an input port where a node is generated. -/
structure Wired (r : Registry) (g : Graph) (s : Script) : Prop where
  ordered : g.order = .ok ((stages r g).map (·.node))
  generated : ∀ n ∈ g.nodes, ∃ t ∈ stages r g, t.node = n
  /-- Every node has a fragment or was skipped, and only one of the two. -/
  once : (s.fragments.map (·.node) ++ s.skipped.map (·.node)).Perm g.ids
  fragmentOrder : (s.fragments.map (·.node)).Sublist ((stages r g).map (·.node.id))
  skippedOrder : (s.skipped.map (·.node)).Sublist ((stages r g).map (·.node.id))
  precedes : ∀ t ∈ stages r g, t.Precedes s
  /-- A port is answered with what the source of its edge published on the
  edge's output port, in a fragment that stands before. -/
  available : ∀ t ∈ stages r g, ∀ i port, t.node.inputs[i]? = some port →
    ∀ name, (t.site g).input i = .ok name ↔
      ∃ e, g.Into t.node port e ∧ Published g t.walk.fragments e (some name)
  /-- Otherwise the node is blamed for an unconnected port, and the source of
  the edge for publishing nothing or for having been skipped. -/
  missing : ∀ t ∈ stages r g, ∀ i port, t.node.inputs[i]? = some port →
    ∀ cause, (t.site g).input i = .error cause ↔
      ((∀ e, ¬ g.Into t.node port e) ∧ cause = .incomplete t.node.id (.unconnected port)) ∨
      (∃ e, g.Into t.node port e ∧ Published g t.walk.fragments e none ∧
        cause = .incomplete e.source (.upstream (.noValue e.sourcePort) t.node.id)) ∨
      (∃ e reason, g.Into t.node port e ∧ GaveUp t.walk.skipped e reason ∧
        cause = .incomplete e.source (.upstream (.skipped reason) t.node.id))

theorem precedes_of_compile (distinct : g.ids.Nodup) (h : compile r header g = .ok s)
    {t : Stage} (ht : t ∈ stages r g) : t.Precedes s := by
  obtain ⟨order, w, ho, hv, rfl⟩ := compile_eq_ok_iff.mp h
  rw [stages_of_order ho] at ht
  have isOrder := Graph.isOrder_of_order distinct ho
  have books := accounts_of_visitAll hv
  obtain ⟨before, after, hsplit⟩ := List.append_of_mem ht
  obtain ⟨rest, hns, hc, hbefore, -⟩ := stages_split hsplit
  rw [hns] at hv
  obtain ⟨v, hv', hrest⟩ := visitAll_append.mp hv
  cases hbefore.symm.trans hv'
  obtain ⟨c, generated, p, hc', hr, hrest⟩ := visitAll_cons_eq_ok_iff.mp hrest
  cases hc.symm.trans hc'
  have hprefix := visitAll_prefix hrest
  have nodup := (books.all.trans (isOrder.perm.map _)).nodup_iff.mpr distinct
  exact precedes_of_prefix nodup hprefix.1 hprefix.2

section Answers
variable (wf : g.WellFormed) {t : Stage} (ht : t ∈ stages r g) {i : Nat} {port : String}
  (hi : t.node.inputs[i]? = some port)
include wf ht hi

theorem input_eq_ok_iff_published {name : String} :
    (t.site g).input i = .ok name ↔
      ∃ e, g.Into t.node port e ∧ Published g t.walk.fragments e (some name) :=
  (reaches_of_mem_stages ht).input_eq_ok_iff wf t.component hi

theorem input_eq_error_iff_blamed {cause : CompileError} :
    (t.site g).input i = .error cause ↔
      ((∀ e, ¬ g.Into t.node port e) ∧ cause = .incomplete t.node.id (.unconnected port)) ∨
      (∃ e, g.Into t.node port e ∧ Published g t.walk.fragments e none ∧
        cause = .incomplete e.source (.upstream (.noValue e.sourcePort) t.node.id)) ∨
      (∃ e reason, g.Into t.node port e ∧ GaveUp t.walk.skipped e reason ∧
        cause = .incomplete e.source (.upstream (.skipped reason) t.node.id)) := by
  obtain ⟨visited, acc, distinct, sub, hn, fed⟩ := accounts_of_reaches wf.distinct (reaches_of_mem_stages ht)
  rw [input_eq_error_iff hi, feedAt_eq_unconnected_iff wf acc distinct sub hn fed]
  simp only [feedAt_eq_unavailable_iff wf acc distinct sub hn fed]
  refine or_congr_right ⟨?_, ?_⟩
  · rintro ⟨_, _, ⟨e, he, rfl, ⟨hp, rfl⟩ | ⟨reason, hg, rfl⟩⟩, rfl⟩
    · exact Or.inl ⟨e, he, hp, rfl⟩
    · exact Or.inr ⟨e, reason, he, hg, rfl⟩
  · rintro (⟨e, he, hp, rfl⟩ | ⟨e, reason, he, hg, rfl⟩)
    · exact ⟨_, _, ⟨e, he, rfl, Or.inl ⟨hp, rfl⟩⟩, rfl⟩
    · exact ⟨_, _, ⟨e, he, rfl, Or.inr ⟨reason, hg, rfl⟩⟩, rfl⟩

end Answers

/-- **Wiring of a compiled script.**  Whatever the components do, a script of
a well-formed graph is wired: every node is generated once, in order, and its
context answers with the variables published before, or says whom to blame. -/
theorem compile_wired (r : Registry) (header : Option String) (g : Graph) (s : Script)
    (wf : g.WellFormed) (h : compile r header g = .ok s) : Wired r g s := by
  obtain ⟨order, w, ho, hv, hs⟩ := compile_eq_ok_iff.mp h
  have isOrder := Graph.isOrder_of_order wf.distinct ho
  have books := accounts_of_visitAll hv
  have hnodes : (stages r g).map (·.node) = order := stages_of_order ho ▸ stages_nodes hv
  have hids : (stages r g).map (·.node.id) = order.map (·.id) := by
    rw [← hnodes, List.map_map]
    rfl
  refine ⟨hnodes.symm ▸ ho, fun n hn => ?_, ?_, ?_, ?_, fun t ht => ?_, ?_, ?_⟩
  · exact List.mem_map.mp (hnodes.symm ▸ isOrder.perm.symm.subset hn)
  · rw [hs]
    exact books.all.trans (isOrder.perm.map _)
  · rw [hids, hs]
    exact books.fragmentOrder
  · rw [hids, hs]
    exact books.skippedOrder
  · exact precedes_of_compile wf.distinct h ht
  · exact fun t ht i port hi name => input_eq_ok_iff_published wf ht hi
  · exact fun t ht i port hi cause => input_eq_error_iff_blamed wf ht hi

/-! All four cases: ports fed by a variable, by a port that its source left
alone, by a skipped node, and by nothing. -/

/-- Publishes on its first output port only. -/
def halfEmitter : Component where
  identity := "half"
  display := "Half"
  category := "Test"
  kind := .input
  variableBase := "v"
  imports _ := []
  generate _ := .bind (.publish 0) fun v => .done (.fragment v)

/-- Has nothing to do. -/
def idler : Component where
  identity := "idle"
  display := "Idle"
  category := "Test"
  kind := .input
  variableBase := "x"
  imports _ := []
  generate _ := .done (.skipped "nothing to do")

/-- Writes down what it is given, be it a variable or a reason. -/
def recorder : Component where
  identity := "record"
  display := "Record"
  category := "Test"
  kind := .output
  variableBase := "c"
  imports _ := []
  generate _ := .bind (.tryInput 0) fun
    | .ok v => .done (.fragment v)
    | .error (.incomplete source cause) => .done (.fragment (source ++ ": " ++ cause.reason))
    | .error _ => .done (.fragment "")

def crossing : Graph where
  nodes := [⟨"a", "record", .null, ["in"], []⟩, ⟨"b", "record", .null, ["in"], []⟩,
    ⟨"c", "record", .null, ["in"], []⟩, ⟨"d", "record", .null, ["in"], []⟩,
    ⟨"h", "half", .null, [], ["one", "two"]⟩, ⟨"i", "idle", .null, [], ["out"]⟩]
  edges := [⟨"h", "one", "a", "in"⟩, ⟨"h", "two", "b", "in"⟩, ⟨"i", "out", "c", "in"⟩]

theorem crossing_wellFormed : crossing.WellFormed where
  distinct := by decide
  source := by decide
  target := by decide
  single := by decide

theorem compile_wired_crossing :
    crossing.WellFormed ∧
      ∃ s, compile ⟨[halfEmitter, idler, recorder]⟩ none crossing = .ok s ∧
        s.fragments.map (fun f => (f.node, f.code)) =
          [("d", "d: input port 'in' is not connected"), ("h", "v1"), ("a", "v1"),
            ("b", "h: produced no value on output port 'two' (required by node 'b')"),
            ("c", "i: nothing to do (required by node 'c')")] ∧
        Wired ⟨[halfEmitter, idler, recorder]⟩ crossing s := by
  have h : (compile ⟨[halfEmitter, idler, recorder]⟩ none crossing).toOption =
      some ⟨none, [],
        [⟨"d", "record", "d: input port 'in' is not connected", []⟩,
          ⟨"h", "half", "v1", [some "v1", none]⟩, ⟨"a", "record", "v1", []⟩,
          ⟨"b", "record",
            "h: produced no value on output port 'two' (required by node 'b')", []⟩,
          ⟨"c", "record", "i: nothing to do (required by node 'c')", []⟩],
        [⟨"i", "nothing to do"⟩]⟩ := by decide +kernel
  have h := ok_of_toOption h
  exact ⟨crossing_wellFormed, _, h, rfl, compile_wired _ _ _ _ crossing_wellFormed h⟩

end PipelineScript
