/-
# A preview agrees with the script

`compileUntil` compiles the part of a graph upstream of a node.  If the whole
graph has a script, so has the part, and it is the script of the whole without
the nodes that are left out, up to the names of its variables (`Coincides`): a
node that is left out may have taken a suffix that is free in the part.

The proof follows the walk over the whole graph, with the walk over the part
beside it (`Shadow`).  A node that is left out moves only the first walk; a
node that is kept moves both, and is asked, skipped and emitted alike, since a
standard component does the same with all names.  The names that the two walks
hand out are paired up (`Matched`), and what is said about the walks is said
for every renaming that respects the pairs so far, so that it remains true when
pairs are added.
-/
import PipelineScript.Proofs.Compile.Closure
import PipelineScript.Proofs.Compile.Feeds
import PipelineScript.Proofs.Compile.Renaming

namespace PipelineScript

open Compile Catalog
open Text (render)

/-! ## What a standard component asks for -/

theorem Plan.run_needInputs_eq_ok_iff {site : Site} {p q : Progress} {count port : Nat}
    {vs : List String} :
    (needInputs port count).run site p = .ok (vs, q) ↔
      q = p ∧ (List.range' port count).map site.input = vs.map .ok := by
  refine ⟨run_needInputs, ?_⟩
  rintro ⟨rfl, h⟩
  induction count generalizing port vs with
  | zero =>
      obtain rfl : vs = [] := by simpa using h.symm
      rfl
  | succ count ih =>
      rw [List.range'_succ, List.map_cons] at h
      obtain ⟨v, vs, rfl, hv, hvs⟩ := List.map_eq_cons_iff.mp h.symm
      rw [needInputs_succ, run_bind, run_needInput_eq_ok_iff.mpr ⟨hv.symm, rfl⟩]
      show ((needInputs (port + 1) count).bind _).run site q = _
      rw [run_bind, ih hvs.symm]
      rfl

namespace Catalog.Builtin

variable {b : Builtin} {site : Site} {p q : Progress} {c : Cast}

/-- The bases of the names that the component asks for, in order. -/
def bases (b : Builtin) (base : String) : List String :=
  List.replicate b.component.outputs.length base ++ b.ownBases

/-- The bases of all names in scripts of the standard components. -/
def allBases : List String :=
  ["source", "filtered", "mapped", "merged", "engine"]

theorem bases_subset (b : Builtin) : b.bases b.component.variableBase ⊆ allBases := by
  cases b <;> decide

theorem allBases_apart : Apart allBases := by
  intro b hb c hc hne i j h
  have heads := congrArg (fun s : String => s.toList.take 2) h
  simp only [allBases, List.mem_cons, List.not_mem_nil, or_false] at hb hc
  rcases hb with rfl | rfl | rfl | rfl | rfl <;> rcases hc with rfl | rfl | rfl | rfl | rfl <;>
    simp at hne heads

theorem asks_answered (h : b.asks.run site p = .ok (c, q)) :
    (List.range' 0 b.component.inputs.length).map site.input = c.inputs.map .ok := by
  obtain ⟨inputs, p₁, hinputs, h⟩ := Plan.exists_of_run_bind_ok h
  obtain ⟨outputs, p₂, -, h⟩ := Plan.exists_of_run_bind_ok h
  obtain ⟨own, p₃, -, h⟩ := Plan.exists_of_run_bind_ok h
  cases h
  exact (Plan.run_needInputs hinputs).2

/-- The variables of a node with these inputs, and the names taken then. -/
def provide (b : Builtin) (base : String) (names : Names) (inputs : List String) : Cast × Names :=
  let (outputs, names) := names.allocateAll (List.replicate b.component.outputs.length base)
  let (own, names) := names.allocateAll b.ownBases
  (⟨inputs, outputs, own⟩, names)

/-- What a node has asked for when it has all its variables. -/
def provided (b : Builtin) (base : String) (names : Names) (inputs : List String) : Progress :=
  let (cast, names) := b.provide base names inputs
  ⟨names, cast.outputs.map some, cast.outputs ++ cast.own⟩

section Answered
variable {names : Names} {n : Node} (ports : n.outputs.length = b.component.outputs.length)
  {inputs : List String}
  (answered : (List.range' 0 b.component.inputs.length).map site.input = inputs.map .ok)
include ports answered

theorem run_asks :
    b.asks.run site (.start names n) =
      .ok ((b.provide site.base names inputs).1, b.provided site.base names inputs) := by
  have empty : (Progress.start names n).outputs =
      [] ++ List.replicate b.component.outputs.length none := by rw [← ports]; rfl
  rw [asks, Plan.run_bind, Plan.run_needInputs_eq_ok_iff.mpr ⟨rfl, answered⟩]
  show ((Plan.publishAll 0 _).bind _).run site _ = _
  rw [Plan.run_bind, show (0 : Nat) = ([] : List (Option String)).length from rfl,
    Plan.run_publishAll_eq site [] empty]
  show ((Plan.freshAll _).bind _).run site _ = _
  rw [Plan.run_bind, Plan.run_freshAll_eq]
  rfl

theorem affords_of_supplied (supplied : b.asks.Supplied site (.start names n)) :
    names.Affords (b.bases site.base) := by
  have empty : (Progress.start names n).outputs =
      [] ++ List.replicate b.component.outputs.length none := by rw [← ports]; rfl
  obtain ⟨-, later⟩ := Plan.Supplied.of_bind supplied
  obtain ⟨publish, later⟩ :=
    (later _ _ (Plan.run_needInputs_eq_ok_iff.mpr ⟨rfl, answered⟩)).of_bind
  obtain ⟨fresh, -⟩ := (later _ _ (Plan.run_publishAll_eq site [] empty)).of_bind
  exact Names.affords_append.mpr
    ⟨publish.affords_publishAll [] empty, fresh.affords_freshAll⟩

end Answered

theorem taken_subset_provide {names : Names} {base : String} (inputs : List String)
    (room : names.Affords (b.bases base)) :
    names.taken ⊆ (b.provide base names inputs).2.taken := by
  have := Names.taken_subset_allocateAll room
  rwa [bases, Names.allocateAll_append] at this

/-- Over matched tables a node gets the same variables, up to their names. -/
theorem provide_matched {pairs : Pairs} {names names' : Names}
    (h : Matched allBases pairs names names') (inputs : List String)
    (room : names.Affords (b.bases b.component.variableBase)) :
    ∃ more, Matched allBases (pairs ++ more)
        (b.provide b.component.variableBase names inputs).2
        (b.provide b.component.variableBase names' inputs).2 ∧
      ∀ ρ, Renames ρ (pairs ++ more) →
        (b.provide b.component.variableBase names' (inputs.map ρ)).1 =
          (b.provide b.component.variableBase names inputs).1.rename ρ := by
  obtain ⟨subOutputs, subOwn⟩ := List.append_subset.mp b.bases_subset
  obtain ⟨roomOutputs, roomOwn⟩ := Names.affords_append.mp room
  have outputs := h.allocateAll allBases_apart subOutputs roomOutputs
  have own := outputs.allocateAll allBases_apart subOwn roomOwn
  rw [List.append_assoc] at own
  refine ⟨_, own, fun ρ hρ => ?_⟩
  obtain ⟨renOutputs, renOwn⟩ := hρ.of_append.2.of_append
  have hOutputs := renOutputs.map_eq (by simp [Names.allocateAll_length])
  have hOwn := renOwn.map_eq (by simp [Names.allocateAll_length])
  simp [provide, Cast.rename, hOutputs, hOwn]

end Catalog.Builtin

/-! ## The two walks -/

namespace Compile

/-- The second fragment is the first one with other names. -/
structure Alike (ρ : String → String) (f f' : Fragment) : Prop where
  node : f'.node = f.node
  component : f'.component = f.component
  outputs : f'.outputs = f.outputs.map (Option.map ρ)
  code : ∃ (layout : Layout String) (cast : Cast),
    f.code = Text.trimEnd (render (layout.segments cast)) ∧
      f'.code = Text.trimEnd (render (layout.segments (cast.rename ρ)))

/-- The second walk has done with the nodes to keep what the first has done
with them, but for the names. -/
structure Shadow (keep : List String) (pairs : Pairs) (w w' : Walk) : Prop where
  names : Matched Builtin.allBases pairs w.names w'.names
  outcomes : ∀ ρ, Renames ρ pairs → ∀ id ∈ keep,
    w'.outcomes.lookup id = (w.outcomes.lookup id).map (Outcome.rename ρ)
  fragments : ∀ ρ, Renames ρ pairs →
    List.Forall₂ (Alike ρ) (w.fragments.filter fun f => keep.contains f.node) w'.fragments
  skipped : w'.skipped = w.skipped.filter fun x => keep.contains x.node

variable {g : Graph} {keep : List String} {pairs : Pairs} {w w' : Walk}
  {ρ : Equiv.Perm String}

theorem shadow_start (keep : List String) : Shadow keep [] {} {} where
  names := matched_start _ _
  outcomes _ _ _ _ := rfl
  fragments _ _ := .nil
  skipped := rfl

section Feeds
variable (wf : g.WellFormed) (closed : g.SourceClosed keep)

theorem feedOf_rename (e : Edge) (o : Option Outcome) :
    feedOf g e (o.map (Outcome.rename ρ)) = (feedOf g e o).rename ρ := by
  cases o with
  | none => rfl
  | some o =>
      cases o with
      | skipped reason => rfl
      | emitted outputs =>
          simp only [Option.map_some, Outcome.rename, feedOf]
          cases g.node? e.source with
          | none => rfl
          | some n =>
              cases hk : n.outputIndex? e.sourcePort with
              | none => simp [hk, Feed.rename]
              | some k =>
                  cases ho : outputs[k]? with
                  | none => simp [hk, ho, Feed.rename]
                  | some slot => cases slot <;> simp [hk, ho, Feed.rename]

include wf closed

/-- The same feeds a node that is kept, but for the name. -/
theorem Shadow.feedAt (h : Shadow keep pairs w w') (hρ : Renames ρ pairs) {n : Node}
    (hkeep : n.id ∈ keep) (port : String) :
    feedAt (g.cut keep) w'.outcomes n.id port = (feedAt g w.outcomes n.id port).rename ρ := by
  rw [sameFeeds_cut wf.distinct closed hkeep, Compile.feedAt, Compile.feedAt]
  cases hf : (g.incoming n.id).find? (·.targetPort == port) with
  | none => rfl
  | some e =>
      have he := Graph.mem_of_mem_incoming (List.mem_of_find?_eq_some hf)
      have hs : e.source ∈ keep := closed e he.1 (he.2 ▸ hkeep)
      show feedOf g e _ = (feedOf g e _).rename ρ
      rw [h.outcomes ρ hρ _ hs, feedOf_rename]

theorem Shadow.input {t : Stage} (h : Shadow keep pairs t.walk w') (hρ : Renames ρ pairs)
    (hkeep : t.node.id ∈ keep) (i : Nat) :
    (Stage.site ⟨w', t.node, t.component⟩ (g.cut keep)).input i =
      ((t.site g).input i).map ρ := by
  let t' : Stage := ⟨w', t.node, t.component⟩
  have feeds : (t'.site (g.cut keep)).feeds = (t.site g).feeds.map (Feed.rename ρ) := by
    show t.node.inputs.map _ = (t.node.inputs.map _).map _
    rw [List.map_map]
    exact List.map_congr_left fun port _ => h.feedAt wf closed hρ hkeep port
  exact Site.input_rename (t.site g) (t'.site (g.cut keep)) rfl feeds i

end Feeds

/-! ## One node in both walks -/

section Node
variable {n : Node} {b : Builtin} {inputs : List String} {layout : Layout String}
  {code : String} {reason : String} {p : Progress}

theorem answered_of_fragment
    (hr : Stage.result ⟨w, n, b.component⟩ g = .ok (.fragment code, p)) :
    ∃ (layout : Layout String) (inputs : List String), b.verdict n.config = .ready layout ∧
      (List.range' 0 b.component.inputs.length).map (Stage.site ⟨w, n, b.component⟩ g).input =
        inputs.map .ok := by
  obtain ⟨layout, cast, hv, hasks, -⟩ := Builtin.of_run_fragment hr
  exact ⟨layout, cast.inputs, hv, Builtin.asks_answered hasks⟩

section Ready
variable (ports : n.outputs.length = b.component.outputs.length)
  (ready : b.verdict n.config = .ready layout)
  (answered : (List.range' 0 b.component.inputs.length).map
    (Stage.site ⟨w, n, b.component⟩ g).input = inputs.map .ok)
include ports ready answered

theorem result_of_ready :
    Stage.result ⟨w, n, b.component⟩ g =
      .ok (.fragment
          (render (layout.segments (b.provide b.component.variableBase w.names inputs).1)),
        b.provided b.component.variableBase w.names inputs) := by
  show (b.component.generate n.config).run (Stage.site ⟨w, n, b.component⟩ g) _ = _
  rw [Builtin.run_generate, ready]
  show (b.asks.run _ (.start w.names n)).map _ = _
  rw [Builtin.run_asks ports answered]
  rfl

theorem affords_of_ready (supplied : Stage.Supplied g ⟨w, n, b.component⟩) :
    w.names.Affords (b.bases b.component.variableBase) := by
  have hplan : (b.component.generate n.config).Supplied (Stage.site ⟨w, n, b.component⟩ g)
      (.start w.names n) := supplied
  rw [Builtin.generate_eq, ready] at hplan
  exact Builtin.affords_of_supplied ports answered (Plan.Supplied.of_bind hplan).1

end Ready

variable {c : Component} {generated : Generated}

/-- A node that is left out moves only the first walk. -/
theorem Shadow.leave (h : Shadow keep pairs w w') (out : n.id ∉ keep)
    (sub : w.names.taken ⊆ (w.record c n generated p).names.taken) :
    Shadow keep pairs (w.record c n generated p) w' := by
  have other : ∀ id ∈ keep, id ≠ n.id := fun id hid he => out (he ▸ hid)
  cases generated with
  | fragment code =>
      refine ⟨h.names.mono sub, fun ρ hρ id hid => ?_, fun ρ hρ => ?_, h.skipped⟩
      · rw [h.outcomes ρ hρ id hid]
        rw [Walk.record, lookup_cons_of_ne (other id hid)]
      · have := h.fragments ρ hρ
        simpa [Walk.record, List.filter_append, out] using this
  | skipped reason =>
      refine ⟨h.names.mono sub, fun ρ hρ id hid => ?_, h.fragments, ?_⟩
      · rw [h.outcomes ρ hρ id hid]
        rw [Walk.record, lookup_cons_of_ne (other id hid)]
      · simpa [Walk.record, List.filter_append, out] using h.skipped

theorem Shadow.skip (h : Shadow keep pairs w w') (kept : n.id ∈ keep) :
    Shadow keep pairs (w.record c n (.skipped reason) (.start w.names n))
      (w'.record c n (.skipped reason) (.start w'.names n)) where
  names := h.names
  outcomes ρ hρ id hid := by
    by_cases he : id = n.id
    · simp [Walk.record, he, Outcome.rename]
    · rw [Walk.record, Walk.record, lookup_cons_of_ne he, lookup_cons_of_ne he]
      exact h.outcomes ρ hρ id hid
  fragments := h.fragments
  skipped := by simp [Walk.record, List.filter_append, kept, h.skipped]

theorem Shadow.emit {more : Pairs} {p' : Progress} {code' : String}
    (h : Shadow keep pairs w w') (kept : n.id ∈ keep)
    (names : Matched Builtin.allBases (pairs ++ more) p.names p'.names)
    (alike : ∀ ρ, Renames ρ (pairs ++ more) →
      Alike ρ ⟨n.id, n.component, Text.trimEnd code, p.outputs⟩
        ⟨n.id, n.component, Text.trimEnd code', p'.outputs⟩) :
    Shadow keep (pairs ++ more) (w.record c n (.fragment code) p)
      (w'.record c n (.fragment code') p') where
  names := names
  outcomes ρ hρ id hid := by
    have outputs : p'.outputs = p.outputs.map (Option.map ρ) := (alike ρ hρ).outputs
    by_cases he : id = n.id
    · simp [Walk.record, he, Outcome.rename, outputs]
    · rw [Walk.record, Walk.record, lookup_cons_of_ne he, lookup_cons_of_ne he]
      exact h.outcomes ρ hρ.of_append.1 id hid
  fragments ρ hρ := by
    have old := h.fragments ρ hρ.of_append.1
    have new := List.rel_append old (List.Forall₂.cons (alike ρ hρ) .nil)
    simpa [Walk.record, List.filter_append, kept] using new
  skipped := h.skipped

end Node

section Visit
variable (wf : g.WellFormed) (declared : g.Declared Registry.standard)
  (closed : g.SourceClosed keep) {t : Stage} (ht : t ∈ stages Registry.standard g)
  (supplied : t.Supplied g) {generated : Generated} {p : Progress}
  (hr : t.result g = .ok (generated, p))
include declared ht supplied hr

theorem taken_subset_next : t.walk.names.taken ⊆ (t.next generated p).names.taken := by
  obtain ⟨hn, hc⟩ := component_of_mem_stages ht
  have ports := (declared _ hn _ hc).2
  obtain ⟨w, n, c⟩ := t
  obtain ⟨b, rfl⟩ := Builtin.exists_of_find_standard hc
  have ports : n.outputs.length = b.component.outputs.length := congrArg List.length ports
  cases generated with
  | skipped reason =>
      obtain ⟨-, rfl⟩ := Builtin.of_run_skipped hr
      exact List.Subset.refl _
  | fragment code =>
      obtain ⟨layout, inputs, ready, answered⟩ := answered_of_fragment hr
      have room := affords_of_ready ports ready answered supplied
      cases hr.symm.trans (result_of_ready ports ready answered)
      exact Builtin.taken_subset_provide inputs room

include wf closed

/-- A node that is kept can be visited in the second walk as well. -/
theorem Shadow.visit (h : Shadow keep pairs t.walk w') (kept : t.node.id ∈ keep) :
    ∃ v' more, w'.visit Registry.standard (g.cut keep) t.node = .ok v' ∧
      Shadow keep (pairs ++ more) (t.next generated p) v' := by
  obtain ⟨hn, hc⟩ := component_of_mem_stages ht
  have ports := (declared _ hn _ hc).2
  have input := fun ρ (hρ : Renames ρ pairs) => h.input wf closed hρ kept
  obtain ⟨w, n, c⟩ := t
  obtain ⟨b, rfl⟩ := Builtin.exists_of_find_standard hc
  have ports : n.outputs.length = b.component.outputs.length := congrArg List.length ports
  cases generated with
  | skipped reason =>
      obtain ⟨idle, rfl⟩ := Builtin.of_run_skipped hr
      have hr' : Stage.result ⟨w', n, b.component⟩ (g.cut keep) =
          .ok (.skipped reason, .start w'.names n) := by
        show (b.component.generate n.config).run _ _ = _
        rw [Builtin.run_generate, idle]
        rfl
      refine ⟨_, [], visit_eq_ok_iff.mpr ⟨_, _, _, hc, hr', rfl⟩, ?_⟩
      rw [List.append_nil]
      exact h.skip kept
  | fragment code =>
      obtain ⟨layout, inputs, ready, answered⟩ := answered_of_fragment hr
      have room := affords_of_ready ports ready answered supplied
      cases hr.symm.trans (result_of_ready ports ready answered)
      -- the names that are there already can be renamed, so the inputs are answered
      have answered' : ∀ ρ, Renames ρ pairs → (List.range' 0 b.component.inputs.length).map
          (Stage.site ⟨w', n, b.component⟩ (g.cut keep)).input = (inputs.map ρ).map .ok := by
        intro ρ hρ
        have renamed : (Stage.site ⟨w', n, b.component⟩ (g.cut keep)).input =
            Except.map ρ ∘ (Stage.site ⟨w, n, b.component⟩ g).input := funext (input ρ hρ)
        rw [renamed, ← List.map_map, answered, List.map_map, List.map_map]
        rfl
      obtain ⟨ρ₀, hρ₀⟩ := h.names.exists_renaming
      have hr' := result_of_ready ports ready (answered' ρ₀ hρ₀)
      obtain ⟨more, names, provide⟩ := Builtin.provide_matched h.names inputs room
      refine ⟨_, more, visit_eq_ok_iff.mpr ⟨_, _, _, hc, hr', rfl⟩, h.emit kept names ?_⟩
      intro ρ hρ
      have same : inputs.map ρ₀ = inputs.map ρ := by
        have := (answered' ρ₀ hρ₀).symm.trans (answered' ρ hρ.of_append.1)
        exact List.map_injective_iff.mpr (fun _ _ h => Except.ok.inj h) this
      have cast := provide ρ hρ
      refine ⟨rfl, rfl, ?_, layout, _, rfl, ?_⟩
      · simp [Builtin.provided, same, cast, Cast.rename]
      · simp only [same, cast]

end Visit

/-! ## All nodes -/

/-- Which of the nodes are kept. -/
def kept (keep : List String) (ns : List Node) : List Node :=
  ns.filter fun n => keep.contains n.id

/-- Each stage of a node that is kept has a stage of the part beside it, with the
same inputs but for their names. -/
def AnsweredAlike (g : Graph) (keep : List String) (ρ : String → String) (ts ts' : List Stage) :
    Prop :=
  ∀ t ∈ ts, t.node.id ∈ keep → ∃ t' ∈ ts', t'.node = t.node ∧
    ∀ i, (t'.site (g.cut keep)).input i = ((t.site g).input i).map ρ

/-- The walk over the part gets as far as the one over the whole. -/
def Beside (g : Graph) (keep : List String) (before : List Stage) (w : Walk) : Prop :=
  ∃ pairs w', Walk.visitAll Registry.standard (g.cut keep) {} (kept keep (before.map (·.node))) =
      .ok w' ∧ Shadow keep pairs w w' ∧
    ∀ ρ, Renames ρ pairs → AnsweredAlike g keep ρ before
      (Walk.stages Registry.standard (g.cut keep) {} (kept keep (before.map (·.node))))

theorem beside_start (g : Graph) (keep : List String) : Beside g keep [] {} :=
  ⟨[], {}, rfl, shadow_start keep, fun _ _ _ ht => absurd ht List.not_mem_nil⟩

section Run
variable (wf : g.WellFormed) (declared : g.Declared Registry.standard)
  (closed : g.SourceClosed keep)
include wf declared closed

theorem Beside.next {before : List Stage} {t : Stage} {generated : Generated} {p : Progress}
    (h : Beside g keep before t.walk) (ht : t ∈ stages Registry.standard g)
    (supplied : t.Supplied g) (hr : t.result g = .ok (generated, p)) :
    Beside g keep (before ++ [t]) (t.next generated p) := by
  obtain ⟨pairs, w', hvisit, shadow, alike⟩ := h
  obtain ⟨hn, hc⟩ := component_of_mem_stages ht
  by_cases hkeep : t.node.id ∈ keep
  · obtain ⟨v', more, hv, shadow'⟩ := shadow.visit wf declared closed ht supplied hr hkeep
    have nodes : kept keep ((before ++ [t]).map (·.node)) =
        kept keep (before.map (·.node)) ++ [t.node] := by simp [kept, hkeep]
    have hlast : Walk.visitAll Registry.standard (g.cut keep) w' [t.node] = .ok v' := by
      simp [Walk.visitAll, hv]
    refine ⟨_, v', ?_, shadow', fun ρ hρ u hu hukeep => ?_⟩
    · rw [nodes]
      exact visitAll_append.mpr ⟨w', hvisit, hlast⟩
    · rw [nodes, stages_append hvisit]
      rcases List.mem_append.mp hu with hu | hu
      · obtain ⟨u', hu', same⟩ := alike ρ hρ.of_append.1 u hu hukeep
        exact ⟨u', List.mem_append_left _ hu', same⟩
      · obtain rfl := List.mem_singleton.mp hu
        refine ⟨⟨w', u.node, u.component⟩, List.mem_append_right _ ?_, rfl,
          shadow.input wf closed hρ.of_append.1 hkeep⟩
        rw [Walk.stages, hc]
        exact List.mem_cons_self
  · have nodes : kept keep ((before ++ [t]).map (·.node)) =
        kept keep (before.map (·.node)) := by simp [kept, hkeep]
    have sub := taken_subset_next declared ht supplied hr
    refine ⟨pairs, w', nodes ▸ hvisit, shadow.leave hkeep sub, fun ρ hρ u hu hukeep => ?_⟩
    rw [nodes]
    rcases List.mem_append.mp hu with hu | hu
    · exact alike ρ hρ u hu hukeep
    · obtain rfl := List.mem_singleton.mp hu
      exact absurd hukeep hkeep

theorem beside_of_visitAll (supplied : ∀ t ∈ stages Registry.standard g, t.Supplied g)
    {order : List Node} {w : Walk} (ho : g.order = .ok order)
    (h : Walk.visitAll Registry.standard g {} order = .ok w) :
    Beside g keep (stages Registry.standard g) w := by
  rw [stages_of_order ho] at supplied ⊢
  refine visitAll_induction h (beside_start g keep) fun before t _ _ ht hp hr => ?_
  exact hp.next wf declared closed (stages_of_order ho ▸ ht) (supplied t ht) hr

end Run

end Compile

/-- The second script is the first one without the nodes that are left out, but
for the names of its variables. -/
structure Coincides (g : Graph) (keep : List String) (ρ : Equiv.Perm String) (s s' : Script) :
    Prop where
  header : s'.header = s.header
  /-- The same nodes in the same order, with the same code up to names. -/
  fragments :
    List.Forall₂ (Alike ρ) (s.fragments.filter fun f => keep.contains f.node) s'.fragments
  skipped : s'.skipped = s.skipped.filter fun x => keep.contains x.node
  /-- Each node is fed with the same variables, or the same node is blamed. -/
  inputs : AnsweredAlike g keep ρ (stages Registry.standard g)
    (stages Registry.standard (g.cut keep))

/-- **A preview agrees with the script.**  If the standard components make a
script of a graph, they make one of all that a node depends on: that of the
whole graph, without the nodes that are no ancestors, under a renaming of
variables. -/
theorem compile_until_agrees (header : Option String) (g : Graph) (id : String) (s : Script)
    (wf : g.WellFormed) (declared : g.Declared Registry.standard) (hid : id ∈ g.ids)
    (h : compile Registry.standard header g = .ok s)
    (supplied : ∀ t ∈ stages Registry.standard g, t.Supplied g) :
    ∃ keep, (∀ other, other ∈ keep ↔ Relation.TransGen g.Flows other id) ∧
      ∃ s' ρ, compileUntil Registry.standard header g id = .ok s' ∧ Coincides g keep ρ s s' := by
  obtain ⟨order, w, ho, hv, rfl⟩ := compile_eq_ok_iff.mp h
  obtain ⟨arcs, harcs⟩ := Graph.exists_arcs wf.joins
  have acyclic := (Graph.exists_order_iff harcs).mp ⟨order, ho⟩
  obtain ⟨keep, hkeep, mem⟩ := Graph.exists_ancestors wf.joins acyclic hid
  have closed := Graph.sourceClosed_of_flows mem
  have part := Graph.order_cut wf closed ho
  obtain ⟨pairs, w', hv', shadow, alike⟩ := beside_of_visitAll wf declared closed supplied ho hv
  obtain ⟨ρ, hρ⟩ := shadow.names.exists_renaming
  have nodes : (stages Registry.standard g).map (·.node) = order :=
    stages_of_order ho ▸ stages_nodes hv
  have hstages : stages Registry.standard (g.cut keep) =
      Walk.stages Registry.standard (g.cut keep) {} (kept keep order) := stages_of_order part
  rw [nodes] at hv' alike
  refine ⟨keep, mem, ⟨header, w'.imports.statements, w'.fragments, w'.skipped⟩, ρ, ?_,
    rfl, shadow.fragments ρ hρ, shadow.skipped, ?_⟩
  · rw [compileUntil, Graph.upstream?_eq, hkeep]
    exact compile_eq_ok_iff.mpr ⟨_, w', part, hv', rfl⟩
  · rw [hstages]
    exact alike ρ hρ

/-! The second of two sources, filtered, and then a filter that has nothing to
do: the source is called `source2` in the script, and `source1` in the preview
at the writer. -/

def twoSources : Graph where
  nodes := [⟨"a", "csvFileInput", .obj [("filePath", .str "a.csv")], [], ["out"]⟩,
    ⟨"b", "csvFileInput", .obj [("filePath", .str "b.csv")], [], ["out"]⟩,
    ⟨"f", "filterRows", .obj [("condition", .str "x > 1")], ["in"], ["out"]⟩,
    ⟨"i", "filterRows", .null, ["in"], ["out"]⟩, ⟨"w", "csvFileOutput", .null, ["in"], []⟩]
  edges := [⟨"b", "out", "f", "in"⟩, ⟨"f", "out", "i", "in"⟩, ⟨"i", "out", "w", "in"⟩]

theorem twoSources_wellFormed : twoSources.WellFormed where
  distinct := by decide
  source := by decide
  target := by decide
  single := by decide

theorem twoSources_declared : twoSources.Declared Registry.standard := by
  intro n hn c hc
  simp only [twoSources, List.mem_cons, List.not_mem_nil, or_false] at hn
  rcases hn with rfl | rfl | rfl | rfl | rfl <;> cases hc <;> exact ⟨rfl, rfl⟩

theorem compile_until_agrees_twoSources :
    twoSources.WellFormed ∧ twoSources.Declared Registry.standard ∧ "w" ∈ twoSources.ids ∧
      (∀ t ∈ stages Registry.standard twoSources, t.Supplied twoSources) ∧
      ∃ s, compile Registry.standard none twoSources = .ok s ∧
        s.fragments.map (·.code) =
          ["source1 = pd.read_csv(\"a.csv\", sep=\",\")",
            "source2 = pd.read_csv(\"b.csv\", sep=\",\")",
            "filtered1 = source2.query(\"x > 1\")"] ∧
        ∃ keep, (∀ other, other ∈ keep ↔ Relation.TransGen twoSources.Flows other "w") ∧
          ∃ s' ρ, compileUntil Registry.standard none twoSources "w" = .ok s' ∧
            Coincides twoSources keep ρ s s' := by
  have hid : "w" ∈ twoSources.ids := by decide
  have tables : ∀ names ∈ nameTables Registry.standard twoSources,
      names.size < Names.suffixLimit := by decide +kernel
  have supplied := supplied_of_tables tables
  have h : (compile Registry.standard none twoSources).toOption =
      some ⟨none, ["import pandas as pd"],
        [⟨"a", "csvFileInput", "source1 = pd.read_csv(\"a.csv\", sep=\",\")", [some "source1"]⟩,
          ⟨"b", "csvFileInput", "source2 = pd.read_csv(\"b.csv\", sep=\",\")", [some "source2"]⟩,
          ⟨"f", "filterRows", "filtered1 = source2.query(\"x > 1\")", [some "filtered1"]⟩],
        [⟨"i", "no filter condition"⟩, ⟨"w", "no output file path"⟩]⟩ := by decide +kernel
  have h := ok_of_toOption h
  exact ⟨twoSources_wellFormed, twoSources_declared, hid, supplied, _, h, rfl,
    compile_until_agrees _ _ _ _ twoSources_wellFormed twoSources_declared hid h supplied⟩

example :
    (compileUntil Registry.standard none twoSources "w").toOption =
      some ⟨none, ["import pandas as pd"],
        [⟨"b", "csvFileInput", "source1 = pd.read_csv(\"b.csv\", sep=\",\")", [some "source1"]⟩,
          ⟨"f", "filterRows", "filtered1 = source1.query(\"x > 1\")", [some "filtered1"]⟩],
        [⟨"i", "no filter condition"⟩]⟩ := by
  decide +kernel

end PipelineScript
