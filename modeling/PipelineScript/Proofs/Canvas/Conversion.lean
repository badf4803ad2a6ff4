/-
# What can go wrong with a drawing

A drawing is converted node by node, then edge by edge.  `Refusal` lists the
reasons for which that stops, and there is a pipeline exactly if there is no
such reason (`exists_toGraph_iff`).  An edge is refused for a handle that
means no port, or for a node that is not there; it never gets as far as a port
that is missing, because a handle is resolved to a port that the node has
(`portOf_mem`).

A graph that comes of a drawing is well-formed, and its nodes have the ports of
their components (`Graph.Typed`).  So the compiler finds all that it relies on,
and of its failures three are left (`CompileFault`).
-/
import PipelineScript.Canvas.Conversion
import PipelineScript.Proofs.Compile.Closure
import PipelineScript.Proofs.Graph.Editing

namespace PipelineScript

/-- Every node is of a registered type, and has the ports of its component. -/
def Graph.Typed (g : Graph) (r : Registry) : Prop :=
  ∀ n ∈ g.nodes, ∃ c, r.find? n.component = some c ∧ n.inputs = c.inputs ∧ n.outputs = c.outputs

theorem Graph.Typed.declared {g : Graph} {r : Registry} (typed : g.Typed r) : g.Declared r := by
  intro n hn c hc
  obtain ⟨c', hc', ports⟩ := typed n hn
  cases hc.symm.trans hc'
  exact ports

end PipelineScript

namespace PipelineScript.Canvas

open Catalog

/-! ## Faults of a drawing -/

/-- An end of an edge: a side of a node, and the handle there. -/
structure End where
  id : String
  side : Side
  handle : Option String

def CanvasEdge.ends (e : CanvasEdge) : List End :=
  [⟨e.source, .output, e.sourceHandle⟩, ⟨e.target, .input, e.targetHandle⟩]

namespace End

/-- What the handle says. -/
def text (x : End) : String :=
  Text.trim (x.handle.getD "")

/-- The node is there, but none of its ports answers to the handle.  An empty
handle means the first port; any other one names a port or counts them. -/
def Bad (g : Graph) (x : End) : Prop :=
  ∃ n, g.node? x.id = some n ∧
    if x.text = "" then n.ports x.side = []
    else x.text ∉ n.ports x.side ∧
      ∀ i, Text.ordinalOfText? (indexPart x.text) = some i → (n.ports x.side).length ≤ i.toNat

/-- The handle as it is reported. -/
def reported (x : End) : String :=
  if x.text = "" then "<none>" else x.text

end End

/-- Why an edge cannot be drawn. -/
inductive EdgeFault (g : Graph) (e : CanvasEdge) : ConversionError → Prop where
  | handle {x : End} (mem : x ∈ e.ends) (bad : x.Bad g) :
      EdgeFault g e (.unknownHandle e.label x.id x.reported)
  | node {x : End} (mem : x ∈ e.ends) (good : ∀ y ∈ e.ends, ¬y.Bad g) (missing : x.id ∉ g.ids) :
      EdgeFault g e (.graph (.missingNode x.id))

/-- Why a drawing is refused. -/
inductive Refusal (d : Document) (r : Registry) : ConversionError → Prop where
  | unknownType {n : CanvasNode} (mem : n ∈ d.nodes) (unknown : r.find? n.type = none) :
      Refusal d r (.graph (.registry (.unknown n.type)))
  | duplicate {before after : List CanvasNode} {n : CanvasNode}
      (split : d.nodes = before ++ n :: after) (again : n.id ∈ before.map (·.id)) :
      Refusal d r (.graph (.duplicateNode n.id))
  /-- An edge that cannot be drawn into what has been drawn before. -/
  | edge {before after : List CanvasEdge} {e : CanvasEdge} {g : Graph} {cause : ConversionError}
      (split : d.edges = before ++ e :: after)
      (drawn : ({ d with edges := before } : Document).toGraph r = .ok g)
      (fault : EdgeFault g e cause) : Refusal d r cause

/-- Why a graph of standard components that comes of a drawing has no
script. -/
inductive CompileFault (g : Graph) : CompileError → Prop where
  | cycle {ids : List String} {id : String} (circle : Relation.TransGen g.Flows id id) :
      CompileFault g (.noOrder (.cycle ids))
  | incomplete {id : String} {cause : Shortfall} (fault : AtFault g id cause) :
      CompileFault g (.incomplete id cause)
  /-- The configuration itself is to blame: the verdict depends on nothing
  else. -/
  | invalid {n : Node} {b : Builtin} {cause : Flaw} (node : n ∈ g.nodes)
      (type : Registry.standard.find? n.component = some b.component) (own : cause.AboutConfig)
      (verdict : b.verdict n.config = .rejected cause own) :
      CompileFault g (.invalid n.id cause)

/-! ## Folds that may fail -/

theorem exists_of_bind_eq_ok {α β ε : Type} {x : Except ε α} {f : α → Except ε β} {b : β}
    (h : (x >>= f) = .ok b) : ∃ a, x = .ok a ∧ f a = .ok b := by
  cases x with
  | error e => cases h
  | ok a => exact ⟨a, rfl, h⟩

section Fold
variable {α β ε : Type} {f : β → α → Except ε β}

theorem foldlM_split {before after : List α} {x : α} {b c : β}
    (h : (before ++ x :: after).foldlM f b = .ok c) :
    ∃ s t, before.foldlM f b = .ok s ∧ f s x = .ok t ∧ after.foldlM f t = .ok c := by
  rw [List.foldlM_append] at h
  obtain ⟨s, hs, h⟩ := exists_of_bind_eq_ok h
  rw [List.foldlM_cons] at h
  obtain ⟨t, ht, h⟩ := exists_of_bind_eq_ok h
  exact ⟨s, t, hs, ht, h⟩

theorem foldlM_eq_error {e : ε} : ∀ {xs : List α} {b : β}, xs.foldlM f b = .error e →
    ∃ before x after s, xs = before ++ x :: after ∧ before.foldlM f b = .ok s ∧
      f s x = .error e := by
  intro xs
  induction xs with
  | nil =>
      intro b h
      cases h
  | cons x rest ih =>
      intro b h
      rw [List.foldlM_cons] at h
      cases hx : f b x with
      | error e' =>
          rw [hx] at h
          cases h
          exact ⟨[], x, rest, b, rfl, rfl, hx⟩
      | ok s =>
          rw [hx] at h
          obtain ⟨before, y, after, t, rfl, ht, hy⟩ := ih h
          exact ⟨x :: before, y, after, t, rfl, by rw [List.foldlM_cons, hx]; exact ht, hy⟩

theorem foldlM_invariant {P : β → Prop} (step : ∀ {s x t}, P s → f s x = .ok t → P t) :
    ∀ {xs : List α} {b c : β}, P b → xs.foldlM f b = .ok c → P c := by
  intro xs
  induction xs with
  | nil =>
      intro b c hb h
      cases h
      exact hb
  | cons x rest ih =>
      intro b c hb h
      rw [List.foldlM_cons] at h
      obtain ⟨s, hs, h⟩ := exists_of_bind_eq_ok h
      exact ih (step hb hs) h

end Fold

/-! ## Handles -/

theorem portOf_mem {ports : List String} {handle port : String}
    (h : portOf ports handle = .ok port) : port ∈ ports := by
  unfold portOf at h
  split at h
  · cases ports with
    | nil => cases h
    | cons first rest =>
        cases h
        exact List.mem_cons_self
  · split at h
    · next known =>
      cases h
      simpa using known
    · split at h
      · next indexed =>
        cases h
        obtain ⟨i, -, hi⟩ := Option.bind_eq_some_iff.mp indexed
        exact List.mem_of_getElem? hi
      · cases h

theorem portOf_eq_error_iff {ports : List String} {handle cause : String} :
    portOf ports handle = .error cause ↔
      (if handle = "" then ports = []
        else handle ∉ ports ∧
          ∀ i, Text.ordinalOfText? (indexPart handle) = some i → ports.length ≤ i.toNat) ∧
      (if handle = "" then "<none>" else handle) = cause := by
  unfold portOf
  by_cases empty : handle = ""
  · cases ports <;> simp [empty]
  by_cases known : handle ∈ ports
  · simp [empty, known]
  -- what is left is an index, or no index
  cases hi : Text.ordinalOfText? (indexPart handle) with
  | none => simp [empty, known]
  | some i =>
      cases hport : ports[i.toNat]? with
      | none =>
          have := List.getElem?_eq_none_iff.mp hport
          simp [empty, known, this]
      | some port =>
          obtain ⟨hlt, -⟩ := List.getElem?_eq_some_iff.mp hport
          simp [empty, known, hlt]

/-- The port that an end of an edge means. -/
def End.resolve (g : Graph) (x : End) : Except String String :=
  resolveHandle g x.id x.side x.handle

section Handle
variable {g : Graph} {x : End}

theorem resolve_eq_error_iff {cause : String} :
    x.resolve g = .error cause ↔ x.Bad g ∧ x.reported = cause := by
  rw [End.resolve, resolveHandle, End.Bad, End.reported]
  cases g.node? x.id with
  | none => simp
  | some n =>
      rw [show Text.trim (x.handle.getD "") = x.text from rfl]
      simp [portOf_eq_error_iff]

theorem exists_resolve_iff : (∃ port, x.resolve g = .ok port) ↔ ¬x.Bad g := by
  constructor
  · rintro ⟨port, h⟩ bad
    cases h.symm.trans (resolve_eq_error_iff.mpr ⟨bad, rfl⟩)
  · intro good
    cases h : x.resolve g with
    | ok port => exact ⟨port, rfl⟩
    | error cause => exact absurd (resolve_eq_error_iff.mp h).1 good

theorem hasPort_of_resolve {port : String} (h : x.resolve g = .ok port) (there : x.id ∈ g.ids) :
    g.HasPort x.id x.side port := by
  obtain ⟨n, hn⟩ := Option.isSome_iff_exists.mp (Graph.node?_isSome_iff.mpr there)
  rw [End.resolve, resolveHandle, hn] at h
  exact ⟨n, hn, portOf_mem h⟩

end Handle

/-! ## Edges -/

section Edge
variable {g g' : Graph} {e : CanvasEdge}

theorem forall_ends {P : End → Prop} :
    (∀ x ∈ e.ends, P x) ↔
      P ⟨e.source, .output, e.sourceHandle⟩ ∧ P ⟨e.target, .input, e.targetHandle⟩ := by
  simp [CanvasEdge.ends]

theorem edited_eq_ok_iff {α : Type} {m : Editing α} :
    edited g m = .ok g' ↔ ∃ a, m.run g = .ok a g' := by
  cases h : m.run g <;> simp [edited, h]

/-- An edge with a bad handle is refused for it; any other one is drawn
between the ports that its handles mean, if the nodes are there. -/
theorem addEdge_cases (g : Graph) (e : CanvasEdge) :
    (∃ x ∈ e.ends, x.Bad g ∧ addEdge g e = .error (.unknownHandle e.label x.id x.reported)) ∨
      (∀ x ∈ e.ends, ¬x.Bad g) ∧ ∃ sourcePort targetPort,
        End.resolve g ⟨e.source, .output, e.sourceHandle⟩ = .ok sourcePort ∧
        End.resolve g ⟨e.target, .input, e.targetHandle⟩ = .ok targetPort ∧
        addEdge g e = edited g (Graph.connect e.source sourcePort e.target targetPort) := by
  have hsource : ⟨e.source, .output, e.sourceHandle⟩ ∈ e.ends := List.mem_cons_self
  have htarget : ⟨e.target, .input, e.targetHandle⟩ ∈ e.ends :=
    List.mem_cons_of_mem _ List.mem_cons_self
  rw [addEdge]
  cases hs : End.resolve g ⟨e.source, .output, e.sourceHandle⟩ with
  | error reported =>
      obtain ⟨bad, rfl⟩ := resolve_eq_error_iff.mp hs
      rw [End.resolve] at hs
      exact Or.inl ⟨_, hsource, bad, by simp only [hs]⟩
  | ok sourcePort =>
    cases ht : End.resolve g ⟨e.target, .input, e.targetHandle⟩ with
    | error reported =>
        obtain ⟨bad, rfl⟩ := resolve_eq_error_iff.mp ht
        rw [End.resolve] at hs ht
        exact Or.inl ⟨_, htarget, bad, by simp only [hs, ht]⟩
    | ok targetPort =>
        have good : ∀ x ∈ e.ends, ¬x.Bad g :=
          forall_ends.mpr ⟨exists_resolve_iff.mp ⟨_, hs⟩, exists_resolve_iff.mp ⟨_, ht⟩⟩
        refine Or.inr ⟨good, sourcePort, targetPort, rfl, rfl, ?_⟩
        rw [End.resolve] at hs ht
        simp only [hs, ht]

theorem addEdge_eq_error {cause : ConversionError} (h : addEdge g e = .error cause) :
    EdgeFault g e cause := by
  rcases addEdge_cases g e with
    ⟨x, mem, bad, hx⟩ | ⟨good, sourcePort, targetPort, hs, ht, hconnect⟩
  · cases hx.symm.trans h
    exact .handle mem bad
  rw [hconnect] at h
  by_cases source : e.source ∈ g.ids
  · have hsource := hasPort_of_resolve hs source
    by_cases target : e.target ∈ g.ids
    · have htarget := hasPort_of_resolve ht target
      rw [edited, Graph.connect_eq_ok_iff.mpr ⟨hsource, htarget, rfl⟩] at h
      cases h
    · rw [edited, Graph.connect_of_missing_target hsource target] at h
      cases h
      exact .node (List.mem_cons_of_mem _ List.mem_cons_self) good target
  · rw [edited, Graph.connect_of_missing_source source] at h
    cases h
    exact .node List.mem_cons_self good source

theorem connect_of_addEdge (h : addEdge g e = .ok g') :
    (∀ x ∈ e.ends, ¬x.Bad g) ∧ ∃ sourcePort targetPort,
      End.resolve g ⟨e.source, .output, e.sourceHandle⟩ = .ok sourcePort ∧
      End.resolve g ⟨e.target, .input, e.targetHandle⟩ = .ok targetPort ∧
      (Graph.connect e.source sourcePort e.target targetPort).run g = .ok () g' := by
  rcases addEdge_cases g e with
    ⟨x, -, -, hx⟩ | ⟨good, sourcePort, targetPort, hs, ht, hconnect⟩
  · cases hx.symm.trans h
  rw [hconnect, edited_eq_ok_iff] at h
  obtain ⟨⟨⟩, hc⟩ := h
  exact ⟨good, sourcePort, targetPort, hs, ht, hc⟩

theorem not_edgeFault_of_addEdge (h : addEdge g e = .ok g') (cause : ConversionError) :
    ¬EdgeFault g e cause := by
  obtain ⟨good, sourcePort, targetPort, -, -, hc⟩ := connect_of_addEdge h
  obtain ⟨hsource, htarget, -⟩ := Graph.connect_eq_ok_iff.mp hc
  have there : ∀ x ∈ e.ends, x.id ∈ g.ids :=
    forall_ends.mpr ⟨hsource.mem_ids, htarget.mem_ids⟩
  rintro (⟨mem, bad⟩ | ⟨mem, -, missing⟩)
  · exact good _ mem bad
  · exact missing (there _ mem)

theorem nodes_of_addEdge (h : addEdge g e = .ok g') : g'.nodes = g.nodes := by
  obtain ⟨-, sourcePort, targetPort, -, -, hc⟩ := connect_of_addEdge h
  obtain ⟨-, -, rfl⟩ := Graph.connect_eq_ok_iff.mp hc
  rfl

end Edge

/-! ## Nodes -/

section Node
variable {r : Registry} {g g' : Graph} {n : CanvasNode}

/-- The node that is added for one of the drawing. -/
def nodeOf (c : Component) (n : CanvasNode) : Node :=
  c.newNode n.id (mergeDefaults c.defaultConfig n.data.config)

theorem addNode_of_unknown (hc : r.find? n.type = none) :
    addNode r g n = .error (.graph (.registry (.unknown n.type))) := by
  simp [addNode, Registry.resolve, hc]

theorem addNode_of_known {c : Component} (hc : r.find? n.type = some c) :
    addNode r g n =
      if n.id ∈ g.ids then .error (.graph (.duplicateNode n.id))
      else .ok { g with nodes := g.nodes ++ [nodeOf c n] } := by
  by_cases taken : n.id ∈ g.ids
  · simp [addNode, Registry.resolve, hc, edited, Graph.insertNode, Component.newNode,
      Graph.contains_iff.mpr taken, taken]
  · have inserted : (Graph.insertNode (nodeOf c n)).run g =
        .ok () { g with nodes := g.nodes ++ [nodeOf c n] } :=
      Graph.insertNode_eq_ok_iff.mpr ⟨taken, rfl⟩
    rw [nodeOf] at inserted
    simp [addNode, Registry.resolve, hc, edited, inserted, taken, nodeOf]

theorem addNode_eq_ok_iff :
    addNode r g n = .ok g' ↔ ∃ c, r.find? n.type = some c ∧ n.id ∉ g.ids ∧
      g' = { g with nodes := g.nodes ++ [nodeOf c n] } := by
  cases hc : r.find? n.type with
  | none => simp [addNode_of_unknown hc]
  | some c => by_cases taken : n.id ∈ g.ids <;> simp [addNode_of_known hc, taken, eq_comm]

theorem addNode_eq_error {cause : ConversionError} (h : addNode r g n = .error cause) :
    (r.find? n.type = none ∧ cause = .graph (.registry (.unknown n.type))) ∨
      (n.id ∈ g.ids ∧ cause = .graph (.duplicateNode n.id)) := by
  cases hc : r.find? n.type with
  | none =>
      rw [addNode_of_unknown hc] at h
      cases h
      exact Or.inl ⟨rfl, rfl⟩
  | some c =>
      rw [addNode_of_known hc] at h
      split at h
      · next taken =>
        cases h
        exact Or.inr ⟨taken, rfl⟩
      · cases h

end Node

/-! ## The graph of a drawing -/

section Document
variable {r : Registry} {g g' : Graph}

/-- What is true of the graph at every point of a conversion. -/
structure Drawn (r : Registry) (g : Graph) : Prop where
  wellFormed : g.WellFormed
  typed : g.Typed r

theorem Drawn.addNode {n : CanvasNode} (h : Drawn r g) (hn : addNode r g n = .ok g') :
    Drawn r g' := by
  obtain ⟨c, hc, new, rfl⟩ := addNode_eq_ok_iff.mp hn
  refine ⟨h.wellFormed.append new, fun m hm => ?_⟩
  rcases List.mem_append.mp hm with hm | hm
  · exact h.typed m hm
  · cases List.mem_singleton.mp hm
    have identity : c.identity = n.type := by simpa using List.find?_some hc
    exact ⟨c, by rw [← hc, ← identity]; rfl, rfl, rfl⟩

theorem Drawn.addEdge {e : CanvasEdge} (h : Drawn r g) (he : addEdge g e = .ok g') :
    Drawn r g' := by
  obtain ⟨-, sourcePort, targetPort, -, -, hc⟩ := connect_of_addEdge he
  refine ⟨h.wellFormed.connect hc, ?_⟩
  rw [Graph.Typed, nodes_of_addEdge he]
  exact h.typed

theorem toGraph_eq_ok_iff {d : Document} :
    d.toGraph r = .ok g ↔ ∃ bare, d.nodes.foldlM (Canvas.addNode r) {} = .ok bare ∧
      d.edges.foldlM Canvas.addEdge bare = .ok g :=
  ⟨exists_of_bind_eq_ok, fun ⟨_, hn, he⟩ => by rw [Document.toGraph, hn]; exact he⟩

theorem drawn_of_toGraph {d : Document} (h : d.toGraph r = .ok g) : Drawn r g := by
  obtain ⟨bare, hn, he⟩ := toGraph_eq_ok_iff.mp h
  have start : Drawn r {} := ⟨Graph.wellFormed_empty, by simp [Graph.Typed]⟩
  exact foldlM_invariant Drawn.addEdge (foldlM_invariant Drawn.addNode start hn) he

theorem ids_of_addNodes : ∀ {ns : List CanvasNode} {g g' : Graph},
    ns.foldlM (Canvas.addNode r) g = .ok g' → g'.ids = g.ids ++ ns.map (·.id) := by
  intro ns
  induction ns with
  | nil =>
      intro g g' h
      cases h
      simp
  | cons n rest ih =>
      intro g g' h
      rw [List.foldlM_cons] at h
      obtain ⟨s, hs, h⟩ := exists_of_bind_eq_ok h
      obtain ⟨c, -, -, rfl⟩ := addNode_eq_ok_iff.mp hs
      rw [ih h]
      simp [Graph.ids, nodeOf, Component.newNode]

theorem refusal_of_toGraph {d : Document} {cause : ConversionError}
    (h : d.toGraph r = .error cause) : Refusal d r cause := by
  cases hn : d.nodes.foldlM (Canvas.addNode r) {} with
  | error cause' =>
      rw [Document.toGraph, hn] at h
      cases h
      obtain ⟨before, n, after, s, hsplit, hs, hfail⟩ := foldlM_eq_error hn
      rcases addNode_eq_error hfail with ⟨unknown, rfl⟩ | ⟨taken, rfl⟩
      · exact .unknownType (hsplit ▸ by simp) unknown
      · rw [ids_of_addNodes hs] at taken
        exact .duplicate hsplit (by simpa [Graph.ids] using taken)
  | ok bare =>
      rw [Document.toGraph, hn] at h
      obtain ⟨before, e, after, s, hsplit, hs, hfail⟩ := foldlM_eq_error h
      exact .edge hsplit (toGraph_eq_ok_iff.mpr ⟨bare, hn, hs⟩) (addEdge_eq_error hfail)

theorem not_refusal_of_toGraph {d : Document} (h : d.toGraph r = .ok g) (cause : ConversionError) :
    ¬Refusal d r cause := by
  obtain ⟨bare, hn, he⟩ := toGraph_eq_ok_iff.mp h
  rintro (⟨mem, unknown⟩ | ⟨split, again⟩ | ⟨split, drawn, fault⟩)
  · obtain ⟨before, after, split⟩ := List.append_of_mem mem
    obtain ⟨s, t, -, ht, -⟩ := foldlM_split (split ▸ hn)
    obtain ⟨c, hc, -⟩ := addNode_eq_ok_iff.mp ht
    cases unknown.symm.trans hc
  · obtain ⟨s, t, hs, ht, -⟩ := foldlM_split (split ▸ hn)
    obtain ⟨c, -, new, -⟩ := addNode_eq_ok_iff.mp ht
    rw [ids_of_addNodes hs] at new
    exact new (by simpa [Graph.ids] using again)
  · obtain ⟨s, t, hs, ht, -⟩ := foldlM_split (split ▸ he)
    obtain ⟨bare', hn', hs'⟩ := toGraph_eq_ok_iff.mp drawn
    cases hn.symm.trans hn'
    cases hs.symm.trans hs'
    exact not_edgeFault_of_addEdge ht _ fault

/-- There is a pipeline exactly if there is no reason to refuse one. -/
theorem exists_toGraph_iff {d : Document} :
    (∃ g, d.toGraph r = .ok g) ↔ ∀ cause, ¬Refusal d r cause := by
  constructor
  · rintro ⟨g, h⟩
    exact not_refusal_of_toGraph h
  · intro h
    cases hd : d.toGraph r with
    | ok g => exact ⟨g, rfl⟩
    | error cause => exact absurd (refusal_of_toGraph hd) (h cause)

end Document

/-! ## The script of a drawing -/

theorem compileFault_of_drawn {g : Graph} (h : Drawn Registry.standard g) {header : Option String}
    {e : CompileError} (failed : compile Registry.standard header g = .error e) :
    CompileFault g e := by
  have wf := h.wellFormed
  rcases of_compile_error failed with ⟨cause, horder, rfl⟩ | ⟨n, hn, hc, -⟩ | ⟨t, ht, hr⟩
  · obtain ⟨ids, rfl, id, circle⟩ := Graph.cycle_of_order_error wf.joins horder
    exact .cycle circle
  · obtain ⟨c, hc', -⟩ := h.typed n hn
    cases hc.symm.trans hc'
  · rcases stage_error wf h.typed.declared ht hr with
      ⟨b, cause, own, hc, hv, rfl⟩ | ⟨id, cause, rfl, fault⟩
    · exact .invalid (component_of_mem_stages ht).1 hc own hv
    · exact .incomplete fault

/-- **A drawing cannot trip the compiler.**  A conversion never fails over a
missing port, and only for a reason that the drawing gives; what it returns is
well-formed.  With the standard components the compiler then fails only over a
cycle, over something that is missing, or over what a configuration says. -/
theorem toGraph_safe (d : Document) (r : Registry) :
    (∀ id side port, d.toGraph r ≠ .error (.graph (.missingPort id side port))) ∧
      (∀ cause, d.toGraph r = .error cause → Refusal d r cause) ∧
      ((∃ g, d.toGraph r = .ok g) ↔ ∀ cause, ¬Refusal d r cause) ∧
      (∀ g, d.toGraph r = .ok g → g.WellFormed) ∧
      ∀ g, d.toGraph Registry.standard = .ok g → ∀ header e,
        compile Registry.standard header g = .error e → CompileFault g e := by
  refine ⟨fun id side port h => ?_, fun cause => refusal_of_toGraph, exists_toGraph_iff,
    fun g h => (drawn_of_toGraph h).wellFormed,
    fun g h header e failed => compileFault_of_drawn (drawn_of_toGraph h) failed⟩
  cases refusal_of_toGraph h with
  | edge split drawn fault => cases fault

/-! A reader without a file and a filter behind it: the compiler blames the
reader.  With a handle for a second input, there is no pipeline. -/

def sketch (handle : String) : Document where
  nodes := [{ id := "a", type := "csvFileInput" },
    { id := "b", type := "filterRows", data := { config := .obj [("condition", .str "x > 1")] } }]
  edges := [{ source := "a", target := "b", targetHandle := some handle }]

theorem toGraph_safe_sketch :
    (∃ g, (sketch "in-0").toGraph Registry.standard = .ok g ∧ g.WellFormed ∧
      ∃ cause, compile Registry.standard none g = .error (.incomplete "a" cause) ∧
        CompileFault g (.incomplete "a" cause)) ∧
      ∃ cause, (sketch "in-1").toGraph Registry.standard = .error cause ∧
        Refusal (sketch "in-1") Registry.standard cause := by
  have converts : (((sketch "in-0").toGraph Registry.standard).toOption.bind fun g =>
      blamed (compile Registry.standard none g)) =
        some ("a", .upstream (.skipped "no file path selected") "b") := by decide +kernel
  have refuses : ((sketch "in-1").toGraph Registry.standard).toOption.isSome = false := by
    decide +kernel
  obtain ⟨g, hg, hblamed⟩ := Option.bind_eq_some_iff.mp converts
  have hg := ok_of_toOption hg
  have failed := of_blamed hblamed
  obtain ⟨-, -, -, shape, faults⟩ := toGraph_safe (sketch "in-0") Registry.standard
  refine ⟨⟨g, hg, shape g hg, _, failed, faults g hg none _ failed⟩, ?_⟩
  cases h : (sketch "in-1").toGraph Registry.standard with
  | ok g => simp [h, Except.toOption] at refuses
  | error cause => exact ⟨cause, rfl, (toGraph_safe _ _).2.1 cause h⟩

end PipelineScript.Canvas
