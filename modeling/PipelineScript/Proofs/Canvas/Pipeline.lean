/-
# The pipeline of a drawing

A drawing can be converted exactly if its types are registered, its ids are
distinct, and each of its edges stands for an edge between ports
(`Convertible`).  The pipeline then has the nodes of the drawing and the edges
that its edges stand for, the last one at each input port (`Faithful`).

What a handle means is said by `Means`, without the order in which the
possibilities are tried.  Edges are drawn one after the other, each taking the
place of the one that arrives at the same port (`replacing`); `lastPerPort` says
what is left of a list of edges without saying how it came about, and the two
agree because adding an edge at the end does the same to both
(`lastPerPort_concat`).

That nothing else is in the way of a conversion need not be shown along its
steps: a drawing that is convertible gives none of the reasons for a refusal
(`not_refusal_of_convertible`), and there are no others (`exists_toGraph_iff`).
-/
import Mathlib.Data.List.DropRight
import PipelineScript.Proofs.Canvas.Conversion
import PipelineScript.Proofs.Json.Fields
import PipelineScript.Proofs.Pointwise
import PipelineScript.Proofs.Text.Ordinal

namespace PipelineScript

/-- The ports of one side. -/
def Component.ports (c : Component) : Side → List String
  | .input => c.inputs
  | .output => c.outputs

end PipelineScript

namespace PipelineScript.Canvas

/-! ## Configurations -/

/-- A saved configuration over a default one.  Of several values for a field the
last one counts. -/
inductive Overlaid : Json → Json → Json → Prop
  /-- Nothing was saved. -/
  | nothing {defaults : Json} : Overlaid defaults .null defaults
  | fields {base top es : Json.Entries}
      (values : ∀ key, es.get? key = (Json.Entries.get? top.reverse key).or (base.get? key))
      (ordered : base.Ordered → es.Ordered) : Overlaid (.obj base) (.obj top) (.obj es)
  | saved {defaults saved : Json} (given : saved ≠ .null)
      (differ : ¬∃ base top, defaults = .obj base ∧ saved = .obj top) :
      Overlaid defaults saved saved

theorem mergeDefaults_null (defaults : Json) : mergeDefaults defaults .null = defaults := by
  cases defaults <;> rfl

theorem mergeDefaults_of_differ {defaults saved : Json} (given : saved ≠ .null)
    (differ : ¬∃ base top, defaults = .obj base ∧ saved = .obj top) :
    mergeDefaults defaults saved = saved := by
  rw [mergeDefaults.eq_def]
  split
  · exact absurd rfl given
  · exact absurd ⟨_, _, rfl, rfl⟩ differ
  · rfl

theorem overlaid_mergeDefaults (defaults saved : Json) :
    Overlaid defaults saved (mergeDefaults defaults saved) := by
  by_cases given : saved = .null
  · rw [given, mergeDefaults_null]
    exact .nothing
  by_cases differ : ∃ base top, defaults = .obj base ∧ saved = .obj top
  · obtain ⟨base, top, rfl, rfl⟩ := differ
    exact .fields (fun _ => Json.Entries.get?_overlay) fun ordered => ordered.overlay top
  · rw [mergeDefaults_of_differ given differ]
    exact .saved given differ

theorem mergeDefaults_again {defaults : Json} (ordered : defaults.Ordered) (saved : Json) :
    mergeDefaults defaults (mergeDefaults defaults saved) = mergeDefaults defaults saved := by
  by_cases differ : ∃ base top, defaults = .obj base ∧ saved = .obj top
  · obtain ⟨base, top, rfl, rfl⟩ := differ
    exact congrArg Json.obj (Json.Entries.Ordered.overlay_again ordered top)
  by_cases given : saved = .null
  · rw [given, mergeDefaults_null]
    cases defaults with
    | obj base => exact congrArg Json.obj (Json.Entries.Ordered.overlay_self ordered)
    | _ => rfl
  · rw [mergeDefaults_of_differ given differ, mergeDefaults_of_differ given differ]

/-! ## Handles -/

/-- What stands behind the last hyphen of a text; all of it, if there is none. -/
def LastPart (text part : String) : Prop :=
  '-' ∉ part.toList ∧ (text = part ∨ ∃ before, text = before ++ "-" ++ part)

/-- The port that a trimmed handle means: the first one if the handle is empty,
the one of its name if there is one, and else the one that its last part
counts. -/
inductive Means (ports : List String) : String → String → Prop
  | first {port : String} (head : ports.head? = some port) : Means ports "" port
  | named {text : String} (given : text ≠ "") (known : text ∈ ports) : Means ports text text
  | counted {text part port : String} {i : UInt64} (given : text ≠ "") (unknown : text ∉ ports)
      (last : LastPart text part) (number : Text.Writes part i.toNat)
      (there : ports[i.toNat]? = some port) : Means ports text port

/-- The end of a list behind the last element that is refused. -/
theorem rtakeWhile_append_cons {α : Type} {p : α → Bool} {before part : List α} {x : α}
    (hx : ¬p x) (taken : ∀ y ∈ part, p y) : (before ++ x :: part).rtakeWhile p = part := by
  rw [List.rtakeWhile, List.reverse_append, List.reverse_cons, List.append_assoc,
    List.takeWhile_append_of_pos (by simpa using taken), List.singleton_append,
    List.takeWhile_cons_of_neg hx, List.append_nil, List.reverse_reverse]

theorem lastPart_iff {text part : String} : LastPart text part ↔ part = indexPart text := by
  have hpart : (indexPart text).toList = text.toList.rtakeWhile (· != '-') := String.toList_ofList
  rw [← String.toList_inj, hpart]
  constructor
  · rintro ⟨free, whole⟩
    have taken : ∀ c ∈ part.toList, (c != '-') = true := fun c hc =>
      bne_iff_ne.mpr (ne_of_mem_of_not_mem hc free)
    rcases whole with rfl | ⟨before, rfl⟩
    · exact (List.rtakeWhile_eq_self_iff.mpr taken).symm
    · rw [String.toList_append, String.toList_append, List.append_assoc]
      exact (rtakeWhile_append_cons (x := '-') (by decide) taken).symm
  · intro h
    have free : '-' ∉ part.toList := by
      intro hmem
      rw [h] at hmem
      have refused : ('-' != '-') = true := List.mem_rtakeWhile_imp (p := (· != '-')) hmem
      exact bne_iff_ne.mp refused rfl
    have split : text.toList = text.toList.rdropWhile (· != '-') ++ part.toList := by
      rw [h, List.rdropWhile_append_rtakeWhile]
    refine ⟨free, ?_⟩
    by_cases hd : text.toList.rdropWhile (· != '-') = []
    · rw [hd, List.nil_append] at split
      exact Or.inl (String.toList_inj.mp split)
    · have last := List.rdropWhile_last_not _ _ hd
      have hyphen : (text.toList.rdropWhile (· != '-')).getLast hd = '-' := by simpa using last
      rw [← List.dropLast_append_getLast hd, hyphen] at split
      refine Or.inr ⟨String.ofList (text.toList.rdropWhile (· != '-')).dropLast, ?_⟩
      refine String.toList_inj.mp (split.trans ?_)
      rw [String.toList_append, String.toList_append, String.toList_ofList]
      rfl

theorem portOf_eq_ok_iff {ports : List String} {text port : String} :
    portOf ports text = .ok port ↔ Means ports text port := by
  constructor
  · intro h
    unfold portOf at h
    split at h
    · next empty =>
      obtain rfl : text = "" := by simpa using empty
      cases ports with
      | nil => cases h
      | cons first rest =>
          cases h
          exact .first rfl
    · next given =>
      have given : text ≠ "" := by simpa using given
      split at h
      · next known =>
        cases h
        exact .named given (by simpa using known)
      · next unknown =>
        split at h
        · next counted =>
          cases h
          obtain ⟨i, number, there⟩ := Option.bind_eq_some_iff.mp counted
          have number := Text.ordinalOfText?_eq_some_iff.mp number
          exact .counted given (by simpa using unknown) (lastPart_iff.mpr rfl) number there
        · cases h
  · rintro (head | ⟨given, known⟩ | ⟨given, unknown, last, number, there⟩)
    · cases ports with
      | nil => cases head
      | cons first rest =>
          cases head
          rfl
    · simp [portOf, given, known]
    · obtain rfl := lastPart_iff.mp last
      have number := Text.ordinalOfText?_eq_some_iff.mpr number
      simp [portOf, given, unknown, number, there]

/-! ## What a drawing stands for -/

/-- The edge between the ports that the ends of an edge of the drawing mean. -/
structure Joins (means : End → String → Prop) (e : CanvasEdge) (x : Edge) : Prop where
  source : x.source = e.source
  target : x.target = e.target
  sourcePort : means ⟨e.source, .output, e.sourceHandle⟩ x.sourcePort
  targetPort : means ⟨e.target, .input, e.targetHandle⟩ x.targetPort

/-- The end is at a node of the drawing, and means that port of its type. -/
def End.At (d : Document) (r : Registry) (x : End) (port : String) : Prop :=
  ∃ n ∈ d.nodes, n.id = x.id ∧ ∃ c, r.find? n.type = some c ∧ Means (c.ports x.side) x.text port

/-- A node of the pipeline for one of the drawing, of a type. -/
structure StandsFor (c : Component) (n : CanvasNode) (m : Node) : Prop where
  id : m.id = n.id
  component : m.component = c.identity
  inputs : m.inputs = c.inputs
  outputs : m.outputs = c.outputs
  config : Overlaid c.defaultConfig n.data.config m.config

/-- The edges without those that have a later one at their input port. -/
def lastPerPort : List Edge → List Edge
  | [] => []
  | x :: rest =>
    if ∃ y ∈ rest, y.target = x.target ∧ y.targetPort = x.targetPort then lastPerPort rest
    else x :: lastPerPort rest

/-- Nothing is in the way of a conversion. -/
structure Convertible (d : Document) (r : Registry) : Prop where
  types : ∀ n ∈ d.nodes, ∃ c, r.find? n.type = some c
  ids : (d.nodes.map (·.id)).Nodup
  edges : ∀ e ∈ d.edges, ∀ x ∈ e.ends, ∃ port, x.At d r port

/-- The pipeline is that of the drawing. -/
structure Faithful (d : Document) (r : Registry) (g : Graph) : Prop where
  nodes : List.Forall₂ (fun n m => ∃ c, r.find? n.type = some c ∧ StandsFor c n m) d.nodes g.nodes
  edges : ∃ xs, List.Forall₂ (Joins (End.At d r)) d.edges xs ∧ g.edges = lastPerPort xs

/-! ## Nodes -/

section Nodes
variable {r : Registry} {g g' : Graph} {d : Document} {x : End} {port : String}

/-- The node is the one that is added for that of the drawing. -/
def Added (r : Registry) (n : CanvasNode) (m : Node) : Prop :=
  ∃ c, r.find? n.type = some c ∧ m = nodeOf c n

theorem standsFor_nodeOf (c : Component) (n : CanvasNode) : StandsFor c n (nodeOf c n) :=
  ⟨rfl, rfl, rfl, rfl, overlaid_mergeDefaults _ _⟩

theorem nodeOf_ports {c : Component} {n : CanvasNode} {side : Side} :
    (nodeOf c n).ports side = c.ports side := by
  cases side <;> rfl

theorem added_of_addNodes : ∀ {ns : List CanvasNode} {g : Graph},
    ns.foldlM (addNode r) g = .ok g' →
      ∃ ms, List.Forall₂ (Added r) ns ms ∧ g' = { g with nodes := g.nodes ++ ms } := by
  intro ns
  induction ns with
  | nil =>
      intro g h
      cases h
      exact ⟨[], .nil, by rw [List.append_nil]⟩
  | cons n rest ih =>
      intro g h
      rw [List.foldlM_cons] at h
      obtain ⟨s, hs, h⟩ := exists_of_bind_eq_ok h
      obtain ⟨c, hc, -, rfl⟩ := addNode_eq_ok_iff.mp hs
      obtain ⟨ms, added, rfl⟩ := ih h
      exact ⟨nodeOf c n :: ms, .cons ⟨c, hc, rfl⟩ added, by rw [List.append_assoc]; rfl⟩

/-- The end is at a node of the graph, and means that port of it. -/
def End.In (g : Graph) (x : End) (port : String) : Prop :=
  ∃ n, g.node? x.id = some n ∧ Means (n.ports x.side) x.text port

theorem End.in_iff : x.In g port ↔ x.id ∈ g.ids ∧ x.resolve g = .ok port := by
  constructor
  · rintro ⟨n, hn, means⟩
    refine ⟨Graph.node?_isSome_iff.mp (Option.isSome_iff_exists.mpr ⟨n, hn⟩), ?_⟩
    rw [End.resolve, resolveHandle, hn]
    exact portOf_eq_ok_iff.mpr means
  · rintro ⟨there, h⟩
    obtain ⟨n, hn⟩ := Option.isSome_iff_exists.mp (Graph.node?_isSome_iff.mpr there)
    rw [End.resolve, resolveHandle, hn] at h
    exact ⟨n, hn, portOf_eq_ok_iff.mp h⟩

theorem End.in_iff_at (added : List.Forall₂ (Added r) d.nodes g.nodes) (distinct : g.ids.Nodup) :
    x.In g port ↔ x.At d r port := by
  constructor
  · rintro ⟨m, hm, means⟩
    obtain ⟨hmem, hid⟩ := (Graph.node?_eq_some_iff distinct).mp hm
    obtain ⟨n, hn, c, hc, rfl⟩ := exists_left_of_mem added hmem
    rw [nodeOf_ports] at means
    exact ⟨n, hn, hid, c, hc, means⟩
  · rintro ⟨n, hn, hid, c, hc, means⟩
    obtain ⟨m, hm, c', hc', rfl⟩ := exists_right_of_mem added hn
    cases hc.symm.trans hc'
    rw [← nodeOf_ports (n := n)] at means
    exact ⟨nodeOf c n, (Graph.node?_eq_some_iff distinct).mpr ⟨hm, hid⟩, means⟩

end Nodes

/-! ## Edges -/

section Edges
variable {g g' : Graph} {e : CanvasEdge}

/-- The edges with a new one at its port. -/
def replacing (edges : List Edge) (x : Edge) : List Edge :=
  Graph.freePort edges x.target x.targetPort ++ [x]

theorem lastPerPort_concat (x : Edge) : ∀ edges : List Edge,
    lastPerPort (edges ++ [x]) = replacing (lastPerPort edges) x := by
  intro edges
  induction edges with
  | nil => rfl
  | cons y rest ih =>
      rw [List.cons_append, lastPerPort, lastPerPort, ih]
      by_cases again : ∃ z ∈ rest, z.target = y.target ∧ z.targetPort = y.targetPort
      · rw [if_pos again, if_pos (by simpa using Or.inl again)]
      by_cases same : x.target = y.target ∧ x.targetPort = y.targetPort
      · have gone : Graph.freePort (y :: lastPerPort rest) x.target x.targetPort =
            Graph.freePort (lastPerPort rest) x.target x.targetPort :=
          List.filter_cons_of_neg (by simp [same])
        rw [if_neg again, if_pos ⟨x, by simp, same⟩, replacing, replacing, gone]
      · have apart : ¬(y.target = x.target ∧ y.targetPort = x.targetPort) := fun h =>
          same ⟨h.1.symm, h.2.symm⟩
        have stays : Graph.freePort (y :: lastPerPort rest) x.target x.targetPort =
            y :: Graph.freePort (lastPerPort rest) x.target x.targetPort :=
          List.filter_cons_of_pos (by simpa [imp_iff_not_or] using apart)
        rw [if_neg again, if_neg (by simpa [or_imp, forall_and, same] using again), replacing,
          replacing, stays, List.cons_append]

theorem foldl_replacing (xs : List Edge) : xs.foldl replacing [] = lastPerPort xs := by
  induction xs using List.reverseRecOn with
  | nil => rfl
  | append_singleton before x ih =>
      rw [List.foldl_append, ih, lastPerPort_concat]
      rfl

theorem joins_of_addEdge (h : addEdge g e = .ok g') :
    ∃ x, Joins (End.In g) e x ∧ g' = { g with edges := replacing g.edges x } := by
  obtain ⟨-, sourcePort, targetPort, hs, ht, hc⟩ := connect_of_addEdge h
  obtain ⟨hsource, htarget, rfl⟩ := Graph.connect_eq_ok_iff.mp hc
  exact ⟨⟨e.source, sourcePort, e.target, targetPort⟩,
    ⟨rfl, rfl, End.in_iff.mpr ⟨hsource.mem_ids, hs⟩, End.in_iff.mpr ⟨htarget.mem_ids, ht⟩⟩, rfl⟩

theorem joins_of_addEdges : ∀ {es : List CanvasEdge} {g : Graph}, es.foldlM addEdge g = .ok g' →
    ∃ xs, List.Forall₂ (Joins (End.In g)) es xs ∧
      g' = { g with edges := xs.foldl replacing g.edges } := by
  intro es
  induction es with
  | nil =>
      intro g h
      cases h
      exact ⟨[], .nil, rfl⟩
  | cons e rest ih =>
      intro g h
      rw [List.foldlM_cons] at h
      obtain ⟨s, hs, h⟩ := exists_of_bind_eq_ok h
      obtain ⟨x, hx, rfl⟩ := joins_of_addEdge hs
      obtain ⟨xs, joins, rfl⟩ := ih h
      exact ⟨x :: xs, .cons hx joins, rfl⟩

end Edges

/-! ## Drawings -/

section Document
variable {r : Registry} {g : Graph} {d : Document}

theorem added_of_toGraph (h : d.toGraph r = .ok g) : List.Forall₂ (Added r) d.nodes g.nodes := by
  obtain ⟨bare, hn, he⟩ := toGraph_eq_ok_iff.mp h
  obtain ⟨ms, added, rfl⟩ := added_of_addNodes hn
  obtain ⟨xs, -, rfl⟩ := joins_of_addEdges he
  exact added

theorem faithful_of_toGraph (h : d.toGraph r = .ok g) : Faithful d r g := by
  have added := added_of_toGraph h
  have distinct := (drawn_of_toGraph h).wellFormed.distinct
  obtain ⟨bare, hn, he⟩ := toGraph_eq_ok_iff.mp h
  obtain ⟨ms, -, rfl⟩ := added_of_addNodes hn
  obtain ⟨xs, joins, rfl⟩ := joins_of_addEdges he
  refine ⟨added.imp ?_, xs, joins.imp ?_, foldl_replacing xs⟩
  · rintro n _ ⟨c, hc, rfl⟩
    exact ⟨c, hc, standsFor_nodeOf c n⟩
  · rintro e x ⟨source, target, sourcePort, targetPort⟩
    exact ⟨source, target, (End.in_iff_at added distinct).mp sourcePort,
      (End.in_iff_at added distinct).mp targetPort⟩

theorem convertible_of_toGraph (h : d.toGraph r = .ok g) : Convertible d r := by
  have faithful := faithful_of_toGraph h
  refine ⟨fun n hn => ?_, ?_, fun e he => ?_⟩
  · obtain ⟨m, -, c, hc, -⟩ := exists_right_of_mem faithful.nodes hn
    exact ⟨c, hc⟩
  · have ids : d.nodes.map (·.id) = g.ids := by
      rw [Graph.ids, ← List.forall₂_eq_eq_eq, List.forall₂_map_left_iff,
        List.forall₂_map_right_iff]
      refine faithful.nodes.imp ?_
      rintro n m ⟨c, -, stands⟩
      exact stands.id.symm
    rw [ids]
    exact (drawn_of_toGraph h).wellFormed.distinct
  · obtain ⟨xs, joins, -⟩ := faithful.edges
    obtain ⟨x, -, hx⟩ := exists_right_of_mem joins he
    exact forall_ends.mpr ⟨⟨_, hx.sourcePort⟩, ⟨_, hx.targetPort⟩⟩

theorem not_refusal_of_convertible (h : Convertible d r) {cause : ConversionError} :
    ¬Refusal d r cause := by
  intro refusal
  cases refusal with
  | unknownType mem unknown =>
      obtain ⟨c, hc⟩ := h.types _ mem
      cases unknown.symm.trans hc
  | duplicate split again =>
      have distinct := h.ids
      rw [split, List.map_append, List.map_cons] at distinct
      exact List.disjoint_of_nodup_append distinct again List.mem_cons_self
  | @edge before after e g _ split drawn fault =>
      have mem : e ∈ d.edges := by simp [split]
      have there : ∀ x ∈ e.ends, ∃ port, x.In g port := fun x hx => by
        obtain ⟨port, hport⟩ := h.edges e mem x hx
        exact ⟨port, (End.in_iff_at (added_of_toGraph drawn)
          (drawn_of_toGraph drawn).wellFormed.distinct).mpr hport⟩
      cases fault with
      | handle mem bad =>
          obtain ⟨port, hport⟩ := there _ mem
          exact exists_resolve_iff.mp ⟨port, (End.in_iff.mp hport).2⟩ bad
      | node mem _ missing =>
          obtain ⟨port, hport⟩ := there _ mem
          exact missing (End.in_iff.mp hport).1

theorem exists_toGraph_iff_convertible : (∃ g, d.toGraph r = .ok g) ↔ Convertible d r := by
  constructor
  · rintro ⟨g, h⟩
    exact convertible_of_toGraph h
  · intro h
    exact exists_toGraph_iff.mpr fun _ => not_refusal_of_convertible h

end Document

/-- **A drawing is converted whenever it can be, and into what it says.**  The
nodes are those of the drawing, in order, with the ports of their types and the
saved configurations over the default ones; the edges are those between the
ports that the handles mean, of which the last one at each input port is left.
Configurations may be laid over the defaults once more without a change. -/
theorem toGraph_faithful (d : Document) (r : Registry) :
    ((∃ g, d.toGraph r = .ok g) ↔ Convertible d r) ∧
      (∀ g, d.toGraph r = .ok g → Faithful d r g) ∧
      ∀ defaults saved, defaults.Ordered →
        mergeDefaults defaults (mergeDefaults defaults saved) = mergeDefaults defaults saved :=
  ⟨exists_toGraph_iff_convertible, fun _ => faithful_of_toGraph,
    fun _ saved ordered => mergeDefaults_again ordered saved⟩

theorem ordered_of_standard : ∀ c ∈ Registry.standard.components, c.defaultConfig.Ordered := by
  unfold Json.Ordered Json.Entries.Ordered
  decide +kernel

/-! Two readers and three handles for the two inputs of a merge.  The third
handle says nothing and means the first input, which is taken from the first
reader. -/

def crossing : Document where
  nodes := [{ id := "a", type := "csvFileInput",
              data := { config := .obj [("filePath", .str "in.csv")] } },
    { id := "b", type := "csvFileInput" }, { id := "m", type := "mergeFrames" }]
  edges := [{ source := "a", target := "m", targetHandle := some " left " },
    { source := "b", target := "m", targetHandle := some "input-1" },
    { source := "b", sourceHandle := some "out", target := "m" }]

theorem toGraph_faithful_crossing :
    Convertible crossing Registry.standard ∧
      (∃ g, crossing.toGraph Registry.standard = .ok g ∧ Faithful crossing Registry.standard g ∧
        g.edges = [⟨"b", "out", "m", "right"⟩, ⟨"b", "out", "m", "left"⟩]) ∧
      ∀ c ∈ Registry.standard.components, ∀ saved,
        mergeDefaults c.defaultConfig (mergeDefaults c.defaultConfig saved) =
          mergeDefaults c.defaultConfig saved := by
  have converts : (crossing.toGraph Registry.standard).toOption.map (·.edges) =
      some [⟨"b", "out", "m", "right"⟩, ⟨"b", "out", "m", "left"⟩] := by decide +kernel
  obtain ⟨g, hg, edges⟩ := Option.map_eq_some_iff.mp converts
  have hg := ok_of_toOption hg
  obtain ⟨convertible, faithful, again⟩ := toGraph_faithful crossing Registry.standard
  exact ⟨convertible.mp ⟨g, hg⟩, ⟨g, hg, faithful g hg, edges⟩,
    fun c hc saved => again _ saved (ordered_of_standard c hc)⟩

end PipelineScript.Canvas
