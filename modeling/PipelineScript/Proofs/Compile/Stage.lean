/-
# The stages of a compilation

A compilation is a walk over the nodes in order.  Its stages say where the
walk stands each time a node is generated: what the node's component can ask
is answered at its stage and nowhere else, so statements about single nodes
are statements about stages.

A successful walk has one stage for each node (`stages_nodes`), and the walk
at a stage is the one over the nodes before it (`stages_split`, and `Reaches`
for a node of whose component nothing is known).  Invariants of the walk go
through `visitAll_induction`, which leaves one generated node at a time to look
at.  What is in a script can be traced back to the stages (`Traced`), and so can
most failures (`of_compile_error`).
-/
import PipelineScript.Compile.Walk
import PipelineScript.Proofs.Graph.Order

namespace PipelineScript.Compile

/-- A node about to be generated: its component, and the walk over the nodes
before it. -/
structure Stage where
  walk : Walk
  node : Node
  component : Component

namespace Stage

/-- What the component is told about the node. -/
def site (t : Stage) (g : Graph) : Site :=
  t.walk.site g t.component t.node

/-- How the node generates its code. -/
def plan (t : Stage) : Plan Generated :=
  t.component.generate t.node.config

/-- The names before the node has asked for any. -/
def start (t : Stage) : Progress :=
  .start t.walk.names t.node

/-- What comes of the node, and the names it has asked for. -/
def result (t : Stage) (g : Graph) : Except CompileError (Generated × Progress) :=
  t.plan.run (t.site g) t.start

/-- The walk after the node. -/
def next (t : Stage) (generated : Generated) (p : Progress) : Walk :=
  t.walk.record t.component t.node generated p

end Stage

/-- The stages of a walk over some nodes, up to the first failure. -/
def Walk.stages (r : Registry) (g : Graph) : Walk → List Node → List Stage
  | _, [] => []
  | w, n :: rest =>
    match r.find? n.component with
    | none => []
    | some c =>
      let t : Stage := ⟨w, n, c⟩
      t :: match t.result g with
        | .error _ => []
        | .ok (generated, p) => stages r g (t.next generated p) rest

/-- The stages of the compilation of a pipeline. -/
def stages (r : Registry) (g : Graph) : List Stage :=
  match g.order with
  | .error _ => []
  | .ok order => Walk.stages r g {} order

variable {r : Registry} {g : Graph}

/-! ## One node -/

theorem visit_eq_ok_iff {w w' : Walk} {n : Node} :
    w.visit r g n = .ok w' ↔
      ∃ c generated p, r.find? n.component = some c ∧
        Stage.result ⟨w, n, c⟩ g = .ok (generated, p) ∧ w' = w.record c n generated p := by
  cases hc : r.find? n.component with
  | none => simp [Walk.visit, hc]
  | some c =>
      have hrun : (c.generate n.config).run (w.site g c n) (.start w.names n) =
          Stage.result ⟨w, n, c⟩ g := rfl
      cases hr : Stage.result ⟨w, n, c⟩ g with
      | error e => simp [Walk.visit, hc, hrun, hr]
      | ok v =>
          obtain ⟨generated, p⟩ := v
          simp only [Walk.visit, hc, hrun, hr, Except.ok.injEq, Option.some.injEq]
          constructor
          · intro h
            exact ⟨c, generated, p, rfl, hr, h.symm⟩
          · rintro ⟨c', generated', p', rfl, hr', rfl⟩
            cases hr.symm.trans hr'
            rfl

theorem visitAll_cons_eq_ok_iff {w w' : Walk} {n : Node} {rest : List Node} :
    Walk.visitAll r g w (n :: rest) = .ok w' ↔
      ∃ c generated p, r.find? n.component = some c ∧
        Stage.result ⟨w, n, c⟩ g = .ok (generated, p) ∧
          Walk.visitAll r g (w.record c n generated p) rest = .ok w' := by
  cases hv : w.visit r g n with
  | error e =>
      simp only [Walk.visitAll, hv, reduceCtorEq, false_iff]
      rintro ⟨c, generated, p, hc, hr, -⟩
      rw [visit_eq_ok_iff.mpr ⟨c, generated, p, hc, hr, rfl⟩] at hv
      cases hv
  | ok v =>
      obtain ⟨c, generated, p, hc, hr, rfl⟩ := visit_eq_ok_iff.mp hv
      simp only [Walk.visitAll, hv]
      constructor
      · intro h
        exact ⟨c, generated, p, hc, hr, h⟩
      · rintro ⟨c', generated', p', hc', hr', h⟩
        cases hc.symm.trans hc'
        cases hr.symm.trans hr'
        exact h

theorem visitAll_append_eq (w : Walk) (ns rest : List Node) :
    Walk.visitAll r g w (ns ++ rest) =
      (Walk.visitAll r g w ns).bind fun v => Walk.visitAll r g v rest := by
  induction ns generalizing w with
  | nil => rfl
  | cons n ns ih =>
      rw [List.cons_append, Walk.visitAll, Walk.visitAll]
      cases w.visit r g n with
      | error e => rfl
      | ok v => exact ih v

theorem visitAll_append {w w' : Walk} {ns rest : List Node} :
    Walk.visitAll r g w (ns ++ rest) = .ok w' ↔
      ∃ v, Walk.visitAll r g w ns = .ok v ∧ Walk.visitAll r g v rest = .ok w' := by
  rw [visitAll_append_eq]
  cases Walk.visitAll r g w ns <;> simp [Except.bind]

theorem stages_cons {w : Walk} {n : Node} {rest : List Node} {c : Component}
    {generated : Generated} {p : Progress} (hc : r.find? n.component = some c)
    (hr : Stage.result ⟨w, n, c⟩ g = .ok (generated, p)) :
    Walk.stages r g w (n :: rest) =
      ⟨w, n, c⟩ :: Walk.stages r g (w.record c n generated p) rest := by
  simp [Walk.stages, hc, hr, Stage.next]

/-! ## All nodes -/

theorem stages_append {w v : Walk} {ns rest : List Node}
    (h : Walk.visitAll r g w ns = .ok v) :
    Walk.stages r g w (ns ++ rest) = Walk.stages r g w ns ++ Walk.stages r g v rest := by
  induction ns generalizing w with
  | nil =>
      cases h
      rfl
  | cons n ns ih =>
      obtain ⟨c, generated, p, hc, hr, hrest⟩ := visitAll_cons_eq_ok_iff.mp h
      rw [List.cons_append, stages_cons hc hr, stages_cons hc hr, ih hrest, List.cons_append]

theorem stages_nodes {w w' : Walk} {ns : List Node} (h : Walk.visitAll r g w ns = .ok w') :
    (Walk.stages r g w ns).map (·.node) = ns := by
  induction ns generalizing w with
  | nil => rfl
  | cons n rest ih =>
      obtain ⟨c, generated, p, hc, hr, hrest⟩ := visitAll_cons_eq_ok_iff.mp h
      rw [stages_cons hc hr, List.map_cons, ih hrest]

/-- What holds of a walk and is kept by every generated node holds in the
end.  The invariant may speak of the stages so far. -/
theorem visitAll_induction {P : List Stage → Walk → Prop} {w w' : Walk} {ns : List Node}
    (h : Walk.visitAll r g w ns = .ok w') (start : P [] w)
    (step : ∀ before t generated p, t ∈ Walk.stages r g w ns → P before t.walk →
      t.result g = .ok (generated, p) → P (before ++ [t]) (t.next generated p)) :
    P (Walk.stages r g w ns) w' := by
  suffices ∀ (ns : List Node) (before : List Stage) (v : Walk), P before v →
      Walk.visitAll r g v ns = .ok w' →
      (∀ before t generated p, t ∈ Walk.stages r g v ns → P before t.walk →
        t.result g = .ok (generated, p) → P (before ++ [t]) (t.next generated p)) →
      P (before ++ Walk.stages r g v ns) w' from this ns [] w start h step
  intro ns
  induction ns with
  | nil =>
      intro before v hp hv _
      cases hv
      simpa [Walk.stages] using hp
  | cons n rest ih =>
      intro before v hp hv step
      obtain ⟨c, generated, p, hc, hr, hrest⟩ := visitAll_cons_eq_ok_iff.mp hv
      rw [stages_cons hc hr] at step ⊢
      have hnext := step before ⟨v, n, c⟩ generated p List.mem_cons_self hp hr
      have := ih _ _ hnext hrest fun before t generated p ht =>
        step before t generated p (List.mem_cons_of_mem _ ht)
      rw [List.append_assoc] at this
      exact this

theorem stages_split {w : Walk} {ns : List Node} {before after : List Stage} {t : Stage}
    (h : Walk.stages r g w ns = before ++ t :: after) :
    ∃ rest, ns = before.map (·.node) ++ t.node :: rest ∧
      r.find? t.node.component = some t.component ∧
      Walk.visitAll r g w (before.map (·.node)) = .ok t.walk ∧
      Walk.stages r g w (before.map (·.node)) = before := by
  induction before generalizing w ns with
  | nil =>
      cases ns with
      | nil => simp [Walk.stages] at h
      | cons n rest =>
          cases hc : r.find? n.component with
          | none => simp [Walk.stages, hc] at h
          | some c =>
              simp only [Walk.stages, hc, List.nil_append, List.cons.injEq] at h
              obtain ⟨rfl, -⟩ := h
              exact ⟨rest, rfl, hc, rfl, rfl⟩
  | cons u before ih =>
      cases ns with
      | nil => simp [Walk.stages] at h
      | cons n rest =>
          cases hc : r.find? n.component with
          | none => simp [Walk.stages, hc] at h
          | some c =>
              cases hr : Stage.result ⟨w, n, c⟩ g with
              | error e => simp [Walk.stages, hc, hr] at h
              | ok v =>
                  obtain ⟨generated, p⟩ := v
                  rw [stages_cons hc hr, List.cons_append, List.cons.injEq] at h
                  obtain ⟨rfl, h⟩ := h
                  obtain ⟨rest, rfl, ht, hv, hs⟩ := ih h
                  refine ⟨rest, rfl, ht, ?_, ?_⟩
                  · exact visitAll_cons_eq_ok_iff.mpr ⟨c, generated, p, hc, hr, hv⟩
                  · rw [List.map_cons, stages_cons hc hr, hs]

theorem component_of_mem_walk {w : Walk} {ns : List Node} {t : Stage}
    (ht : t ∈ Walk.stages r g w ns) :
    t.node ∈ ns ∧ r.find? t.node.component = some t.component := by
  obtain ⟨before, after, hsplit⟩ := List.append_of_mem ht
  obtain ⟨rest, hns, hc, -⟩ := stages_split hsplit
  exact ⟨hns ▸ by simp, hc⟩

/-- Every fragment and every skipped node of the walk has come of one of these
stages. -/
structure Traced (g : Graph) (ts : List Stage) (w : Walk) : Prop where
  fragment : ∀ f ∈ w.fragments, ∃ t ∈ ts, ∃ code p, t.result g = .ok (.fragment code, p) ∧
    f.node = t.node.id ∧ f.outputs = p.outputs
  skipped : ∀ x ∈ w.skipped, ∃ t ∈ ts, ∃ p, t.result g = .ok (.skipped x.reason, p) ∧
    x.node = t.node.id

theorem Traced.mono {ts us : List Stage} {w : Walk} (h : Traced g ts w) (sub : ts ⊆ us) :
    Traced g us w where
  fragment f hf :=
    have ⟨t, ht, origin⟩ := h.fragment f hf
    ⟨t, sub ht, origin⟩
  skipped x hx :=
    have ⟨t, ht, origin⟩ := h.skipped x hx
    ⟨t, sub ht, origin⟩

theorem Traced.next {ts : List Stage} {t : Stage} {generated : Generated} {p : Progress}
    (h : Traced g ts t.walk) (hr : t.result g = .ok (generated, p)) :
    Traced g (ts ++ [t]) (t.next generated p) := by
  have old := h.mono (List.subset_append_left ts [t])
  have new : t ∈ ts ++ [t] := List.mem_append_right _ List.mem_cons_self
  cases generated with
  | fragment code =>
      refine ⟨fun f hf => ?_, old.skipped⟩
      rcases List.mem_append.mp hf with hf | hf
      · exact old.fragment f hf
      · cases List.mem_singleton.mp hf
        exact ⟨t, new, code, p, hr, rfl, rfl⟩
  | skipped reason =>
      refine ⟨old.fragment, fun x hx => ?_⟩
      rcases List.mem_append.mp hx with hx | hx
      · exact old.skipped x hx
      · cases List.mem_singleton.mp hx
        exact ⟨t, new, p, hr, rfl⟩

theorem traced_of_visitAll {w : Walk} {ns : List Node} (h : Walk.visitAll r g {} ns = .ok w) :
    Traced g (Walk.stages r g {} ns) w :=
  visitAll_induction h ⟨by simp, by simp⟩ fun _ _ _ _ _ traced hr => traced.next hr

/-- A walk fails at a node without a component, or at its last stage. -/
theorem of_visitAll_error {w : Walk} {ns : List Node} {e : CompileError}
    (h : Walk.visitAll r g w ns = .error e) :
    (∃ n ∈ ns, r.find? n.component = none ∧ e = .unknownComponent n.id n.component) ∨
      ∃ t ∈ Walk.stages r g w ns, t.result g = .error e := by
  induction ns generalizing w with
  | nil => cases h
  | cons n rest ih =>
      cases hc : r.find? n.component with
      | none =>
          rw [Walk.visitAll, Walk.visit, hc] at h
          cases h
          exact Or.inl ⟨n, List.mem_cons_self, hc, rfl⟩
      | some c =>
          cases hr : Stage.result ⟨w, n, c⟩ g with
          | error e' =>
              have hrun : (c.generate n.config).run (w.site g c n) (.start w.names n) =
                  .error e' := hr
              rw [Walk.visitAll, Walk.visit, hc] at h
              simp only [hrun] at h
              cases h
              refine Or.inr ⟨⟨w, n, c⟩, ?_, hr⟩
              simp [Walk.stages, hc]
          | ok v =>
              obtain ⟨generated, p⟩ := v
              have hvisit := visit_eq_ok_iff.mpr ⟨c, generated, p, hc, hr, rfl⟩
              rw [Walk.visitAll, hvisit] at h
              rw [stages_cons hc hr]
              rcases ih h with ⟨m, hm, hrest⟩ | ⟨t, ht, hrest⟩
              · exact Or.inl ⟨m, List.mem_cons_of_mem _ hm, hrest⟩
              · exact Or.inr ⟨t, List.mem_cons_of_mem _ ht, hrest⟩

end PipelineScript.Compile

namespace PipelineScript

open Compile

variable {r : Registry} {g : Graph} {header : Option String} {s : Script}

/-- The script that a walk leaves behind. -/
def Compile.Walk.script (w : Walk) (header : Option String) : Script :=
  ⟨header, w.imports.statements, w.fragments, w.skipped⟩

theorem compile_of_order {order : List Node} (h : g.order = .ok order) :
    compile r header g = (Walk.visitAll r g {} order).map (·.script header) := by
  cases hv : Walk.visitAll r g {} order with
  | error e => simp [compile, h, hv, Except.map]
  | ok w => simp [compile, h, hv, Except.map, Walk.script]

/-- A script is what a walk over the nodes in order leaves behind. -/
theorem compile_eq_ok_iff :
    compile r header g = .ok s ↔
      ∃ order w, g.order = .ok order ∧ Walk.visitAll r g {} order = .ok w ∧
        s = ⟨header, w.imports.statements, w.fragments, w.skipped⟩ := by
  cases ho : g.order with
  | error e => simp [compile, ho]
  | ok order =>
      cases hv : Walk.visitAll r g {} order with
      | error e => simp [compile, ho, hv]
      | ok w => simp [compile, ho, hv, eq_comm]

/-- Whether there is a script can be decided, unlike which error there is. -/
theorem ok_of_toOption {α ε : Type} {x : Except ε α} {a : α} (h : x.toOption = some a) :
    x = .ok a := by
  cases x with
  | error e => cases h
  | ok b => cases h; rfl

theorem stages_of_order {order : List Node} (h : g.order = .ok order) :
    stages r g = Walk.stages r g {} order := by
  simp [stages, h]

theorem order_of_mem_stages {t : Stage} (ht : t ∈ stages r g) :
    ∃ order, g.order = .ok order ∧ t ∈ Walk.stages r g {} order := by
  cases ho : g.order with
  | error e => simp [stages, ho] at ht
  | ok order => exact ⟨order, rfl, stages_of_order ho ▸ ht⟩

theorem component_of_mem_stages {t : Stage} (ht : t ∈ stages r g) :
    t.node ∈ g.nodes ∧ r.find? t.node.component = some t.component := by
  obtain ⟨order, ho, ht⟩ := order_of_mem_stages ht
  obtain ⟨hn, hc⟩ := component_of_mem_walk ht
  exact ⟨(Graph.order_perm ho).subset hn, hc⟩

theorem traced_of_mem_stages {t : Stage} (ht : t ∈ stages r g) : Traced g (stages r g) t.walk := by
  obtain ⟨order, ho, ht⟩ := order_of_mem_stages ht
  rw [stages_of_order ho]
  obtain ⟨before, after, hsplit⟩ := List.append_of_mem ht
  obtain ⟨rest, -, -, hv, hbefore⟩ := stages_split hsplit
  have traced : Traced g before t.walk := hbefore ▸ traced_of_visitAll hv
  exact traced.mono (hsplit ▸ List.subset_append_left _ _)

/-- The walk has come to the node, which is the next one. -/
def Compile.Reaches (r : Registry) (g : Graph) (n : Node) (w : Walk) : Prop :=
  ∃ before after, g.order = .ok (before ++ n :: after) ∧ Walk.visitAll r g {} before = .ok w

theorem Compile.reaches_of_mem_stages {t : Stage} (ht : t ∈ stages r g) :
    Reaches r g t.node t.walk := by
  obtain ⟨order, ho, ht⟩ := order_of_mem_stages ht
  obtain ⟨before, after, hsplit⟩ := List.append_of_mem ht
  obtain ⟨rest, hns, -, hv, -⟩ := stages_split hsplit
  exact ⟨before.map (·.node), rest, hns ▸ ho, hv⟩

/-- There is one way only for the walk to come to a node. -/
theorem Compile.Reaches.unique (distinct : g.ids.Nodup) {n : Node} {w v : Walk}
    (hw : Reaches r g n w) (hv : Reaches r g n v) : w = v := by
  obtain ⟨before, after, ho, hvisit⟩ := hw
  obtain ⟨before', after', ho', hvisit'⟩ := hv
  have nodup := (Graph.order_perm ho).nodup_iff.mpr (Graph.nodes_nodup distinct)
  have once : n ∉ before ++ after := (List.nodup_cons.mp (List.nodup_middle.mp nodup)).1
  obtain ⟨first, last⟩ := not_or.mp (mt List.mem_append.mpr once)
  have same : before ++ n :: after = before' ++ n :: after' := Except.ok.inj (ho.symm.trans ho')
  obtain ⟨rfl, -, -⟩ := (List.append_cons_inj_of_notMem first last).mp same
  exact Except.ok.inj (hvisit.symm.trans hvisit')

theorem Compile.stage_unique (distinct : g.ids.Nodup) {t u : Stage} (ht : t ∈ stages r g)
    (hu : u ∈ stages r g) (hid : t.node.id = u.node.id) : t = u := by
  obtain ⟨hn, hc⟩ := component_of_mem_stages ht
  obtain ⟨hm, hd⟩ := component_of_mem_stages hu
  have node : t.node = u.node := Graph.eq_of_id_eq distinct hn hm hid
  have walk : t.walk = u.walk :=
    Reaches.unique distinct (reaches_of_mem_stages ht) (node ▸ reaches_of_mem_stages hu)
  have component : t.component = u.component := Option.some.inj (hc.symm.trans (node ▸ hd))
  obtain ⟨w, n, c⟩ := t
  obtain ⟨v, m, d⟩ := u
  subst node walk component
  rfl

theorem of_compile_error {e : CompileError} (h : compile r header g = .error e) :
    (∃ cause, g.order = .error cause ∧ e = .noOrder cause) ∨
      (∃ n ∈ g.nodes, r.find? n.component = none ∧ e = .unknownComponent n.id n.component) ∨
      ∃ t ∈ stages r g, t.result g = .error e := by
  cases ho : g.order with
  | error cause =>
      simp only [compile, ho, Except.error.injEq] at h
      exact Or.inl ⟨cause, rfl, h.symm⟩
  | ok order =>
      cases hv : Walk.visitAll r g {} order with
      | ok w => simp [compile, ho, hv] at h
      | error e' =>
          simp only [compile, ho, hv, Except.error.injEq] at h
          cases h
          rw [stages_of_order ho]
          rcases of_visitAll_error hv with ⟨n, hn, hrest⟩ | hstage
          · exact Or.inr (Or.inl ⟨n, (Graph.order_perm ho).subset hn, hrest⟩)
          · exact Or.inr (Or.inr hstage)

end PipelineScript
