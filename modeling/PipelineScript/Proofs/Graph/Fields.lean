/-
# The fields that a graph holds

A table writes its rows into one field of the configuration of one node.
Setting a field touches that field only (`fieldOnly_written`), and two different
fields of a graph may be set in either order (`written_comm`).

Of the edits of a graph only those that remove the node, or set its
configuration or that field, can change what the field holds (`stored_edit`).
-/
import PipelineScript.Proofs.Graph.Editing
import PipelineScript.Proofs.Json.Fields

namespace PipelineScript

open Json

/-- The edit neither removes the node nor overwrites the field. -/
def Edit.Spares (node field : String) : Edit → Prop
  | .removeNode id => id ≠ node
  | .setConfig id _ => id ≠ node
  | .setConfigField id f _ => (id, f) ≠ (node, field)
  | _ => True

/-- The edit gives a node this configuration as a whole. -/
def Edit.Brings (config : Json) : Edit → Prop
  | .addNode r component => ∃ c, r.find? component = some c ∧ c.defaultConfig = config
  | .insertNode n => n.config = config
  | .setConfig _ c => c = config
  | _ => False

namespace Graph

variable {g g' : Graph} {node field node' field' : String} {v v' : Json}

/-! ## Changing one node -/

section UpdateFirst
variable {id id' : String} {f f' : Node → Node}

theorem updateFirst_of_missing : ∀ {ns : List Node}, ns.find? (·.id == id) = none →
    updateFirst id f ns = ns
  | [], _ => rfl
  | n :: ns, h => by
      cases hid : n.id == id
      · rw [List.find?_cons_of_neg (by simp [hid])] at h
        simp [updateFirst, hid, updateFirst_of_missing h]
      · rw [List.find?_cons_of_pos (by simp [hid])] at h
        cases h

theorem find?_updateFirst_self (keeps : ∀ n, (f n).id = n.id) : ∀ ns : List Node,
    (updateFirst id f ns).find? (·.id == id) = (ns.find? (·.id == id)).map f
  | [] => rfl
  | n :: ns => by
      cases hid : n.id == id
      · simp [updateFirst, hid, find?_updateFirst_self keeps ns]
      · simp [updateFirst, hid, keeps]

theorem find?_updateFirst_of_ne (keeps : ∀ n, (f n).id = n.id) (hne : id' ≠ id) :
    ∀ ns : List Node, (updateFirst id f ns).find? (·.id == id') = ns.find? (·.id == id')
  | [] => rfl
  | n :: ns => by
      cases hid : n.id == id
      · simp [updateFirst, hid, List.find?_cons, find?_updateFirst_of_ne keeps hne ns]
      · have : (n.id == id') = false := by
          rw [beq_iff_eq] at hid
          simpa [hid] using hne.symm
        simp [updateFirst, hid, keeps, this]

theorem updateFirst_append {n : Node} {after : List Node} (hid : n.id = id) :
    ∀ {before : List Node}, (∀ m ∈ before, m.id ≠ id) →
      updateFirst id f (before ++ n :: after) = before ++ f n :: after
  | [], _ => by simp [updateFirst, hid]
  | m :: before, others => by
      obtain ⟨hm, others⟩ := List.forall_mem_cons.mp others
      simp [updateFirst, hm, updateFirst_append hid others]

theorem updateFirst_comm (keeps : ∀ n, (f n).id = n.id) (keeps' : ∀ n, (f' n).id = n.id)
    (comm : id = id' → ∀ n, f' (f n) = f (f' n)) : ∀ ns : List Node,
    updateFirst id' f' (updateFirst id f ns) = updateFirst id f (updateFirst id' f' ns)
  | [] => rfl
  | n :: ns => by
      cases hid : n.id == id <;> cases hid' : n.id == id'
      · simp [updateFirst, hid, hid', updateFirst_comm keeps keeps' comm ns]
      · simp [updateFirst, hid, hid', keeps']
      · simp [updateFirst, hid, hid', keeps]
      · have same : id = id' := (beq_iff_eq.mp hid).symm.trans (beq_iff_eq.mp hid')
        simp only [updateFirst, hid, hid', keeps, keeps', comm same, if_true]

end UpdateFirst

/-! ## Setting a field -/

/-- What the field of a node holds. -/
def stored (g : Graph) (node field : String) : Option Json :=
  (g.node? node).bind (·.config.field? field)

/-- The node with one field of its configuration set. -/
def withField (field : String) (v : Json) (n : Node) : Node :=
  { n with config := n.config.setField field v }

/-- The graph with one field of a configuration set, if there is such a node. -/
def written (g : Graph) (node field : String) (v : Json) : Graph :=
  { g with nodes := updateFirst node (withField field v) g.nodes }

@[simp] theorem withField_id (n : Node) : (withField field v n).id = n.id :=
  rfl

theorem run_setConfigField :
    (setConfigField node field v).run g =
      if g.contains node then .ok () (g.written node field v) else .error (.missingNode node) g := by
  by_cases h : g.contains node
  · rw [if_pos h]
    exact updateNode_eq_ok_iff.mpr ⟨contains_iff.mp h, rfl⟩
  · simp [setConfigField, updateNode, h]

theorem written_of_missing (missing : ¬ g.contains node = true) :
    g.written node field v = g := by
  have missing : g.nodes.find? (·.id == node) = none := by simpa [contains, node?] using missing
  rw [written, updateFirst_of_missing missing]

theorem node?_written_self :
    (g.written node field v).node? node = (g.node? node).map (withField field v) :=
  find?_updateFirst_self withField_id g.nodes

theorem node?_written_of_ne (hne : node' ≠ node) :
    (g.written node field v).node? node' = g.node? node' :=
  find?_updateFirst_of_ne withField_id hne g.nodes

theorem contains_of_stored (h : g.stored node field = some v) : g.contains node = true := by
  obtain ⟨n, hn, -⟩ := Option.bind_eq_some_iff.mp h
  rw [contains, hn, Option.isSome_some]

theorem stored_written_self (h : g.contains node = true) :
    (g.written node field v).stored node field = some v := by
  obtain ⟨n, hn⟩ := Option.isSome_iff_exists.mp h
  rw [stored, node?_written_self, hn]
  exact field?_setField_self

theorem stored_written_of_ne (hne : (node', field') ≠ (node, field)) :
    (g.written node field v).stored node' field' = g.stored node' field' := by
  by_cases h : node' = node
  · subst h
    have hne : field' ≠ field := fun he => hne (by rw [he])
    rw [stored, stored, node?_written_self]
    cases g.node? node' with
    | none => rfl
    | some n => exact field?_setField_of_ne hne
  · rw [stored, stored, node?_written_of_ne h]

theorem written_comm (hne : (node, field) ≠ (node', field')) :
    (g.written node field v).written node' field' v' =
      (g.written node' field' v').written node field v := by
  refine congrArg (Graph.mk · g.edges) (updateFirst_comm withField_id withField_id ?_ g.nodes)
  rintro rfl n
  have hne : field ≠ field' := fun he => hne (by rw [he])
  exact congrArg (Node.mk n.id n.component · n.inputs n.outputs) (setField_comm hne)

/-- The graphs differ at most in one field of the first node of an id. -/
structure FieldOnly (g g' : Graph) (node field : String) : Prop where
  edges : g'.edges = g.edges
  nodes : g'.nodes = g.nodes ∨ ∃ before n after config, g.nodes = before ++ n :: after ∧
    (∀ m ∈ before, m.id ≠ node) ∧ n.id = node ∧
    g'.nodes = before ++ { n with config } :: after ∧
    ∀ other ≠ field, config.field? other = n.config.field? other

theorem fieldOnly_refl : FieldOnly g g node field :=
  ⟨rfl, Or.inl rfl⟩

theorem fieldOnly_written : FieldOnly g (g.written node field v) node field := by
  by_cases h : g.contains node = true
  · obtain ⟨n, hn⟩ := Option.isSome_iff_exists.mp h
    obtain ⟨hid, before, after, split, others⟩ := List.find?_eq_some_iff_append.mp hn
    have hid : n.id = node := by simpa using hid
    have others : ∀ m ∈ before, m.id ≠ node := fun m hm => by simpa using others m hm
    refine ⟨rfl, Or.inr ⟨before, n, after, n.config.setField field v, split, others, hid, ?_, ?_⟩⟩
    · rw [written, split, updateFirst_append hid others]
      rfl
    · exact fun other hne => field?_setField_of_ne hne
  · rw [written_of_missing h]
    exact fieldOnly_refl

/-! ## All edits -/

def withConfig (config : Json) (n : Node) : Node :=
  { n with config }

theorem withConfig_id (config : Json) (n : Node) : (withConfig config n).id = n.id :=
  rfl

/-- What an edit makes of the nodes. -/
inductive Reshaped : Edit → List Node → List Node → Prop where
  | same {e ns} : Reshaped e ns ns
  | new {e ns} (n : Node) (brings : e.Brings n.config) : Reshaped e ns (ns ++ [n])
  | removed {ns} (id : String) : Reshaped (.removeNode id) ns (ns.eraseP (·.id == id))
  | config {ns} (id : String) (config : Json) :
      Reshaped (.setConfig id config) ns (updateFirst id (withConfig config) ns)
  | field {ns} (id field : String) (v : Json) :
      Reshaped (.setConfigField id field v) ns (updateFirst id (withField field v) ns)

theorem attempt_reshaped {e : Edit} {answer : Edit.Answer}
    (h : (attempt e).run g = .ok answer g') : Reshaped e g.nodes g'.nodes := by
  cases e with
  | addNode r component =>
      obtain ⟨id, done⟩ := exists_of_answer h
      obtain ⟨c, hc, -, rfl⟩ := addNode_eq_ok_iff.mp done
      exact .new _ ⟨c, hc, rfl⟩
  | insertNode n =>
      obtain ⟨_, done⟩ := exists_of_answer h
      obtain ⟨-, rfl⟩ := insertNode_eq_ok_iff.mp done
      exact .new n rfl
  | removeNode id =>
      obtain ⟨n, done⟩ := exists_of_answer h
      obtain ⟨-, rfl⟩ := removeNode_eq_ok_iff.mp done
      exact .removed id
  | connect source sourcePort target targetPort =>
      obtain ⟨_, done⟩ := exists_of_answer h
      obtain ⟨-, -, rfl⟩ := connect_eq_ok_iff.mp done
      exact .same
  | link source target =>
      obtain ⟨_, done⟩ := exists_of_answer h
      obtain ⟨_, _, done⟩ := exists_connect_of_link done
      obtain ⟨-, -, rfl⟩ := connect_eq_ok_iff.mp done
      exact .same
  | disconnect source target =>
      obtain ⟨k, done⟩ := exists_of_answer h
      obtain ⟨k', done'⟩ := run_disconnect source target
      cases done'.symm.trans done
      exact .same
  | setConfig id config =>
      obtain ⟨_, done⟩ := exists_of_answer h
      obtain ⟨-, rfl⟩ := updateNode_eq_ok_iff.mp done
      exact .config id config
  | setConfigField id field v =>
      obtain ⟨_, done⟩ := exists_of_answer h
      obtain ⟨-, rfl⟩ := updateNode_eq_ok_iff.mp done
      exact .field id field v

theorem edit_reshaped (g : Graph) (e : Edit) : Reshaped e g.nodes (g.edit e).2.nodes := by
  rcases g.edit_cases e with same | ⟨answer, h⟩
  · exact same.symm ▸ .same
  · exact attempt_reshaped h

theorem find?_eraseP_of_ne {id : String} (hne : id ≠ node) : ∀ ns : List Node,
    (ns.eraseP (·.id == id)).find? (·.id == node) = ns.find? (·.id == node)
  | [] => rfl
  | n :: ns => by
      cases hid : n.id == id
      · simp [hid, List.find?_cons, find?_eraseP_of_ne hne ns]
      · have : n.id ≠ node := fun h => hne ((beq_iff_eq.mp hid).symm.trans h)
        simp [hid, this]

/-- An edit that spares a field leaves there what it holds. -/
theorem stored_edit {e : Edit} (spares : e.Spares node field)
    (h : g.stored node field = some v) : (g.edit e).2.stored node field = some v := by
  obtain ⟨n, hn, hv⟩ := Option.bind_eq_some_iff.mp h
  have hn : g.nodes.find? (·.id == node) = some n := hn
  suffices ∃ m, (g.edit e).2.nodes.find? (·.id == node) = some m ∧
      m.config.field? field = some v from Option.bind_eq_some_iff.mpr this
  have reshaped := edit_reshaped g e
  generalize (g.edit e).2.nodes = ns at reshaped ⊢
  cases reshaped with
  | same => exact ⟨n, hn, hv⟩
  | new m => exact ⟨n, by rw [List.find?_append, hn]; rfl, hv⟩
  | removed id => exact ⟨n, (find?_eraseP_of_ne spares _).trans hn, hv⟩
  | config id config =>
      refine ⟨n, Eq.trans ?_ hn, hv⟩
      exact find?_updateFirst_of_ne (withConfig_id config) (Ne.symm spares) g.nodes
  | field id f w =>
      by_cases hid : id = node
      · subst hid
        refine ⟨withField f w n, ?_, ?_⟩
        · rw [find?_updateFirst_self withField_id, hn]
          rfl
        · have hne : field ≠ f := fun he => spares (by rw [he])
          exact (field?_setField_of_ne hne).trans hv
      · exact ⟨n, (find?_updateFirst_of_ne withField_id (Ne.symm hid) _).trans hn, hv⟩

/-! ## Fields in order -/

/-- The top-level fields of all configurations stand in order. -/
def Ordered (g : Graph) : Prop :=
  ∀ n ∈ g.nodes, n.config.Ordered

theorem mem_updateFirst {id : String} {f : Node → Node} {m : Node} : ∀ {ns : List Node},
    m ∈ updateFirst id f ns → m ∈ ns ∨ ∃ n ∈ ns, m = f n
  | n :: ns, h => by
      unfold updateFirst at h
      split at h
      · rcases List.mem_cons.mp h with rfl | h
        · exact Or.inr ⟨n, List.mem_cons_self, rfl⟩
        · exact Or.inl (List.mem_cons_of_mem _ h)
      · rcases List.mem_cons.mp h with rfl | h
        · exact Or.inl List.mem_cons_self
        · rcases mem_updateFirst h with h | ⟨d, hd, rfl⟩
          · exact Or.inl (List.mem_cons_of_mem _ h)
          · exact Or.inr ⟨d, List.mem_cons_of_mem _ hd, rfl⟩

theorem Ordered.written (ordered : g.Ordered) : (g.written node field v).Ordered := by
  intro m hm
  rcases mem_updateFirst hm with h | ⟨n, hn, rfl⟩
  · exact ordered m h
  · exact (ordered n hn).setField

theorem Ordered.edit (ordered : g.Ordered) {e : Edit}
    (brings : ∀ config, e.Brings config → config.Ordered) : (g.edit e).2.Ordered := by
  intro m hm
  have reshaped := edit_reshaped g e
  generalize (g.edit e).2.nodes = ns at reshaped hm
  cases reshaped with
  | same => exact ordered m hm
  | new n hbrings =>
      rcases List.mem_append.mp hm with hm | hm
      · exact ordered m hm
      · exact List.mem_singleton.mp hm ▸ brings _ hbrings
  | removed id => exact ordered m (List.mem_of_mem_eraseP hm)
  | config id config =>
      rcases mem_updateFirst hm with hm | ⟨n, hn, rfl⟩
      · exact ordered m hm
      · exact brings config rfl
  | field id f w =>
      rcases mem_updateFirst hm with hm | ⟨n, hn, rfl⟩
      · exact ordered m hm
      · exact (ordered n hn).setField

end Graph

end PipelineScript
