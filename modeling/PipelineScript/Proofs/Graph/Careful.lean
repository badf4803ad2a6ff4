/-
# Edits that are refused

An editor is a program over the graph, which a refusal may catch in the middle.
That it leaves the graph as it was (`Careful`) has the same reason in each of
them: it looks at all that it needs before it changes anything (`Looks`), and
from then on it is never refused (`Passes`).  Two lemmas put that together, one
for each side of the first change (`Looks.bind`, `Careful.bind`).

What has only looked has left the graph alone also when it succeeds, so a
successful run can be followed step by step (`Looks.exists_of_run_bind`).
-/
import PipelineScript.Graph.Edit

namespace PipelineScript.Graph

variable {α β : Type} {g g' : Graph} {m : Editing α} {f : α → Editing β}

theorem exists_of_run_bind {b : β} (h : (m >>= f).run g = .ok b g') :
    ∃ a h, m.run g = .ok a h ∧ (f a).run h = .ok b g' := by
  rw [EStateM.run_bind] at h
  cases hm : m.run g with
  | ok a g₁ => exact ⟨a, g₁, rfl, by rwa [hm] at h⟩
  | error e g₁ => rw [hm] at h; cases h

@[simp] theorem run_throw (e : GraphError) : (throw e : Editing α).run g = .error e g :=
  rfl

@[simp] theorem run_require {holds : Bool} {otherwise : GraphError} :
    (require holds otherwise).run g = if holds then .ok () g else .error otherwise g := by
  cases holds <;> rfl

theorem getNode_of_some {id : String} {n : Node} (h : g.node? id = some n) :
    (getNode id).run g = .ok n g := by
  simp [getNode, h]

theorem getNode_of_none {id : String} (h : g.node? id = none) :
    (getNode id).run g = .error (.missingNode id) g := by
  simp [getNode, h]

/-- It only looks at the graph. -/
def Looks (m : Editing α) : Prop :=
  ∀ g, (∃ a, m.run g = .ok a g) ∨ ∃ e, m.run g = .error e g

/-- It is never refused. -/
def Passes (m : Editing α) : Prop :=
  ∀ g, ∃ a g', m.run g = .ok a g'

/-- If it is refused, the graph is as it was. -/
def Careful (m : Editing α) : Prop :=
  ∀ g e g', m.run g = .error e g' → g' = g

theorem looks_get : Looks get :=
  fun g => Or.inl ⟨g, rfl⟩

theorem passes_get : Passes get :=
  fun g => ⟨g, g, rfl⟩

theorem looks_throw (e : GraphError) : Looks (throw e : Editing α) :=
  fun _ => Or.inr ⟨e, rfl⟩

theorem looks_require (holds : Bool) (otherwise : GraphError) :
    Looks (require holds otherwise) := by
  cases holds with
  | true => exact fun _ => Or.inl ⟨⟨⟩, rfl⟩
  | false => exact looks_throw otherwise

theorem passes_pure (a : α) : Passes (pure a) :=
  fun g => ⟨a, g, rfl⟩

theorem passes_modify (f : Graph → Graph) : Passes (modify f) :=
  fun g => ⟨⟨⟩, f g, rfl⟩

theorem Passes.bind (h : Passes m) (hf : ∀ a, Passes (f a)) : Passes (m >>= f) := by
  intro g
  obtain ⟨a, g₁, ha⟩ := h g
  obtain ⟨b, g₂, hb⟩ := hf a g₁
  exact ⟨b, g₂, by rw [EStateM.run_bind, ha]; exact hb⟩

theorem Looks.exists_of_run_bind {b : β} (h : Looks m) (hb : (m >>= f).run g = .ok b g') :
    ∃ a, m.run g = .ok a g ∧ (f a).run g = .ok b g' := by
  obtain ⟨a, g₁, ha, hb⟩ := Graph.exists_of_run_bind hb
  rcases h g with ⟨a', ha'⟩ | ⟨e, he⟩
  · cases ha'.symm.trans ha
    exact ⟨a, ha, hb⟩
  · cases he.symm.trans ha

theorem Passes.careful (h : Passes m) : Careful m := by
  intro g e g' he
  obtain ⟨a, g₁, ha⟩ := h g
  cases ha.symm.trans he

theorem Looks.careful (h : Looks m) : Careful m := by
  intro g e g' he
  rcases h g with ⟨a, ha⟩ | ⟨e', he'⟩
  · cases ha.symm.trans he
  · cases he'.symm.trans he
    rfl

/-- What has only looked so far may go on with care. -/
theorem Looks.bind (h : Looks m) (hf : ∀ a, Careful (f a)) : Careful (m >>= f) := by
  intro g e g' he
  rw [EStateM.run_bind] at he
  rcases h g with ⟨a, ha⟩ | ⟨e', he'⟩
  · rw [ha] at he
    exact hf a g e g' he
  · rw [he'] at he
    cases he
    rfl

/-- After a careful step, nothing may be refused. -/
theorem Careful.bind (h : Careful m) (hf : ∀ a, Passes (f a)) : Careful (m >>= f) := by
  intro g e g' he
  rw [EStateM.run_bind] at he
  cases hm : m.run g with
  | ok a g₁ =>
      rw [hm] at he
      obtain ⟨b, g₂, hb⟩ := hf a g₁
      cases hb.symm.trans he
  | error e' g₁ =>
      rw [hm] at he
      cases he
      exact h g e g' hm

/-! ## The editors -/

theorem looks_getNode (id : String) : Looks (getNode id) := by
  intro g
  cases h : g.node? id with
  | some n => exact Or.inl ⟨n, getNode_of_some h⟩
  | none => exact Or.inr ⟨.missingNode id, getNode_of_none h⟩

theorem looks_firstPort (n : Node) (side : Side) : Looks (firstPort n side) := by
  intro g
  cases h : n.ports side with
  | cons port _ => exact Or.inl ⟨port, by simp [firstPort, h]⟩
  | nil => exact Or.inr ⟨.missingPort n.id side "0", by simp [firstPort, h]⟩

theorem careful_addNode (r : Registry) (component : String) : Careful (addNode r component) := by
  unfold addNode
  split
  · exact (looks_throw _).careful
  · exact looks_get.bind fun g => ((passes_modify _).bind fun _ => passes_pure _).careful

theorem careful_insertNode (n : Node) : Careful (insertNode n) :=
  looks_get.bind fun _ => (looks_require _ _).bind fun _ => (passes_modify _).careful

theorem careful_removeNode (id : String) : Careful (removeNode id) :=
  (looks_getNode id).bind fun _ =>
    ((passes_modify _).bind fun _ => (passes_modify _).bind fun _ => passes_pure _).careful

theorem careful_connect (source sourcePort target targetPort : String) :
    Careful (connect source sourcePort target targetPort) :=
  (looks_getNode source).bind fun _ => (looks_require _ _).bind fun _ =>
    (looks_getNode target).bind fun _ => (looks_require _ _).bind fun _ =>
      ((passes_modify _).bind fun _ => passes_modify _).careful

theorem careful_link (source target : String) : Careful (link source target) :=
  (looks_getNode source).bind fun _ => (looks_firstPort _ _).bind fun _ =>
    (looks_getNode target).bind fun _ => (looks_firstPort _ _).bind fun _ =>
      careful_connect _ _ _ _

theorem passes_disconnect (source target : String) : Passes (disconnect source target) :=
  passes_get.bind fun _ => (passes_modify _).bind fun _ => passes_get.bind fun _ => passes_pure _

theorem careful_updateNode (id : String) (f : Node → Node) : Careful (updateNode id f) :=
  looks_get.bind fun _ => (looks_require _ _).bind fun _ => (passes_modify _).careful

end PipelineScript.Graph
