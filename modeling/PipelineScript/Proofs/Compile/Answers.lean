/-
# What a plan is told, and what it leaves

A plan changes the progress of its node by two questions only: for a new
variable, and for the variable of an output port that has none yet.  So an
invariant of the progress that these two keep holds at all `moments` of the plan
(`moments_invariant`), and when it is done (`run_invariant`).  Some are kept only
while there is room in the table of names: a plan is `Supplied` if there is,
whenever it asks for a new name.  This is so if the tables on the way, one for
each of the moments, are small enough (`supplied_of_moments`).

`handed` lists the names that the plan is told, each once: the record
`allocated`, from which a skipped node's names are given back, is this list
(`run_allocated`).
-/
import PipelineScript.Compile.Context
import PipelineScript.Proofs.Compile.Names

namespace PipelineScript

open Compile

namespace Plan

variable {α : Type}

/-- Every progress that a plan goes through. -/
def moments (site : Site) : Plan α → Progress → List Progress
  | .done _, p => [p]
  | .fail _, p => [p]
  | .input port next, p => moments site (next (site.input port)) p
  | .output port next, p =>
    p :: moments site (next (site.output port p).1) (site.output port p).2
  | .fresh base next, p =>
    p :: moments site (next (Site.fresh base p).1) (Site.fresh base p).2
  | .isTaken name next, p => moments site (next (p.names.isTaken name)) p
  | .inputCount next, p => moments site (next site.feeds.length) p
  | .nodeId next, p => moments site (next site.node.id) p

/-- There is room each time the plan asks for a new name. -/
def Supplied (site : Site) : Plan α → Progress → Prop
  | .done _, _ => True
  | .fail _, _ => True
  | .input port next, p => Supplied site (next (site.input port)) p
  | .output port next, p =>
    (p.outputs[port]? = some none → p.names.HasRoom site.base) ∧
      Supplied site (next (site.output port p).1) (site.output port p).2
  | .fresh base next, p =>
    p.names.HasRoom base ∧ Supplied site (next (Site.fresh base p).1) (Site.fresh base p).2
  | .isTaken name next, p => Supplied site (next (p.names.isTaken name)) p
  | .inputCount next, p => Supplied site (next site.feeds.length) p
  | .nodeId next, p => Supplied site (next site.node.id) p

/-- The name that an output port is given on its first use. -/
def firstUse (p : Progress) (port : Nat) : Except CompileError String → List String
  | .ok name => if p.outputs[port]? = some none then [name] else []
  | .error _ => []

/-- The names that a plan is told, in order: the variable of an output port
on its first use, and every variable for use within the node. -/
def handed (site : Site) : Plan α → Progress → List String
  | .done _, _ => []
  | .fail _, _ => []
  | .input port next, p => handed site (next (site.input port)) p
  | .output port next, p =>
    firstUse p port (site.output port p).1 ++
      handed site (next (site.output port p).1) (site.output port p).2
  | .fresh base next, p =>
    (Site.fresh base p).1 :: handed site (next (Site.fresh base p).1) (Site.fresh base p).2
  | .isTaken name next, p => handed site (next (p.names.isTaken name)) p
  | .inputCount next, p => handed site (next site.feeds.length) p
  | .nodeId next, p => handed site (next site.node.id) p

end Plan

/-! ## The two questions that change something -/

namespace Compile

theorem fresh_eq (base : String) (p : Progress) :
    Site.fresh base p =
      ((p.names.allocate base).1,
        { p with
          names := (p.names.allocate base).2
          allocated := p.allocated ++ [(p.names.allocate base).1] }) :=
  rfl

section Output
variable (site : Site) {port : Nat} {p : Progress}

theorem output_of_missing (h : p.outputs[port]? = none) :
    site.output port p = (.error (.invalid site.node.id (.noOutputPort port)), p) := by
  simp [Site.output, h]

theorem output_of_some {name : String} (h : p.outputs[port]? = some (some name)) :
    site.output port p = (.ok name, p) := by
  simp [Site.output, h]

theorem output_of_none (h : p.outputs[port]? = some none) :
    site.output port p =
      (.ok (p.names.allocate site.base).1,
        { (Site.fresh site.base p).2 with
          outputs := p.outputs.set port (some (p.names.allocate site.base).1) }) := by
  simp [Site.output, h, fresh_eq]

end Output

end Compile

/-! ## Runs -/

namespace Plan

variable {α : Type} {site : Site}

theorem run_output (port : Nat) (next : Except CompileError String → Plan α) (p : Progress) :
    (output port next).run site p =
      (next (site.output port p).1).run site (site.output port p).2 :=
  rfl

theorem run_fresh (base : String) (next : String → Plan α) (p : Progress) :
    (fresh base next).run site p =
      (next (Site.fresh base p).1).run site (Site.fresh base p).2 :=
  rfl

theorem supplied_of_moments (plan : Plan α) {p : Progress}
    (room : ∀ q ∈ plan.moments site p, q.names.size < Names.suffixLimit) :
    plan.Supplied site p := by
  induction plan generalizing p with
  | done a => trivial
  | fail e => trivial
  | input port next ih => exact ih _ room
  | output port next ih =>
      exact ⟨fun _ => Names.hasRoom_of_size (room p List.mem_cons_self) _,
        ih _ fun q hq => room q (List.mem_cons_of_mem _ hq)⟩
  | fresh base next ih =>
      exact ⟨Names.hasRoom_of_size (room p List.mem_cons_self) _,
        ih _ fun q hq => room q (List.mem_cons_of_mem _ hq)⟩
  | isTaken name next ih => exact ih _ room
  | inputCount next ih => exact ih _ room
  | nodeId next ih => exact ih _ room

theorem mem_moments_of_run : ∀ {plan : Plan α} {p p' : Progress} {a : α},
    plan.run site p = .ok (a, p') → p' ∈ plan.moments site p := by
  intro plan
  induction plan with
  | done b =>
      intro p p' a h
      cases h
      exact List.mem_singleton_self _
  | fail e =>
      intro p p' a h
      cases h
  | output port next ih =>
      intro p p' a h
      exact List.mem_cons_of_mem _ (ih _ h)
  | fresh base next ih =>
      intro p p' a h
      exact List.mem_cons_of_mem _ (ih _ h)
  | input _ next ih | isTaken _ next ih | inputCount next ih | nodeId next ih =>
      intro p p' a h
      exact ih _ h

/-- An invariant that the two questions keep holds at every moment of a plan.
Where it is kept only while there is room, the plan has to be supplied. -/
theorem moments_invariant {I : Progress → Prop} (needed : Prop)
    (fresh : ∀ q base, (needed → q.names.HasRoom base) → I q → I (Site.fresh base q).2)
    (output : ∀ q port, (needed → q.outputs[port]? = some none → q.names.HasRoom site.base) →
      I q → I (site.output port q).2) :
    ∀ (plan : Plan α) {p : Progress}, (needed → plan.Supplied site p) → I p →
      ∀ q ∈ plan.moments site p, I q := by
  intro plan
  induction plan with
  | done _ | fail _ =>
      intro p _ hp
      exact List.forall_mem_singleton.mpr hp
  | output port next ih =>
      intro p supplied hp
      have kept := output p port (fun hn => (supplied hn).1) hp
      exact List.forall_mem_cons.mpr ⟨hp, ih _ (fun hn => (supplied hn).2) kept⟩
  | fresh base next ih =>
      intro p supplied hp
      have kept := fresh p base (fun hn => (supplied hn).1) hp
      exact List.forall_mem_cons.mpr ⟨hp, ih _ (fun hn => (supplied hn).2) kept⟩
  | input _ next ih | isTaken _ next ih | inputCount next ih | nodeId next ih =>
      intro p
      exact ih _

theorem run_invariant {I : Progress → Prop} (needed : Prop) {a : α}
    (fresh : ∀ q base, (needed → q.names.HasRoom base) → I q → I (Site.fresh base q).2)
    (output : ∀ q port, (needed → q.outputs[port]? = some none → q.names.HasRoom site.base) →
      I q → I (site.output port q).2) (plan : Plan α) {p p' : Progress}
    (h : plan.run site p = .ok (a, p')) (supplied : needed → plan.Supplied site p) (hp : I p) :
    I p' :=
  moments_invariant needed fresh output plan supplied hp p' (mem_moments_of_run h)

/-- What holds of every new name with the base of a node holds of the variables
on its output ports. -/
theorem outputs_of_moments {P : String → Prop} (needed : Prop)
    (new : ∀ names : Names, (needed → names.HasRoom site.base) → P (names.allocate site.base).1)
    (plan : Plan α) {p : Progress} (supplied : needed → plan.Supplied site p)
    (before : ∀ v, some v ∈ p.outputs → P v) :
    ∀ q ∈ plan.moments site p, ∀ v, some v ∈ q.outputs → P v := by
  refine moments_invariant (I := fun q => ∀ v, some v ∈ q.outputs → P v) needed
    (fun _ _ _ hq => hq) (fun q port room hq => ?_) plan supplied before
  cases hp : q.outputs[port]? with
  | none => rwa [output_of_missing site hp]
  | some slot =>
      cases slot with
      | some name => rwa [output_of_some site hp]
      | none =>
          rw [output_of_none site hp]
          intro v hv
          rcases List.mem_or_eq_of_mem_set hv with hv | hv
          · exact hq v hv
          · cases hv
            exact new q.names fun hn => room hn hp

theorem outputs_length_output (port : Nat) (p : Progress) :
    (site.output port p).2.outputs.length = p.outputs.length := by
  cases h : p.outputs[port]? with
  | none => rw [output_of_missing site h]
  | some slot =>
      cases slot with
      | none => rw [output_of_none site h]; simp
      | some name => rw [output_of_some site h]

theorem run_outputs_length {plan : Plan α} {p p' : Progress} {a : α}
    (h : plan.run site p = .ok (a, p')) : p'.outputs.length = p.outputs.length :=
  run_invariant (I := fun q => q.outputs.length = p.outputs.length) False
    (fun _ _ _ hq => hq) (fun q port _ hq => (outputs_length_output port q).trans hq) plan h
    False.elim rfl

theorem allocated_output (port : Nat) (p : Progress) :
    (site.output port p).2.allocated =
      p.allocated ++ firstUse p port (site.output port p).1 := by
  cases h : p.outputs[port]? with
  | none => rw [output_of_missing site h]; simp [firstUse]
  | some slot =>
      cases slot with
      | none => rw [output_of_none site h]; simp [firstUse, fresh_eq, h]
      | some name => rw [output_of_some site h]; simp [firstUse, h]

/-- The names on record are those the plan was told. -/
theorem run_allocated : ∀ {plan : Plan α} {p p' : Progress} {a : α},
    plan.run site p = .ok (a, p') → p'.allocated = p.allocated ++ plan.handed site p := by
  intro plan
  induction plan with
  | done b =>
      intro p p' a h
      cases h
      simp [handed]
  | fail e =>
      intro p p' a h
      cases h
  | input port next ih =>
      intro p p' a h
      exact ih _ h
  | output port next ih =>
      intro p p' a h
      rw [run_output] at h
      rw [ih _ h, allocated_output, List.append_assoc]
      rfl
  | fresh base next ih =>
      intro p p' a h
      rw [run_fresh] at h
      rw [ih _ h, handed, fresh_eq, List.append_assoc]
      rfl
  | isTaken name next ih =>
      intro p p' a h
      exact ih _ h
  | inputCount next ih =>
      intro p p' a h
      exact ih _ h
  | nodeId next ih =>
      intro p p' a h
      exact ih _ h

end Plan

end PipelineScript
