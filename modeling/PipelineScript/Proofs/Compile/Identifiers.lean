/-
# Variables with a default base

A component that chooses no base for its variables gets the snake case of its
identity.  Whatever that identity is, the variables on the output ports of its
nodes are identifiers of the script's language, and none of the reserved names
(`default_names_identifiers`).

A new name is its base with digits behind it, so it is an identifier whatever is
taken (`isIdentifier_allocate`).  For a base that is a reserved name, `class` say,
it matters that there are digits, which is what room in the table gives.
-/
import PipelineScript.Proofs.Compile.Imports
import PipelineScript.Proofs.Compile.Uniqueness
import PipelineScript.Proofs.Text.Identifier

namespace PipelineScript

open Compile
open Text (IsIdentifier IsSnake reservedNames snakeCase)

namespace Compile.Names

variable {base : String} {names : Names}

theorem isIdentifier_allocate (snake : IsSnake base) (names : Names) :
    IsIdentifier (names.allocate base).1 := by
  obtain ⟨digits, hdigits, he⟩ := names.exists_digits base
  exact he ▸ snake.isIdentifier_append hdigits

theorem HasRoom.allocate_not_reserved (room : names.HasRoom base) :
    (names.allocate base).1 ∉ reservedNames := by
  obtain ⟨k, -, -, -, he⟩ := room.allocate
  rw [he]
  exact Text.numbered_not_reserved base k

end Compile.Names

/-- **Default bases are in snake case**, and every variable that is published
under one is an identifier.  It is no reserved name, as long as there is a free
number for every new name. -/
theorem default_names_identifiers :
    (∀ name, IsSnake (snakeCase name) ∧ snakeCase (snakeCase name) = snakeCase name) ∧
      ∀ (r : Registry) (g : Graph), ∀ t ∈ stages r g,
        t.component.variableBase = snakeCase t.component.identity →
          ∀ p ∈ t.plan.moments (t.site g) t.start, ∀ v, some v ∈ p.outputs →
            IsIdentifier v ∧ (t.Supplied g → v ∉ reservedNames) := by
  refine ⟨fun name => ⟨Text.isSnake_snakeCase name, Text.snakeCase_snakeCase name⟩, ?_⟩
  intro r g t _ default p hp v hv
  have snake : IsSnake (t.site g).base := by
    show IsSnake t.component.variableBase
    exact default ▸ Text.isSnake_snakeCase _
  have unpublished : ∀ v, some v ∉ t.start.outputs := by simp [Stage.start, Progress.start]
  constructor
  · exact Plan.outputs_of_moments False (fun names _ => names.isIdentifier_allocate snake) t.plan
      False.elim (fun v hv => absurd hv (unpublished v)) p hp v hv
  · intro supplied
    exact Plan.outputs_of_moments (P := (· ∉ reservedNames)) True
      (fun _ room => (room trivial).allocate_not_reserved) t.plan (fun _ => supplied)
      (fun v hv => absurd hv (unpublished v)) p hp v hv

/-! A component with a name that is hard on identifiers, and a node of it that
publishes. -/

def plotter : Component :=
  ({ identity := "3D-plot  (ÄClass)_", display := "Plot", category := "Test", kind := .input } :
    Scripted.Spec).component

def plotting : Graph where
  nodes := [⟨"p", "3D-plot  (ÄClass)_", bringing [] [.arr [.str "output", .int 0]], [], ["out"]⟩]
  edges := []

def plottingStage : Stage :=
  ⟨{}, ⟨"p", "3D-plot  (ÄClass)_", bringing [] [.arr [.str "output", .int 0]], [], ["out"]⟩, plotter⟩

theorem default_names_identifiers_plotting :
    snakeCase "3D-plot  (ÄClass)_" = "_3_d_plot_class" ∧ IsSnake (snakeCase "3D-plot  (ÄClass)_") ∧
      plottingStage ∈ stages ⟨[plotter]⟩ plotting ∧
      plottingStage.component.variableBase = snakeCase plottingStage.component.identity ∧
      plottingStage.Supplied plotting ∧
      ∃ p ∈ plottingStage.plan.moments (plottingStage.site plotting) plottingStage.start,
        some "_3_d_plot_class1" ∈ p.outputs ∧ IsIdentifier "_3_d_plot_class1" ∧
          "_3_d_plot_class1" ∉ reservedNames := by
  obtain ⟨shape, names⟩ := default_names_identifiers
  have member : plottingStage ∈ stages ⟨[plotter]⟩ plotting := by
    have order : plotting.order = .ok [plottingStage.node] := rfl
    have found : Registry.find? ⟨[plotter]⟩ plottingStage.node.component = some plotter := rfl
    rw [stages_of_order order, Walk.stages, found]
    exact List.mem_cons_self
  have room : ∀ names ∈ nameTables ⟨[plotter]⟩ plotting, names.size < Names.suffixLimit := by
    decide +kernel
  have supplied := supplied_of_tables room plottingStage member
  have published : ∃ p ∈ plottingStage.plan.moments (plottingStage.site plotting)
      plottingStage.start, some "_3_d_plot_class1" ∈ p.outputs := by decide +kernel
  obtain ⟨p, hp, hv⟩ := published
  obtain ⟨identifier, free⟩ := names _ _ plottingStage member rfl p hp _ hv
  exact ⟨by decide, (shape _).1, member, rfl, supplied, p, hp, hv, identifier, free supplied⟩

end PipelineScript
