/-
# What has happened and not been undone since

A log grows at its end.  `Since` says that some entry of it has begun something
and that no later one has ended it.  To keep up with that it is enough to look at
each new entry (`since_append_iff`).
-/
import Mathlib.Data.List.Infix

namespace PipelineScript

variable {α : Type} {begins ends : α → Prop} {log : List α}

/-- An entry of the log has begun it, and no later one has ended it. -/
def Since (begins ends : α → Prop) (log : List α) : Prop :=
  ∃ before e later, log = before ++ e :: later ∧ begins e ∧ ∀ x ∈ later, ¬ ends x

theorem not_since_nil : ¬ Since begins ends ([] : List α) := by
  rintro ⟨before, e, later, h, -⟩
  simp at h

/-- How the last entry bears on it. -/
theorem since_append_iff {e : α} :
    Since begins ends (log ++ [e]) ↔ begins e ∨ (Since begins ends log ∧ ¬ ends e) := by
  constructor
  · rintro ⟨before, x, later, h, hx, hlater⟩
    rcases List.eq_nil_or_concat later with rfl | ⟨later, last, rfl⟩
    · obtain rfl := (List.cons.inj (List.append_inj_right' h rfl)).1
      exact Or.inl hx
    · rw [List.concat_eq_append] at h hlater
      rw [← List.cons_append, ← List.append_assoc] at h
      obtain ⟨hlog, hlast⟩ := List.append_inj' h rfl
      obtain rfl := (List.cons.inj hlast).1
      exact Or.inr ⟨⟨before, x, later, hlog, hx, fun y hy => hlater y (by simp [hy])⟩,
        hlater e (by simp)⟩
  · rintro (he | ⟨⟨before, x, later, rfl, hx, hlater⟩, he⟩)
    · exact ⟨log, e, [], rfl, he, by simp⟩
    · refine ⟨before, x, later ++ [e], by simp, hx, fun y hy => ?_⟩
      rcases List.mem_append.mp hy with hy | hy
      · exact hlater y hy
      · exact List.mem_singleton.mp hy ▸ he

theorem since_iff_of_endless (endless : ∀ x ∈ log, ¬ ends x) :
    Since begins ends log ↔ ∃ e ∈ log, begins e := by
  constructor
  · rintro ⟨before, e, later, rfl, he, -⟩
    exact ⟨e, List.mem_append_right _ List.mem_cons_self, he⟩
  · rintro ⟨e, hmem, he⟩
    obtain ⟨before, later, rfl⟩ := List.append_of_mem hmem
    exact ⟨before, e, later, rfl, he, fun x hx =>
      endless x (List.mem_append_right _ (List.mem_cons_of_mem _ hx))⟩

end PipelineScript
