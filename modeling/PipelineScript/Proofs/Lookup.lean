/-
# Lookups

What is found under a key is the value of an entry (`mem_of_lookup`), and of
every entry if no key comes twice (`lookup_eq_some_iff_mem`).  Under the key of an
entry something is found in any case (`exists_lookup`).  Entries under other keys
may come and go (`lookup_cons_of_ne`, `lookup_filter`).
-/
import Mathlib.Data.List.Nodup

namespace PipelineScript

variable {κ α : Type} [BEq κ] [LawfulBEq κ] {key other : κ} {v : α} {es : List (κ × α)}

theorem mem_of_lookup (h : es.lookup key = some v) : (key, v) ∈ es := by
  obtain ⟨before, after, hsplit, -⟩ := List.lookup_eq_some_iff.mp h
  exact hsplit ▸ List.mem_append_right before List.mem_cons_self

theorem exists_lookup (h : key ∈ es.map Prod.fst) : ∃ v, es.lookup key = some v := by
  obtain ⟨⟨_, v⟩, hmem, rfl⟩ := List.mem_map.mp h
  cases hl : es.lookup _ with
  | none => simpa using List.lookup_eq_none_iff.mp hl _ hmem
  | some u => exact ⟨u, rfl⟩

theorem lookup_eq_some_iff_mem (distinct : (es.map Prod.fst).Nodup) :
    es.lookup key = some v ↔ (key, v) ∈ es := by
  refine ⟨mem_of_lookup, fun hmem => ?_⟩
  obtain ⟨u, hl⟩ := exists_lookup (List.mem_map_of_mem hmem)
  have same := List.inj_on_of_nodup_map distinct hmem (mem_of_lookup hl) rfl
  rw [hl, (Prod.mk.inj same).2]

theorem filter_key_of_mem (distinct : (es.map Prod.fst).Nodup) (h : (key, v) ∈ es) :
    es.filter (fun e => e.1 == key) = [(key, v)] := by
  obtain ⟨before, after, rfl⟩ := List.append_of_mem h
  rw [List.map_append, List.map_cons] at distinct
  obtain ⟨first, last⟩ := not_or.mp
    (mt List.mem_append.mpr (List.nodup_cons.mp (List.nodup_middle.mp distinct)).1)
  have none : ∀ {es : List (κ × α)}, key ∉ es.map Prod.fst →
      es.filter (fun e => e.1 == key) = [] := by
    intro es absent
    refine List.filter_eq_nil_iff.mpr fun e he same => absent ?_
    exact List.mem_map.mpr ⟨e, he, eq_of_beq same⟩
  rw [List.filter_append, List.filter_cons, if_pos (beq_self_eq_true key), none first, none last,
    List.nil_append]

theorem lookup_cons_of_ne (h : key ≠ other) : ((other, v) :: es).lookup key = es.lookup key := by
  rw [List.lookup_cons, beq_eq_false_iff_ne.mpr h]

theorem lookup_filter (keep : κ → Bool) (key : κ) (es : List (κ × α)) :
    (es.filter fun e => keep e.1).lookup key = if keep key then es.lookup key else none := by
  induction es with
  | nil => simp
  | cons e es ih =>
      obtain ⟨other, v⟩ := e
      by_cases same : key = other
      · subst same
        by_cases hk : keep key <;> simp [hk, ih]
      · by_cases hk : keep other <;> simp [hk, lookup_cons_of_ne same, ih]

end PipelineScript
