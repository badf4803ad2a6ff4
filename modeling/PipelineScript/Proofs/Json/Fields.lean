/-
# Setting and reading the fields of objects

A field that is set is found, and the other fields are left alone; two
different fields may be set in either order.

The entries of an object stand in the order of their keys (`Ordered`), and
setting fields keeps them so.  Then each key stands there once, so that a
record finds its members and none of them twice, and the entries are known by
what is found in them (`Ordered.ext`).  Hence entries that have been laid over
others may be laid over them again (`Ordered.overlay_again`).
-/
import Mathlib.Data.String.Basic
import PipelineScript.Json.Decode
import PipelineScript.Proofs.Lookup

namespace PipelineScript.Json

namespace Entries

variable {es : Entries} {k k' : String} {v v' : Json}

theorem get?_cons {e : String × Json} :
    get? (e :: es) k = if k = e.1 then some e.2 else es.get? k := by
  obtain ⟨a, w⟩ := e
  by_cases h : k = a
  · simp [get?, h]
  · simp [get?, List.lookup_cons, beq_false_of_ne h, h]

theorem get?_put_self : (es.put k v).get? k = some v := by
  induction es with
  | nil => simp [put, get?_cons]
  | cons e es ih =>
      simp only [put]
      split
      · simp [get?_cons]
      · split <;> simp_all [get?_cons]

theorem get?_put_of_ne (hne : k' ≠ k) : (es.put k v).get? k' = es.get? k' := by
  induction es with
  | nil => simp [put, get?_cons, hne]
  | cons e es ih =>
      simp only [put]
      split
      · simp_all [get?_cons]
      · split <;> simp [get?_cons, hne, ih]

theorem put_comm (hne : k ≠ k') : (es.put k v).put k' v' = (es.put k' v').put k v := by
  induction es with
  | nil => rcases lt_or_gt_of_ne hne with h | h <;> simp [put, hne, hne.symm, h, h.not_gt]
  | cons e es ih =>
      -- each key stands before the first one, is it, or goes further
      rcases lt_trichotomy k e.1 with h | h | h <;> rcases lt_trichotomy k' e.1 with h' | h' | h' <;>
        grind [put]

/-! ## Entries in order -/

/-- The keys stand in order, each once. -/
def Ordered (es : Entries) : Prop :=
  es.Pairwise fun a b => a.1 < b.1

theorem fst_mem_put {e : String × Json} (h : e ∈ es.put k v) : e.1 = k ∨ e ∈ es := by
  induction es with
  | nil => exact Or.inl (congrArg Prod.fst (List.mem_singleton.mp h))
  | cons d es ih =>
      simp only [put] at h
      split at h
      · grind
      · split at h <;> grind

theorem Ordered.put (ordered : es.Ordered) : (es.put k v).Ordered := by
  induction es with
  | nil => exact List.pairwise_singleton ..
  | cons e es ih =>
      obtain ⟨first, rest⟩ := List.pairwise_cons.mp ordered
      simp only [Entries.put]
      split
      · next h => exact List.pairwise_cons.mpr ⟨h ▸ first, rest⟩
      split
      · next hlt =>
          refine List.pairwise_cons.mpr ⟨List.forall_mem_cons.mpr ⟨hlt, ?_⟩, ordered⟩
          exact fun d hd => hlt.trans (first d hd)
      · next hne hnlt =>
          refine List.pairwise_cons.mpr ⟨fun d hd => ?_, ih rest⟩
          rcases fst_mem_put hd with h | h
          · exact h ▸ lt_of_le_of_ne (not_lt.mp hnlt) (Ne.symm hne)
          · exact first d h

theorem Ordered.put_get? (ordered : es.Ordered) (h : es.get? k = some v) : es.put k v = es := by
  induction es with
  | nil => cases h
  | cons e es ih =>
      obtain ⟨first, rest⟩ := List.pairwise_cons.mp ordered
      rw [get?_cons] at h
      simp only [Entries.put]
      split
      · next hk =>
          rw [if_pos hk] at h
          rw [hk, ← Option.some.inj h]
      · next hk =>
          rw [if_neg hk] at h
          have hlt : e.1 < k := first _ (mem_of_lookup h)
          rw [if_neg hlt.asymm, ih rest h]

end Entries

namespace Entries

variable {base top es ds : Entries} {k : String}

theorem Ordered.nodup_keys (ordered : es.Ordered) : (es.map Prod.fst).Nodup :=
  List.pairwise_map.mpr (ordered.imp fun hlt => hlt.ne)

theorem Ordered.get?_reverse (ordered : es.Ordered) : Entries.get? es.reverse k = es.get? k := by
  have distinct := ordered.nodup_keys
  have distinct' : (es.reverse.map Prod.fst).Nodup := by
    rw [List.map_reverse]
    exact List.nodup_reverse.mpr distinct
  refine Option.ext fun v => ?_
  rw [get?, get?, lookup_eq_some_iff_mem distinct', lookup_eq_some_iff_mem distinct,
    List.mem_reverse]

/-- Entries in order are known by what is found in them. -/
theorem Ordered.ext (he : es.Ordered) (hd : ds.Ordered) (same : ∀ k, es.get? k = ds.get? k) :
    es = ds := by
  have mem : ∀ e, e ∈ es ↔ e ∈ ds := fun e => by
    rw [← lookup_eq_some_iff_mem he.nodup_keys, ← lookup_eq_some_iff_mem hd.nodup_keys]
    exact iff_of_eq (congrArg (· = some e.2) (same e.1))
  have perm := (List.perm_ext_iff_of_nodup (List.Nodup.of_map _ he.nodup_keys)
    (List.Nodup.of_map _ hd.nodup_keys)).mpr mem
  exact perm.eq_of_pairwise (fun _ _ _ _ h h' => absurd h' h.asymm) he hd

/-! ## Laying entries over others -/

theorem get?_append : Entries.get? (es ++ ds) k = (es.get? k).or (ds.get? k) :=
  List.lookup_append

/-- On top of `base`, the last value of a key counts. -/
theorem get?_overlay :
    (base.overlay top).get? k = (Entries.get? top.reverse k).or (base.get? k) := by
  induction top generalizing base with
  | nil => rfl
  | cons e top ih =>
      obtain ⟨key, v⟩ := e
      show (Entries.overlay (base.put key v) top).get? k = _
      rw [ih, List.reverse_cons, get?_append, Option.or_assoc]
      refine congrArg _ ?_
      by_cases h : k = key
      · subst h
        simp [get?_put_self, get?_cons]
      · have missing : Entries.get? [(key, v)] k = none := by
          rw [get?_cons, if_neg h]
          rfl
        rw [get?_put_of_ne h, missing, Option.none_or]

theorem Ordered.overlay (ordered : base.Ordered) (top : Entries) :
    (base.overlay top).Ordered := by
  induction top generalizing base with
  | nil => exact ordered
  | cons e top ih => exact ih ordered.put

theorem Ordered.overlay_again (ordered : base.Ordered) (top : Entries) :
    base.overlay (base.overlay top) = base.overlay top := by
  have laid := ordered.overlay top
  refine (ordered.overlay _).ext laid fun k => ?_
  rw [get?_overlay, laid.get?_reverse, get?_overlay, Option.or_assoc, Option.or_self]

theorem Ordered.overlay_self (ordered : base.Ordered) : base.overlay base = base :=
  ordered.overlay_again []

end Entries

/-! ## Fields of configurations -/

section Fields
variable {config : Json} {f f' : String} {v v' : Json}

theorem field?_setField_self : (config.setField f v).field? f = some v :=
  Entries.get?_put_self

theorem field?_eq_get? : config.field? f = config.entries.get? f := by
  cases config <;> rfl

theorem field?_setField_of_ne (hne : f' ≠ f) :
    (config.setField f v).field? f' = config.field? f' := by
  rw [field?_eq_get?, field?_eq_get?]
  exact Entries.get?_put_of_ne hne

theorem setField_comm (hne : f ≠ f') :
    (config.setField f v).setField f' v' = (config.setField f' v').setField f v :=
  congrArg obj (Entries.put_comm hne)

/-- The top-level fields stand in order, each once. -/
def Ordered (config : Json) : Prop :=
  config.entries.Ordered

theorem Ordered.setField (ordered : config.Ordered) : (config.setField f v).Ordered :=
  Entries.Ordered.put ordered

end Fields

/-! ## Members of records -/

namespace Member

variable {α : Type} {m : Member α} {s : Standing} {es : Entries} {v : Json} {a : α}

theorem search_of_unnamed {found : Option α} (unnamed : ∀ e ∈ es, m.answersTo e.1 = false)
    (h : found.or m.absent = some a) : ∀ place, m.search s found place es = .ok a := by
  induction es with
  | nil => simp [search, h]
  | cons e es ih =>
      obtain ⟨he, unnamed⟩ := List.forall_mem_cons.mp unnamed
      simp [search, he, ih unnamed]

/-- A member is found that is there once, under any of its names. -/
theorem search_of_once {k : String} (h : es.get? k = some v)
    (once : (es.map Prod.fst).filter m.answersTo = [k]) (decoded : m.decode s v = .ok a) :
    ∀ place, m.search s none place es = .ok a := by
  induction es with
  | nil => cases h
  | cons e es ih =>
      intro place
      rw [List.map_cons] at once
      by_cases he : m.answersTo e.1
      · rw [List.filter_cons_of_pos he] at once
        obtain ⟨rfl, later⟩ := List.cons.inj once
        have unnamed : ∀ d ∈ es, m.answersTo d.1 = false := by
          intro d hd
          simpa using List.filter_eq_nil_iff.mp later d.1 (List.mem_map_of_mem hd)
        rw [Entries.get?_cons, if_pos rfl] at h
        obtain rfl := Option.some.inj h
        simp [search, he, decoded, search_of_unnamed unnamed]
      · rw [List.filter_cons_of_neg he] at once
        have hne : k ≠ e.1 := by
          rintro rfl
          exact he (List.of_mem_filter (once ▸ List.mem_singleton_self e.1))
        rw [Entries.get?_cons, if_neg hne] at h
        simpa [search, he] using ih h once (place + 1)

theorem read_of_once {k : String} (h : es.get? k = some v)
    (once : (es.map Prod.fst).filter m.answersTo = [k]) (decoded : m.decode s v = .ok a) :
    m.read s (.entries es) = .ok a :=
  search_of_once h once decoded 0

theorem search_of_get? (single : m.aliases = []) (ordered : es.Ordered)
    (h : es.get? m.name = some v) (decoded : m.decode s v = .ok a) :
    ∀ place, m.search s none place es = .ok a := by
  refine search_of_once h ?_ decoded
  have answers : m.answersTo = (· == m.name) := by
    funext key
    simp [answersTo, single]
  have nodup := ordered.nodup_keys
  have there : m.name ∈ es.map Prod.fst := List.mem_map_of_mem (mem_of_lookup h)
  rw [answers, List.filter_beq, nodup.count, if_pos there, List.replicate_one]

theorem search_put {k : String} (other : m.answersTo k = false) (v v' : Json) :
    ∀ (es : Entries) (found : Option α) (place : Nat),
      m.search s found place (es.put k v) = m.search s found place (es.put k v')
  | [], _, _ => by simp [Entries.put, search, other]
  | (key, w) :: es, found, place => by
      simp only [Entries.put]
      split
      · simp [search, other]
      · split
        · simp [search, other]
        · simp only [search, search_put other v v' es]

end Member

end PipelineScript.Json
