/-
# Suffixes that are left

A new name is found as long as one of the suffixes of its base is free.  How
many are taken (`Names.used`) tells whether there is room, and compares two
tables that hold different names.

`Names.allocateAll` takes names for several bases, one after the other.  The
plans that fill the output ports and take variables of their own come to
nothing else (`run_publishAll_eq`, `run_freshAll_eq`).
-/
import PipelineScript.Proofs.Compile.Questions

namespace PipelineScript.Compile

namespace Names

variable {names : Names} {base : String} {tries : Nat}

/-! ## Counting the suffixes of a base -/

/-- How many of the first suffixes of a base are taken. -/
def used (names : Names) (base : String) (tries : Nat) : Nat :=
  (List.range' 1 tries).countP fun k => names.isTaken (base ++ toString k)

theorem hasRoom_iff : names.HasRoom base ↔ names.used base suffixLimit < suffixLimit := by
  generalize hlimit : suffixLimit = tries
  have hle := List.countP_le_length
    (p := fun k => names.isTaken (base ++ toString k)) (l := List.range' 1 tries)
  have full := List.countP_eq_length
    (p := fun k => names.isTaken (base ++ toString k)) (l := List.range' 1 tries)
  rw [List.length_range'] at hle full
  simp only [isTaken_iff, List.mem_range'_1] at full
  rw [HasRoom, hlimit]
  refine ⟨fun ⟨k, hk, hlt, hfree⟩ => Nat.lt_of_le_of_ne hle fun he => ?_, fun hlt => ?_⟩
  · exact hfree (full.mp he k ⟨hk, by omega⟩)
  · by_contra none
    refine Nat.ne_of_lt hlt (full.mpr fun k ⟨hk, hlt⟩ => ?_)
    by_contra hfree
    exact none ⟨k, hk, by omega, hfree⟩

theorem countP_or_eq {p : Nat → Bool} {k : Nat} (hp : p k = false) :
    ∀ {l : List Nat}, l.Nodup → k ∈ l → l.countP (fun i => i == k || p i) = l.countP p + 1
  | i :: l, nodup, hmem => by
      obtain ⟨hi, nodup⟩ := List.nodup_cons.mp nodup
      by_cases he : i = k
      · subst he
        have rest : l.countP (fun j => j == i || p j) = l.countP p := by
          refine List.countP_congr fun j hj => ?_
          have hne : j ≠ i := fun he => hi (he ▸ hj)
          simp [hne]
        rw [List.countP_cons_of_pos (by simp), rest, List.countP_cons_of_neg (by simp [hp])]
      · have ih := countP_or_eq hp nodup ((List.mem_cons.mp hmem).resolve_left (Ne.symm he))
        simp only [List.countP_cons, ih, he, beq_iff_eq, Bool.or_eq_true, false_or]
        omega

theorem used_cons_self {k : Nat} (hk : 1 ≤ k) (htries : k ≤ tries)
    (hfree : base ++ toString k ∉ names.taken) :
    used ⟨(base ++ toString k) :: names.taken⟩ base tries = names.used base tries + 1 := by
  have hp : names.isTaken (base ++ toString k) = false := by
    simpa using mt isTaken_iff.mp hfree
  rw [used, used, ← countP_or_eq (p := fun i => names.isTaken (base ++ toString i)) hp
    List.nodup_range' (List.mem_range'_1.mpr ⟨hk, by omega⟩)]
  refine List.countP_congr fun i _ => ?_
  simp [isTaken]

theorem used_cons_other {name : String} (other : ∀ i : Nat, base ++ toString i ≠ name) :
    used ⟨name :: names.taken⟩ base tries = names.used base tries := by
  refine List.countP_congr fun i _ => ?_
  have hne : base ++ i.repr ≠ name := other i
  simp [isTaken, hne]

theorem used_mono {names' : Names} (sub : names.taken ⊆ names'.taken) :
    names.used base tries ≤ names'.used base tries :=
  List.countP_mono_left fun _ _ h => isTaken_iff.mpr (sub (isTaken_iff.mp h))

/-! ## Several names -/

/-- Takes a name for each of the bases, one after the other. -/
def allocateAll (names : Names) : List String → List String × Names
  | [] => ([], names)
  | base :: bases =>
    let (name, names) := names.allocate base
    let (rest, names) := names.allocateAll bases
    (name :: rest, names)

theorem allocateAll_cons (names : Names) (base : String) (bases : List String) :
    names.allocateAll (base :: bases) =
      ((names.allocate base).1 :: ((names.allocate base).2.allocateAll bases).1,
        ((names.allocate base).2.allocateAll bases).2) :=
  rfl

theorem allocateAll_length (names : Names) (bases : List String) :
    (names.allocateAll bases).1.length = bases.length := by
  induction bases generalizing names with
  | nil => rfl
  | cons base bases ih => simp [allocateAll_cons, ih]

theorem allocateAll_append (names : Names) (bases more : List String) :
    names.allocateAll (bases ++ more) =
      ((names.allocateAll bases).1 ++ ((names.allocateAll bases).2.allocateAll more).1,
        ((names.allocateAll bases).2.allocateAll more).2) := by
  induction bases generalizing names with
  | nil => rfl
  | cons base bases ih => simp [allocateAll_cons, ih]

/-- There is room each time a name is taken. -/
def Affords (names : Names) : List String → Prop
  | [] => True
  | base :: bases => names.HasRoom base ∧ (names.allocate base).2.Affords bases

theorem affords_append {bases more : List String} :
    names.Affords (bases ++ more) ↔
      names.Affords bases ∧ (names.allocateAll bases).2.Affords more := by
  induction bases generalizing names with
  | nil => simp [Affords, allocateAll]
  | cons base bases ih => simp [Affords, allocateAll_cons, ih, and_assoc]

theorem taken_subset_allocateAll {bases : List String} (room : names.Affords bases) :
    names.taken ⊆ (names.allocateAll bases).2.taken := by
  induction bases generalizing names with
  | nil => exact List.Subset.refl _
  | cons base bases ih =>
      obtain ⟨room, later⟩ := room
      obtain ⟨k, -, -, -, halloc⟩ := room.allocate
      have first : names.taken ⊆ (names.allocate base).2.taken := by
        rw [halloc]
        exact List.subset_cons_self _ _
      exact List.Subset.trans first (ih later)

end Names

end PipelineScript.Compile

namespace PipelineScript

open Compile

/-! ## Plans that are supplied -/

namespace Plan

variable {α β : Type} {site : Site}

theorem Supplied.of_bind {m : Plan α} {k : α → Plan β} {p : Progress}
    (h : (m.bind k).Supplied site p) :
    m.Supplied site p ∧ ∀ a q, m.run site p = .ok (a, q) → (k a).Supplied site q := by
  induction m generalizing p with
  | done b =>
      refine ⟨trivial, fun a q hrun => ?_⟩
      cases hrun
      exact h
  | fail e =>
      refine ⟨trivial, fun a q hrun => ?_⟩
      cases hrun
  | input port next ih => exact ih _ h
  | output port next ih => exact ⟨⟨h.1, (ih _ h.2).1⟩, (ih _ h.2).2⟩
  | fresh base next ih => exact ⟨⟨h.1, (ih _ h.2).1⟩, (ih _ h.2).2⟩
  | isTaken name next ih => exact ih _ h
  | inputCount next ih => exact ih _ h
  | nodeId next ih => exact ih _ h

/-! ## Filling the output ports, and variables of one's own -/

section PublishAll
variable (site) (filled : List (Option String))

theorem output_of_empty {p : Progress} {count : Nat}
    (h : p.outputs = filled ++ List.replicate (count + 1) none) :
    p.outputs[filled.length]? = some none ∧
      site.output filled.length p =
        (.ok (p.names.allocate site.base).1,
          ⟨(p.names.allocate site.base).2,
            filled ++ some (p.names.allocate site.base).1 :: List.replicate count none,
            p.allocated ++ [(p.names.allocate site.base).1]⟩) := by
  have hslot : p.outputs[filled.length]? = some none := by simp [h, List.replicate_succ]
  refine ⟨hslot, ?_⟩
  rw [output_of_none site hslot, h]
  simp [List.replicate_succ, fresh_eq]

theorem run_publishAll_eq {p : Progress} {count : Nat}
    (h : p.outputs = filled ++ List.replicate count none) :
    (publishAll filled.length count).run site p =
      let (vs, names) := p.names.allocateAll (List.replicate count site.base)
      .ok (vs, ⟨names, filled ++ vs.map some, p.allocated ++ vs⟩) := by
  induction count generalizing filled p with
  | zero =>
      obtain ⟨names, outputs, allocated⟩ := p
      obtain rfl : outputs = filled := by simpa using h
      simp [publishAll, run, Names.allocateAll]
  | succ count ih =>
      obtain ⟨-, hout⟩ := output_of_empty site filled h
      have hrest := @ih (filled ++ [some (p.names.allocate site.base).1])
        (site.output filled.length p).2 (by simp [hout])
      rw [List.length_append, List.length_singleton] at hrest
      rw [publishAll, run_bind, run_publish, hout]
      show ((publishAll (filled.length + 1) count).bind _).run site _ = _
      rw [hout] at hrest
      rw [run_bind, hrest]
      simp [run, List.replicate_succ, Names.allocateAll_cons]

variable {site}

theorem Supplied.affords_publishAll {p : Progress} {count : Nat}
    (h : p.outputs = filled ++ List.replicate count none)
    (supplied : (publishAll filled.length count).Supplied site p) :
    p.names.Affords (List.replicate count site.base) := by
  induction count generalizing filled p with
  | zero => trivial
  | succ count ih =>
      obtain ⟨hslot, hout⟩ := output_of_empty site filled h
      obtain ⟨hfirst, hrest⟩ := supplied.of_bind
      have hrun := run_publish_eq_ok_iff.mpr ⟨congrArg Prod.fst hout, rfl⟩
      obtain ⟨hrest, -⟩ := (hrest _ _ hrun).of_bind
      have later := @ih (filled ++ [some (p.names.allocate site.base).1])
        (site.output filled.length p).2 (by simp [hout])
        (by rwa [List.length_append, List.length_singleton])
      rw [hout] at later
      exact ⟨hfirst.1 hslot, later⟩

end PublishAll

theorem run_freshAll_eq (bases : List String) (p : Progress) :
    (freshAll bases).run site p =
      let (vs, names) := p.names.allocateAll bases
      .ok (vs, ⟨names, p.outputs, p.allocated ++ vs⟩) := by
  induction bases generalizing p with
  | nil => simp [freshAll, run, Names.allocateAll]
  | cons base bases ih =>
      rw [freshAll, run_fresh, run_bind, ih]
      simp [run, fresh_eq, Names.allocateAll_cons]

theorem Supplied.affords_freshAll {bases : List String} {p : Progress}
    (supplied : (freshAll bases).Supplied site p) : p.names.Affords bases := by
  induction bases generalizing p with
  | nil => trivial
  | cons base bases ih => exact ⟨supplied.1, ih supplied.2.of_bind.1⟩

end Plan

end PipelineScript
