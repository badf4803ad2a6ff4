/-
# The history of a table of names

A table starts with the names that are reserved; then names are allocated and
released, in whatever order.  `History` notes this down beside the table, and a
name is taken exactly when it was reserved or allocated and has not been released
since (`Faithful`).  That asks for no room: where there is none, what is handed
out is the base itself, and it is added to the table like any other name.

With fewer names in the table than there are suffixes, a new name is the first
free numbered one and is all that is added (`allocate_first_free`).
-/
import PipelineScript.Proofs.Compile.Names
import PipelineScript.Proofs.Since

namespace PipelineScript.Compile.Names

/-- What can be done to a table of names. -/
inductive Use where
  | allocate (base : String)
  | release (name : String)

/-- What is noted down of a table of names. -/
inductive Entry where
  | reserved (name : String)
  | allocated (name : String)
  | released (name : String)

def Entry.Takes (name : String) : Entry → Prop
  | reserved other | allocated other => other = name
  | released _ => False

def Entry.Frees (name : String) : Entry → Prop
  | reserved _ | allocated _ => False
  | released other => other = name

/-- A table with what has been noted down of it, in order. -/
structure History where
  names : Names
  log : List Entry

namespace History

variable {h : History}

def opened (reserved : List String) : History :=
  ⟨ofList reserved, reserved.map .reserved⟩

def after (h : History) : Use → History
  | .allocate base =>
    ⟨(h.names.allocate base).2, h.log ++ [.allocated (h.names.allocate base).1]⟩
  | .release name => ⟨h.names.release name, h.log ++ [.released name]⟩

def afterAll (h : History) (uses : List Use) : History :=
  uses.foldl after h

/-- The name was reserved or allocated, and it has not been released since. -/
def Holds (h : History) (name : String) : Prop :=
  Since (Entry.Takes name) (Entry.Frees name) h.log

/-- The table is what its history says, and has every name once. -/
structure Faithful (h : History) : Prop where
  once : h.names.taken.Nodup
  taken_iff : ∀ name, h.names.isTaken name = true ↔ h.Holds name

theorem faithful_opened (reserved : List String) : (opened reserved).Faithful where
  once := ofList_nodup reserved
  taken_iff name := by
    have endless : ∀ e ∈ reserved.map Entry.reserved, ¬ e.Frees name := by
      intro e he
      obtain ⟨other, -, rfl⟩ := List.mem_map.mp he
      exact id
    have begun : (∃ e ∈ reserved.map Entry.reserved, e.Takes name) ↔ name ∈ reserved := by
      simp [Entry.Takes]
    rw [isTaken_iff, Holds, opened, since_iff_of_endless endless, begun, mem_ofList]

theorem Faithful.allocate (faithful : h.Faithful) (base : String) :
    (h.after (.allocate base)).Faithful where
  once := insert_nodup faithful.once _
  taken_iff name := by
    have added : (h.names.allocate base).2.isTaken name = true ↔
        name = (h.names.allocate base).1 ∨ h.names.isTaken name = true := by
      rw [isTaken_iff, isTaken_iff]
      exact mem_insert
    rw [Holds, after, since_append_iff, added, faithful.taken_iff]
    simp [Entry.Takes, Entry.Frees, Holds, eq_comm]

theorem Faithful.release (faithful : h.Faithful) (released : String) :
    (h.after (.release released)).Faithful where
  once := faithful.once.erase _
  taken_iff name := by
    have freed : (h.names.release released).isTaken name = true ↔
        name ≠ released ∧ h.names.isTaken name = true := by
      rw [isTaken_iff, isTaken_iff]
      exact faithful.once.mem_erase_iff
    rw [Holds, after, since_append_iff, freed, faithful.taken_iff]
    simp [Entry.Takes, Entry.Frees, Holds, and_comm, eq_comm]

theorem Faithful.afterAll (faithful : h.Faithful) (uses : List Use) :
    (h.afterAll uses).Faithful := by
  induction uses generalizing h with
  | nil => exact faithful
  | cons use uses ih =>
      cases use with
      | allocate base => exact ih (faithful.allocate base)
      | release name => exact ih (faithful.release name)

end History

/-- The new name of a base is the base with the number `k`. -/
structure FirstFree (names : Names) (base : String) (k : Nat) : Prop where
  positive : 1 ≤ k
  bounded : k ≤ suffixLimit
  free : names.isTaken (base ++ toString k) = false
  least : ∀ i, 1 ≤ i → i < k → names.isTaken (base ++ toString i) = true
  name : (names.allocate base).1 = base ++ toString k
  /-- The search has not come to its end, where it would answer the base. -/
  numbered : (names.allocate base).1 ≠ base
  /-- The new name is added, and nothing else. -/
  added : ∀ other, (names.allocate base).2.isTaken other = true ↔
    other = base ++ toString k ∨ names.isTaken other = true
  size : (names.allocate base).2.size = names.size + 1
  /-- Released again, the name leaves the table that was there before. -/
  restored : (names.allocate base).2.release (names.allocate base).1 = names

theorem exists_firstFree {names : Names} {base : String} (room : names.size < suffixLimit) :
    ∃ k, FirstFree names base k := by
  obtain ⟨k, positive, bounded, free, least, he⟩ := (hasRoom_of_size room base).allocate_first
  have name : (names.allocate base).1 = base ++ toString k := by rw [he]
  have table : (names.allocate base).2 = ⟨(base ++ toString k) :: names.taken⟩ := by rw [he]
  exact ⟨k, {
    positive, bounded, name
    free := by simpa [isTaken] using free
    least := fun i hi hlt => isTaken_iff.mpr (least i hi hlt)
    numbered := by
      rw [name]
      simp
    added := fun other => by
      rw [table, isTaken_iff, isTaken_iff]
      exact List.mem_cons
    size := by
      rw [table]
      rfl
    restored := by rw [table, name, release, List.erase_cons_head] }⟩

/-- **A new name is the first numbered one that is free.**  With fewer names in the
table than there are suffixes the search does not fail, and releasing the name
again undoes the allocation.  However names are allocated and released, those that
were reserved or allocated and not released since are taken, and no others. -/
theorem allocate_first_free (names : Names) (base : String) (room : names.size < suffixLimit) :
    (∃ k, FirstFree names base k) ∧
      ∀ (reserved : List String) (uses : List Use) (name : String),
        ((History.opened reserved).afterAll uses).names.isTaken name = true ↔
          ((History.opened reserved).afterAll uses).Holds name :=
  ⟨exists_firstFree room, fun reserved uses =>
    ((History.faithful_opened reserved).afterAll uses).taken_iff⟩

/-! A table in which other bases have taken numbered names of `df`, and one from
which the name in the middle has been released. -/

def polluted : Names :=
  ofList ["df1", "frame3", "df2", "df", "df12"]

def reissued : History :=
  (History.opened ["df1"]).afterAll [.allocate "df", .allocate "df", .release "df2"]

theorem allocate_first_free_polluted :
    polluted.size < suffixLimit ∧ FirstFree polluted "df" 3 ∧
      reissued.names.taken = ["df3", "df1"] ∧ reissued.Holds "df3" ∧ ¬ reissued.Holds "df2" := by
  have room : polluted.size < suffixLimit := by decide
  obtain ⟨⟨k, first⟩, taken_iff⟩ := allocate_first_free polluted "df" room
  have name : "df" ++ toString k = "df" ++ toString 3 := first.name.symm.trans (by decide +kernel)
  obtain rfl := Text.numbered_inj name
  have taken : ∀ name, reissued.names.isTaken name = true ↔ reissued.Holds name :=
    taken_iff ["df1"] [.allocate "df", .allocate "df", .release "df2"]
  have table : reissued.names.taken = ["df3", "df1"] := by decide +kernel
  refine ⟨room, first, table, (taken "df3").mp ?_, mt (taken "df2").mpr ?_⟩ <;>
    simp [isTaken, table]

end PipelineScript.Compile.Names
