/-
# The search for a free ordinal

For a new row a table counts on from where its last search has ended, past every
ordinal whose text is a key.  The count has 64 bits, so behind the greatest
ordinal it goes on at zero, and no measure of it decreases.  `SearchEnds` is this
search with nothing that bounds its rounds: a search that goes round for ever
ends nowhere.

With fewer rows than ordinals the search ends, at the first free ordinal
(`ordinal_search_ends`).  Where a table starts to count is right whatever keys and
names its rows have: the greatest ordinal, which has no successor, is passed over.
-/
import PipelineScript.Proofs.Table.History

namespace PipelineScript

open Text (ordinalText ordinalCount greatestOrdinal)

/-! ## The search, round by round -/

/-- The search that starts at one ordinal ends at another: as long as the text of
the ordinal is a key, it goes on at the next one. -/
inductive SearchEnds (keys : List String) : (start last : UInt64) → Prop
  | free {n : UInt64} : ordinalText n ∉ keys → SearchEnds keys n n
  | taken {n last : UInt64} : ordinalText n ∈ keys → SearchEnds keys (n + 1) last →
      SearchEnds keys n last

section Search
variable {keys : List String} {n last last' : UInt64}

theorem SearchEnds.unique (h : SearchEnds keys n last) (h' : SearchEnds keys n last') :
    last = last' := by
  induction h with
  | free free =>
      cases h' with
      | free => rfl
      | taken taken => exact absurd taken free
  | taken taken _ ih =>
      cases h' with
      | free free => exact absurd taken free
      | taken _ rest => exact ih rest

theorem SearchEnds.not_mem (h : SearchEnds keys n last) : ordinalText last ∉ keys := by
  induction h with
  | free free => exact free
  | taken _ _ ih => exact ih

theorem searchEnds_of_first : ∀ {i : Nat} {n : UInt64},
    ordinalText (n + UInt64.ofNat i) ∉ keys →
    (∀ j < i, ordinalText (n + UInt64.ofNat j) ∈ keys) →
    SearchEnds keys n (n + UInt64.ofNat i)
  | 0, n, free, _ => by
      have stay : n + UInt64.ofNat 0 = n := by simp
      rw [stay] at free ⊢
      exact .free free
  | i + 1, n, free, taken => by
      have first : ordinalText n ∈ keys := by simpa using taken 0 (Nat.succ_pos i)
      rw [← Text.succ_add_ofNat] at free ⊢
      refine .taken first (searchEnds_of_first free fun j hj => ?_)
      rw [Text.succ_add_ofNat]
      exact taken (j + 1) (Nat.succ_lt_succ hj)

end Search

namespace Table

variable {ρ : Type} [Row ρ]

/-- What comes of the search of a table for a free ordinal. -/
structure Searched (t : Table ρ) : Prop where
  /-- The search ends, and this is where. -/
  ends : ∀ n, SearchEnds t.keys t.nextOrdinal n ↔ n = t.freshOrdinal.1
  free : ∀ r ∈ t.rows, Row.key r ≠ ordinalText t.freshOrdinal.1
  /-- Counting on from where the search starts, and at zero behind the greatest
  ordinal, all ordinals before it are taken. -/
  first : ∃ i < ordinalCount,
    t.freshOrdinal.1.toNat = (t.nextOrdinal.toNat + i) % ordinalCount ∧
      ∀ j < i, ∃ r ∈ t.rows, Row.key r = toString ((t.nextOrdinal.toNat + j) % ordinalCount)
  /-- The next search starts behind it. -/
  next : t.freshOrdinal.2.nextOrdinal.toNat = (t.freshOrdinal.1.toNat + 1) % ordinalCount
  /-- Nothing else of the table has changed. -/
  kept : t.freshOrdinal.2 = { t with nextOrdinal := t.freshOrdinal.2.nextOrdinal }

theorem searched_of_room {t : Table ρ} (room : t.size < ordinalCount) : t.Searched := by
  obtain ⟨i, hi, he, free, taken⟩ :=
    exists_freeOrdinal_eq (t.keys_length.symm ▸ room) t.nextOrdinal
  have answer : t.freshOrdinal.1 = t.nextOrdinal + UInt64.ofNat i := he
  have ends : SearchEnds t.keys t.nextOrdinal t.freshOrdinal.1 :=
    answer ▸ searchEnds_of_first free taken
  exact {
    ends := fun n => ⟨fun h => h.unique ends, fun h => h ▸ ends⟩
    free := fun r hr hkey => ends.not_mem (List.mem_map.mpr ⟨r, hr, hkey⟩)
    first := by
      refine ⟨i, hi, answer ▸ Text.toNat_add_ofNat_mod .., fun j hj => ?_⟩
      rw [← Text.toNat_add_ofNat_mod]
      exact List.mem_map.mp (taken j hj)
    next := Text.toNat_add_ofNat_mod t.freshOrdinal.1 1
    kept := rfl }

/-- Whatever rows there are, a table is opened over them. -/
theorem exists_load {g : Graph} {node field : String} {n : Node} {rows : List ρ}
    (found : g.node? node = some n) (decoded : rowsOfField n.config field = .ok rows) :
    ∃ t, Table.load g node field = .ok t ∧ t.rows = rows := by
  rw [Table.load, found]
  simp only [decoded]
  exact ⟨_, rfl, by simp [Table.rows, Function.comp_def]⟩

/-- **The search for a free ordinal ends**, even when the count has come round, and
finds the first one that is free.  When a table is opened the search starts right
behind the greatest ordinal in use that has a successor: no row, whatever its key
or its name, makes that ordinal overflow. -/
theorem ordinal_search_ends (t : Table ρ) (room : t.size < ordinalCount) :
    t.Searched ∧
      ∀ (g : Graph) (node field : String) (n : Node) (rows : List ρ),
        g.node? node = some n → rowsOfField n.config field = .ok rows →
          ∃ opened : Table ρ, Table.load g node field = .ok opened ∧ opened.rows = rows ∧
            IsGreatest (usedUp rows) ((opened.nextOrdinal.toNat : Int) - 1) := by
  refine ⟨searched_of_room room, fun g node field n rows found decoded => ?_⟩
  obtain ⟨opened, load, same⟩ := exists_load found decoded
  have greatest := Opened.isGreatest ⟨node, field, Or.inr ⟨g, load⟩⟩
  exact ⟨opened, load, same, same ▸ greatest⟩

/-! A table over rows that use the greatest ordinal twice, and the same table when
its count is about to come round. -/

def brimmingNode : Node :=
  ⟨"n", "envVariables", .obj [("variables", .arr
    [.obj [("key", .int 0), ("name", .str "ENV_18446744073709551615")],
      .obj [("key", .str "18446744073709551615"), ("name", .str "HOME")]])], ["in"], ["out"]⟩

def brimming : Table VariableRow where
  node := "n"
  field := "variables"
  entries := [{ row := ⟨"0", "ENV_18446744073709551615", "", ""⟩ },
    { row := ⟨"18446744073709551615", "HOME", "", ""⟩ }]
  nextOrdinal := 1

def comingRound : Table VariableRow :=
  { brimming with nextOrdinal := greatestOrdinal }

theorem ordinal_search_ends_comingRound :
    comingRound.size < ordinalCount ∧
      SearchEnds comingRound.keys greatestOrdinal 1 ∧
      comingRound.freshOrdinal.2 = { brimming with nextOrdinal := 2 } ∧
      (∀ r ∈ brimming.rows, greatestOrdinal ∈ Row.usedOrdinals r) ∧
      Graph.node? ⟨[brimmingNode], []⟩ "n" = some brimmingNode ∧
      rowsOfField brimmingNode.config "variables" = .ok brimming.rows ∧
      Table.load ⟨[brimmingNode], []⟩ "n" "variables" = .ok brimming ∧
      IsGreatest (usedUp brimming.rows) 0 := by
  have room : comingRound.size < ordinalCount := by decide
  have found : Graph.node? ⟨[brimmingNode], []⟩ "n" = some brimmingNode := rfl
  have decoded : rowsOfField brimmingNode.config "variables" = .ok brimming.rows := rfl
  have load : Table.load ⟨[brimmingNode], []⟩ "n" "variables" = .ok brimming := rfl
  obtain ⟨searched, opens⟩ := ordinal_search_ends comingRound room
  obtain ⟨opened, again, -, greatest⟩ := opens _ _ _ _ _ found decoded
  obtain rfl : brimming = opened := Except.ok.inj (load.symm.trans again)
  have answer : comingRound.freshOrdinal = (1, { brimming with nextOrdinal := 2 }) := by
    decide +kernel
  refine ⟨room, (searched.ends 1).mpr ?_, ?_, by decide +kernel, found, decoded, load, greatest⟩
  · rw [answer]
  · rw [answer]

end Table

end PipelineScript
