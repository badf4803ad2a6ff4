/-
# Row keys are unique and never used again

A `Ledger` is a table with its history: which keys rows have had since it was
opened, and which were handed out for new rows.  An edit keeps some of the keys
and hands out new ones, and this is all that the history depends on.

The keys of a table are distinct at every point of its history.  And until the
ordinals are used up, they have been handed out in order from the greatest one
that was in use at the start, so every key that a row has ever had lies behind
the next one to be handed out (`Ledger.Sound`).
-/
import Mathlib.Logic.Relation
import Mathlib.Order.Bounds.Basic
import PipelineScript.Proofs.Table.Keys

namespace PipelineScript

open Text (ordinalText ordinalCount greatestOrdinal)

namespace Table

variable {ρ σ : Type} [Row ρ]

/-! ## Opening a table -/

/-- A table that has just been made: an empty one, or one over what a graph
holds. -/
def Opened (t : Table ρ) : Prop :=
  ∃ node field, t = { node, field } ∨ ∃ g, Table.load g node field = .ok t

/-- The ordinals that some rows use, but for the greatest one; below them `-1`,
for rows that use none. -/
def usedUp (rows : List ρ) : Set Int :=
  insert (-1) { m | ∃ r ∈ rows, ∃ o ∈ Row.usedOrdinals r, o ≠ greatestOrdinal ∧ m = o.toNat }

theorem max_eq (m n : UInt64) : max m n = if m ≤ n then n else m :=
  rfl

theorem foldl_max_spec : ∀ (ns : List UInt64) (m : UInt64),
    (∀ n ∈ m :: ns, n.toNat ≤ (ns.foldl max m).toNat) ∧ ns.foldl max m ∈ m :: ns
  | [], m => by simp
  | n :: ns, m => by
      obtain ⟨upper, mem⟩ := foldl_max_spec ns (max m n)
      have larger : m.toNat ≤ (max m n).toNat ∧ n.toNat ≤ (max m n).toNat ∧
          (max m n = m ∨ max m n = n) := by
        rw [max_eq]
        split
        · next h => exact ⟨UInt64.le_iff_toNat_le.mp h, Nat.le_refl _, Or.inr rfl⟩
        · next h =>
            have := mt UInt64.le_iff_toNat_le.mpr h
            exact ⟨Nat.le_refl _, by omega, Or.inl rfl⟩
      obtain ⟨hmax, rest⟩ := List.forall_mem_cons.mp upper
      rw [List.foldl_cons]
      refine ⟨?_, ?_⟩
      · simp only [List.forall_mem_cons]
        exact ⟨larger.1.trans hmax, larger.2.1.trans hmax, rest⟩
      · rcases List.mem_cons.mp mem with he | hmem
        · rcases larger.2.2 with hm | hn
          · rw [he, hm]
            exact List.mem_cons_self
          · rw [he, hn]
            exact List.mem_cons_of_mem _ List.mem_cons_self
        · exact List.mem_cons_of_mem _ (List.mem_cons_of_mem _ hmem)

/-- The search for keys starts behind the greatest ordinal in use. -/
theorem isGreatest_usedUp (rows : List ρ) :
    IsGreatest (usedUp rows) (((ordinalAfter (rows.flatMap Row.usedOrdinals)).toNat : Int) - 1) := by
  obtain ⟨upper, mem⟩ := foldl_max_spec
    (((rows.flatMap Row.usedOrdinals).filter (· != greatestOrdinal)).map (· + 1)) 0
  rw [← ordinalAfter] at upper mem
  constructor
  · rcases List.mem_cons.mp mem with h | h
    · rw [h]
      exact Or.inl rfl
    · obtain ⟨o, ho, hsucc⟩ := List.mem_map.mp h
      obtain ⟨ho, hne⟩ := List.mem_filter.mp ho
      obtain ⟨r, hr, ho⟩ := List.mem_flatMap.mp ho
      have hne : o ≠ greatestOrdinal := by simpa using hne
      refine Or.inr ⟨r, hr, o, ho, hne, ?_⟩
      rw [← hsucc, Text.toNat_succ hne]
      simp
  · rintro _ (rfl | ⟨r, hr, o, ho, hne, rfl⟩)
    · omega
    · have hmem : o + 1 ∈
          ((rows.flatMap Row.usedOrdinals).filter (· != greatestOrdinal)).map (· + 1) :=
        List.mem_map_of_mem (List.mem_filter.mpr ⟨List.mem_flatMap.mpr ⟨r, hr, ho⟩, by simpa⟩)
      have := upper _ (List.mem_cons_of_mem _ hmem)
      rw [Text.toNat_succ hne] at this
      omega

theorem load_nextOrdinal {g : Graph} {node field : String} {t : Table ρ}
    (h : Table.load g node field = .ok t) :
    t.nextOrdinal = ordinalAfter (t.rows.flatMap Row.usedOrdinals) := by
  unfold Table.load at h
  split at h
  · cases h
  · split at h
    · cases h
    · cases h
      simp [rows, Function.comp_def]

theorem Opened.isGreatest {t : Table ρ} (h : t.Opened) :
    IsGreatest (usedUp t.rows) ((t.nextOrdinal.toNat : Int) - 1) := by
  obtain ⟨node, field, rfl | ⟨g, h⟩⟩ := h
  · exact isGreatest_usedUp (ρ := ρ) []
  · rw [load_nextOrdinal h]
    exact isGreatest_usedUp t.rows

end Table

/-! ## The history of a table -/

/-- A table with its history. -/
structure Ledger (kind : TableKind) (σ : Type) where
  table : Table kind.RowType
  store : σ
  /-- Every key that a row has had since the table was opened. -/
  held : List String
  /-- The keys of the rows that edits have made, in order. -/
  given : List String

namespace Ledger

open TableEdit (Answer)

variable {kind : TableKind} {σ : Type} {sink : Sink σ} {M : Int} {l l' : Ledger kind σ}

def opened (t : Table kind.RowType) (s : σ) : Ledger kind σ :=
  ⟨t, s, t.keys, []⟩

/-- The keys that an edit hands out. -/
def fresh (sink : Sink σ) (l : Ledger kind σ) (e : TableEdit kind) : List String :=
  Table.newKeys l.table (l.table.perform sink l.store e).table e

def after (sink : Sink σ) (l : Ledger kind σ) (e : TableEdit kind) : Ledger kind σ where
  table := (l.table.perform sink l.store e).table
  store := (l.table.perform sink l.store e).sink
  held := l.held ++ (l.table.perform sink l.store e).table.keys
  given := l.given ++ l.fresh sink e

/-- One more edit.  A list has fewer items than there are numbers of 64 bits. -/
def Step (sink : Sink σ) (l l' : Ledger kind σ) : Prop :=
  ∃ e, l' = l.after sink e ∧ l'.table.size < ordinalCount

/-- What is known at every point of the history, `M` being the greatest ordinal
that was in use at the start: until the count comes round, ordinals have been
handed out in order from there, and no key is one of the next. -/
structure Sound (M : Int) (l : Ledger kind σ) : Prop where
  held : l.table.keys ⊆ l.held
  next : M + l.given.length < greatestOrdinal.toNat →
    (l.table.nextOrdinal.toNat : Int) = M + 1 + l.given.length
  passed : M + l.given.length < greatestOrdinal.toNat → ∀ o : UInt64, ordinalText o ∈ l.held →
    o ≠ greatestOrdinal → (o.toNat : Int) ≤ M + l.given.length

theorem key_used {r : kind.RowType} {o : UInt64} (h : Row.key r = ordinalText o) :
    o ∈ Row.usedOrdinals r := by
  have parsed : Text.ordinalOfText? (Row.key r) = some o := h ▸ Text.ordinalOfText?_ordinalText o
  cases kind with
  | environment =>
      have parsed : Text.ordinalOfText? (VariableRow.key r) = some o := parsed
      show o ∈ (Text.ordinalOfText? (VariableRow.key r)).toList ++ _
      simp [parsed]
  | mappings =>
      have parsed : Text.ordinalOfText? (MappingRow.key r) = some o := parsed
      show o ∈ (Text.ordinalOfText? (MappingRow.key r)).toList
      simp [parsed]

theorem sound_opened {t : Table kind.RowType} (opened : t.Opened) (s : σ) :
    Sound ((t.nextOrdinal.toNat : Int) - 1) (Ledger.opened t s) where
  held := List.Subset.refl _
  next _ := by simp [Ledger.opened]
  passed _ o hmem hne := by
    obtain ⟨r, hr, hkey⟩ := List.mem_map.mp hmem
    have := opened.isGreatest.2 (Or.inr ⟨r, hr, o, key_used hkey, hne, rfl⟩)
    simpa [Ledger.opened] using this

section Edit
variable {e : TableEdit kind} {kept : List String} {count : Nat}
  (rekeyed : Table.Rekeyed l.table (l.after sink e).table kept (l.fresh sink e) count)
include rekeyed

theorem given_length : (l.after sink e).given.length = l.given.length + count := by
  rw [after, List.length_append]
  exact congrArg (l.given.length + ·) rekeyed.fresh_length

theorem fresh_apart (size : (l.after sink e).table.size < ordinalCount) :
    (l.fresh sink e).Nodup ∧ ∀ key ∈ l.fresh sink e, key ∉ kept :=
  rekeyed.apart (Nat.le_of_lt size)

variable (h : Sound M l)
include h

theorem Sound.clear (bound : M + l.given.length < greatestOrdinal.toNat) (o : UInt64)
    (ho : l.table.nextOrdinal.toNat ≤ o.toNat) (hne : o ≠ greatestOrdinal) :
    ordinalText o ∉ kept := by
  intro hmem
  have next := h.next bound
  have := h.passed bound o (h.held (rekeyed.sub hmem)) hne
  omega

/-- As long as the count has not come round, new keys are the next ordinals. -/
theorem Sound.fresh_eq {i : Nat} (hi : i < count)
    (bound : M + l.given.length + i + 1 < greatestOrdinal.toNat) :
    ∃ o : UInt64, (o.toNat : Int) = M + 1 + l.given.length + i ∧
      (l.fresh sink e)[i]? = some (ordinalText o) := by
  have next := h.next (by omega)
  have inOrder := (handOut_inOrder (h.clear rekeyed (by omega))).1 i hi (by omega)
  rw [rekeyed.handOut] at inOrder
  have greatest : greatestOrdinal.toNat = 2 ^ 64 - 1 := rfl
  have sum : (l.table.nextOrdinal + UInt64.ofNat i).toNat = l.table.nextOrdinal.toNat + i :=
    Text.toNat_add_ofNat (by unfold ordinalCount; omega)
  exact ⟨_, by omega, inOrder⟩

theorem Sound.fresh_not_held {i : Nat} {key : String} (hkey : (l.fresh sink e)[i]? = some key)
    (bound : M + l.given.length + i + 1 < greatestOrdinal.toNat) : key ∉ l.held := by
  intro hmem
  have hi : i < count := rekeyed.fresh_length ▸ (List.getElem?_eq_some_iff.mp hkey).1
  obtain ⟨o, ho, hfresh⟩ := h.fresh_eq rekeyed hi bound
  obtain rfl : ordinalText o = key := Option.some.inj (hfresh.symm.trans hkey)
  have hne : o ≠ greatestOrdinal := by
    rintro rfl
    omega
  have := h.passed (by omega) o hmem hne
  omega

theorem Sound.after_rekeyed : Sound M (l.after sink e) := by
  have given := given_length rekeyed
  have greatest : greatestOrdinal.toNat = 2 ^ 64 - 1 := rfl
  refine ⟨List.subset_append_right _ _, fun bound => ?_, fun bound o hmem hne => ?_⟩
  · rw [given] at bound ⊢
    have next := h.next (by omega)
    have last :
        (l.after sink e).table.nextOrdinal.toNat = l.table.nextOrdinal.toNat + count := by
      have := (@handOut_inOrder kept l.table.nextOrdinal count
        (h.clear rekeyed (by omega))).2 (by omega)
      rwa [rekeyed.handOut] at this
    omega
  · rw [given] at bound ⊢
    have old : ordinalText o ∈ l.held → (o.toNat : Int) ≤ M + l.given.length := fun hmem =>
      h.passed (by omega) o hmem hne
    rcases List.mem_append.mp hmem with hmem | hmem
    · have := old hmem
      omega
    rcases List.mem_append.mp (rekeyed.keys.subset hmem) with hmem | hmem
    · have := old (h.held (rekeyed.sub hmem))
      omega
    · obtain ⟨i, hlt, hi⟩ := List.mem_iff_getElem.mp hmem
      have hi : (l.fresh sink e)[i]? = some (ordinalText o) :=
        List.getElem?_eq_some_iff.mpr ⟨hlt, hi⟩
      rw [rekeyed.fresh_length] at hlt
      obtain ⟨o', ho', hfresh⟩ := h.fresh_eq rekeyed hlt (by omega)
      obtain rfl := Text.ordinalText_inj (Option.some.inj (hfresh.symm.trans hi))
      omega

/-- A key that is gone does not come back. -/
theorem Sound.gone_after {key : String} (held : key ∈ l.held) (gone : key ∉ l.table.keys)
    (bound : M + (l.after sink e).given.length < greatestOrdinal.toNat) :
    key ∉ (l.after sink e).table.keys := by
  intro hmem
  rcases List.mem_append.mp (rekeyed.keys.subset hmem) with hmem | hmem
  · exact gone (rekeyed.sub hmem)
  · obtain ⟨i, hlt, hi⟩ := List.mem_iff_getElem.mp hmem
    rw [given_length rekeyed] at bound
    have hi' := rekeyed.fresh_length ▸ hlt
    exact h.fresh_not_held rekeyed (List.getElem?_eq_some_iff.mpr ⟨hlt, hi⟩) (by omega) held

end Edit

/-! ## All edits -/

theorem after_table (sink : Sink σ) (l : Ledger kind σ) (e : TableEdit kind) :
    (l.after sink e).table = l.table.applied e :=
  Table.perform_table ..

theorem exists_rekeyed (sink : Sink σ) (l : Ledger kind σ) (e : TableEdit kind) :
    ∃ kept count,
      Table.Rekeyed l.table (l.after sink e).table kept (l.fresh sink e) count := by
  rw [after_table, fresh, Table.perform_table]
  exact Table.applied_rekeyed l.table e

theorem Sound.after (h : Sound M l) (e : TableEdit kind) : Sound M (l.after sink e) :=
  have ⟨_, _, rekeyed⟩ := exists_rekeyed sink l e
  h.after_rekeyed rekeyed

theorem Sound.steps (h : Sound M l) (path : Relation.ReflTransGen (Step sink) l l') :
    Sound M l' := by
  induction path with
  | refl => exact h
  | tail _ hstep ih =>
      obtain ⟨e, rfl, -⟩ := hstep
      exact ih.after e

theorem distinct_steps (distinct : l.table.keys.Nodup)
    (path : Relation.ReflTransGen (Step sink) l l') : l'.table.keys.Nodup := by
  induction path with
  | refl => exact distinct
  | @tail m _ _ hstep ih =>
      obtain ⟨e, rfl, size⟩ := hstep
      obtain ⟨kept, count, rekeyed⟩ := exists_rekeyed sink m e
      exact rekeyed.distinct (Nat.le_of_lt size) ih

theorem Sound.gone_steps (h : Sound M l) {key : String} (held : key ∈ l.held)
    (gone : key ∉ l.table.keys) (path : Relation.ReflTransGen (Step sink) l l') :
    M + l'.given.length < greatestOrdinal.toNat → key ∈ l'.held ∧ key ∉ l'.table.keys := by
  induction path with
  | refl => exact fun _ => ⟨held, gone⟩
  | @tail m _ before hstep ih =>
      intro bound
      obtain ⟨e, rfl, size⟩ := hstep
      obtain ⟨kept, count, rekeyed⟩ := exists_rekeyed sink m e
      have given := given_length rekeyed
      obtain ⟨held, gone⟩ := ih (by omega)
      exact ⟨List.mem_append_left _ held, (h.steps before).gone_after rekeyed held gone bound⟩

/-- An edit of a row that is not there finds nothing and changes nothing. -/
theorem perform_of_gone {t : Table kind.RowType} {key : String} (gone : key ∉ t.keys) (s : σ) :
    (∀ patch, t.perform sink s (.update key patch) = ⟨t, s, .ok (.found false)⟩) ∧
      t.perform sink s (.delete key) = ⟨t, s, .ok (.found false)⟩ := by
  have missing : ¬ t.hasKey key = true := by
    simpa [Table.hasKey, Table.entry?, Table.keys_eq] using gone
  refine ⟨fun patch => ?_, ?_⟩
  · rw [Table.perform, Table.updateRow_eq, if_neg missing]
    rfl
  · rw [Table.perform, Table.deleteRow_eq, if_neg missing]
    rfl

/-- A new row stands last, under the one key that is handed out, and this key is
the answer if there is one. -/
theorem exists_added (sink : Sink σ) (l : Ledger kind σ) :
    ∃ key, l.fresh sink .add = [key] ∧ (l.after sink .add).table.keys = l.table.keys ++ [key] ∧
      ∀ answer, (l.table.perform sink l.store .add).result = .ok answer → answer = .key key := by
  have keys := Table.withRow_keys l.table
  refine ⟨ordinalText l.table.freshOrdinal.1, ?_, ?_, fun answer h => ?_⟩
  · rw [fresh, Table.perform_table, Table.applied, Table.newKeys, keys, List.drop_left]
  · rw [after_table]
    exact keys
  · have h : ((l.table.withRow.commit sink l.store (ordinalText l.table.freshOrdinal.1)).map
        Answer.key).result = .ok answer := h
    rw [Table.commit_map, Table.commit_eq] at h
    split at h
    · exact (Except.ok.inj h).symm
    · cases h

/-- What holds of the keys of a table at a point of its history, `M` being the
greatest ordinal that was in use when the table was opened. -/
structure KeysApart (sink : Sink σ) (M : Int) (l : Ledger kind σ) : Prop where
  /-- No two rows have the same key. -/
  distinct : l.table.keys.Nodup
  /-- The keys that an edit hands out are those of the rows that it makes: they
  are keys afterwards, and no other key is new. -/
  made : ∀ e, l.fresh sink e ⊆ (l.after sink e).table.keys ∧
    (l.after sink e).table.keys ⊆ l.table.keys ++ l.fresh sink e
  /-- Adding a row hands out one key, and answers it if the sink takes the rows. -/
  added : ∃ key, l.fresh sink .add = [key] ∧
    (l.after sink .add).table.keys = l.table.keys ++ [key] ∧
    ∀ answer, (l.table.perform sink l.store .add).result = .ok answer → answer = .key key
  /-- A key that is handed out next is one that no row has had so far, nor one
  that the same edit has handed out. -/
  fresh : ∀ e, (l.after sink e).table.size < ordinalCount →
    ∀ i key, (l.fresh sink e)[i]? = some key →
      ((l.given.length + i : Nat) : Int) < ordinalCount - 2 - M →
        key ∉ l.held ∧ key ∉ (l.fresh sink e).take i
  /-- A row that is gone stays gone, and late edits of it hit no other row. -/
  gone : ∀ key ∈ l.held, key ∉ l.table.keys → ∀ l', Relation.ReflTransGen (Step sink) l l' →
    (l'.given.length : Int) ≤ ordinalCount - 2 - M → key ∉ l'.table.keys ∧
      (∀ patch, l'.table.perform sink l'.store (.update key patch) =
        ⟨l'.table, l'.store, .ok (.found false)⟩) ∧
      l'.table.perform sink l'.store (.delete key) = ⟨l'.table, l'.store, .ok (.found false)⟩

/-- **Row keys are unique and never used again.**  However a table is edited,
its keys are distinct; and until the ordinals behind the greatest one in use are
spent, a new key is one that no row has had since the table was opened. -/
theorem keys_never_reused (sink : Sink σ) (s : σ) (t : Table kind.RowType) (opened : t.Opened)
    (distinct : t.keys.Nodup) :
    ∃ M, IsGreatest (Table.usedUp t.rows) M ∧
      ∀ l, Relation.ReflTransGen (Step sink) (Ledger.opened t s) l → KeysApart sink M l := by
  refine ⟨_, opened.isGreatest, fun l path => ?_⟩
  have h := (sound_opened opened s).steps path
  have greatest : greatestOrdinal.toNat = ordinalCount - 1 := rfl
  refine ⟨distinct_steps distinct path, fun e => ?_, exists_added sink l,
    fun e size i key hkey bound => ?_, fun key held gone l' later bound => ?_⟩
  · obtain ⟨kept, count, rekeyed⟩ := exists_rekeyed sink l e
    refine ⟨fun key hkey => rekeyed.keys.symm.subset (List.mem_append_right _ hkey), ?_⟩
    exact fun key hkey => (List.mem_append.mp (rekeyed.keys.subset hkey)).elim
      (fun hkey => List.mem_append_left _ (rekeyed.sub hkey)) (List.mem_append_right _)
  · obtain ⟨kept, count, rekeyed⟩ := exists_rekeyed sink l e
    refine ⟨h.fresh_not_held rekeyed hkey (by omega), fun hmem => ?_⟩
    -- a key stands in one place only
    obtain ⟨j, hj, hkeyj⟩ := List.mem_iff_getElem.mp hmem
    rw [List.getElem_take] at hkeyj
    rw [List.length_take] at hj
    obtain ⟨hlt, hkeyi⟩ := List.getElem?_eq_some_iff.mp hkey
    have := (fresh_apart rekeyed size).1.getElem_inj_iff.mp (hkeyj.trans hkeyi.symm)
    omega
  · have gone := (h.gone_steps held gone later (by omega)).2
    exact ⟨gone, perform_of_gone gone l'.store⟩

/-! A table with a gap in its keys and with the greatest ordinal in use: the
next keys are 5, 6 and so on, and 5 is not used again when its row is deleted. -/

def gapped : Graph where
  nodes := [⟨"n", "envVariables", .obj [("variables", .arr
    [.obj [("key", .int 0), ("name", .str "ENV_4")],
      .obj [("key", .str "18446744073709551615"), ("name", .str "HOME")]])], [], []⟩]

def gappedTable : Table VariableRow where
  node := "n"
  field := "variables"
  entries := [{ row := ⟨"0", "ENV_4", "", ""⟩ },
    { row := ⟨"18446744073709551615", "HOME", "", ""⟩ }]
  nextOrdinal := 5

/-- The table after a new row. -/
def refilled : Ledger .environment Graph :=
  (@Ledger.opened .environment _ gappedTable gapped).after Graph.sink .add

/-- The table after this row is gone again. -/
def emptied : Ledger .environment Graph :=
  refilled.after Graph.sink (.delete "5")

theorem keys_never_reused_gapped :
    (Table.load gapped "n" "variables" : Except TableError (Table VariableRow)) =
        .ok gappedTable ∧
      gappedTable.keys = ["0", "18446744073709551615"] ∧
      (gappedTable.addRow Graph.sink gapped).result.toOption = some "5" ∧
      (emptied.table.perform Graph.sink emptied.store .add).result.toOption = some (.key "6") ∧
      (emptied.after Graph.sink .add).table.keys = ["0", "18446744073709551615", "6"] ∧
      "5" ∈ emptied.held ∧ "6" ∉ emptied.held ∧
      ∃ M, IsGreatest (Table.usedUp gappedTable.rows) M ∧
        KeysApart Graph.sink M (@Ledger.opened .environment _ gappedTable gapped) ∧
        KeysApart Graph.sink M emptied ∧ KeysApart Graph.sink M (emptied.after Graph.sink .add) := by
  have loaded : (Table.load gapped "n" "variables" : Except TableError (Table VariableRow)) =
      .ok gappedTable := by rfl
  have opened : gappedTable.Opened := ⟨"n", "variables", Or.inr ⟨gapped, loaded⟩⟩
  have distinct : gappedTable.keys.Nodup := by decide
  have first : Step Graph.sink (@Ledger.opened .environment _ gappedTable gapped) refilled :=
    ⟨.add, rfl, by decide +kernel⟩
  have second : Step Graph.sink refilled emptied := ⟨.delete "5", rfl, by decide +kernel⟩
  have third : Step Graph.sink emptied (emptied.after Graph.sink .add) :=
    ⟨.add, rfl, by decide +kernel⟩
  obtain ⟨M, greatest, apart⟩ :=
    @keys_never_reused .environment _ Graph.sink gapped gappedTable opened distinct
  refine ⟨loaded, by decide, by decide +kernel, by decide +kernel, by decide +kernel,
    by decide +kernel, by decide +kernel, M, greatest, apart _ .refl, apart _ ?_, apart _ ?_⟩
  · exact (Relation.ReflTransGen.single first).tail second
  · exact ((Relation.ReflTransGen.single first).tail second).tail third

end Ledger

end PipelineScript
