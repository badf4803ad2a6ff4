/-
# What a schema makes of the rows

Applying the columns of a target table rebuilds the rows of a mapping table: one
row for each column, in their order.  A row that has such a column as its output
is somebody's work and is kept; it goes to the first column of its name, and of
several such rows the first one is taken (`Rebuilt`).

`matchColumns` uses the old rows up as it goes, so what it does at one column
depends on the columns before it.  `matchColumns_getElem?` says the same of each
column on its own, in terms of all old rows: a column is new if its name has come
before, and else it takes the first row of its name.  That `withKeys` then only
fills in keys is `withKeys_fills`.
-/
import PipelineScript.Proofs.Table.Keys

namespace PipelineScript

open Text (ordinalCount)

/-- The entry of a column that is its output already. -/
def TableEntry.retyped (e : TableEntry MappingRow) (c : Column) : TableEntry MappingRow :=
  { e with row := { e.row with outputType := c.dataType } }

namespace Table

variable {old : List (TableEntry MappingRow)} {columns : List Column} {c : Column} {i : Nat}

/-- The first entry that has a column of this name as its output. -/
def firstFor (old : List (TableEntry MappingRow)) (name : String) : Option (TableEntry MappingRow) :=
  old.find? (·.row.outputName == name)

/-- The output of an entry: name and type. -/
def output (e : TableEntry MappingRow) : String × String :=
  (e.row.outputName, e.row.outputType)

/-- The output that an entry for a column has. -/
def outputFor (c : Column) : String × String :=
  (c.value, c.dataType)

/-! ## Matching -/

/-- What becomes of a column whose name has not come before. -/
def matchFirst (old : List (TableEntry MappingRow)) (c : Column) : Matched :=
  match firstFor old c.value with
  | some e => .kept (e.retyped c)
  | none => .new c

theorem matchColumns_cons :
    matchColumns old (c :: columns) =
      matchFirst old c :: matchColumns (old.filter (·.row.outputName != c.value)) columns := by
  rw [matchColumns, matchFirst, firstFor]
  cases h : old.find? (·.row.outputName == c.value) with
  | some e => rfl
  | none =>
      have others : old.filter (·.row.outputName != c.value) = old :=
        List.filter_eq_self.mpr fun e he => by simpa using List.find?_eq_none.mp h e he
      rw [others]

theorem firstFor_others (name other : String) :
    firstFor (old.filter (·.row.outputName != name)) other =
      if other = name then none else firstFor old other := by
  rw [firstFor, List.find?_filter]
  split
  · next same =>
    subst same
    exact List.find?_eq_none.mpr fun e _ => by simp
  · next differ =>
    refine congrArg (old.find? ·) (funext fun e => ?_)
    by_cases h : e.row.outputName = other <;> simp [h, differ]

theorem matchColumns_getElem? :
    (matchColumns old columns)[i]? = columns[i]?.map fun c =>
      if c.value ∈ (columns.take i).map (·.value) then .new c else matchFirst old c := by
  induction columns generalizing old i with
  | nil => simp [matchColumns]
  | cons c columns ih =>
      rw [matchColumns_cons]
      cases i with
      | zero => simp
      | succ i =>
          rw [List.getElem?_cons_succ, List.getElem?_cons_succ, ih]
          refine congrArg (columns[i]?.map ·) (funext fun d => ?_)
          rw [List.take_succ_cons, List.map_cons]
          by_cases again : d.value ∈ (columns.take i).map (·.value)
          · rw [if_pos again, if_pos (List.mem_cons_of_mem _ again)]
          by_cases same : d.value = c.value <;> simp [same, matchFirst, firstFor_others]

theorem matchColumns_length : ∀ {columns : List Column} {old : List (TableEntry MappingRow)},
    (matchColumns old columns).length = columns.length
  | [], _ => rfl
  | _ :: _, _ => by rw [matchColumns_cons, List.length_cons, List.length_cons, matchColumns_length]

/-- Entries whose outputs are the columns, each name once, are all kept as they
are. -/
theorem matchColumns_outputs (nodup : (columns.map (·.value)).Nodup)
    (h : old.map output = columns.map outputFor) : matchColumns old columns = old.map .kept := by
  induction columns generalizing old with
  | nil =>
      obtain rfl := List.map_eq_nil_iff.mp h
      rfl
  | cons c columns ih =>
      obtain ⟨e, rest, rfl, he, hrest⟩ := List.map_eq_cons_iff.mp h
      obtain ⟨new, nodup⟩ := List.nodup_cons.mp nodup
      obtain ⟨name, type⟩ := Prod.mk.inj he
      -- the others have other names, so they are all left for the columns to come
      have others : rest.filter (·.row.outputName != c.value) = rest := by
        refine List.filter_eq_self.mpr fun d hd => ?_
        obtain ⟨c', hc', same⟩ := List.mem_map.mp (hrest ▸ List.mem_map_of_mem hd)
        have hne : d.row.outputName ≠ c.value := by
          rintro hd
          exact new (List.mem_map.mpr ⟨c', hc', (congrArg Prod.fst same).trans hd⟩)
        simpa using hne
      have first : matchFirst (e :: rest) c = .kept e := by
        rw [matchFirst, firstFor, List.find?_cons_of_pos (by simpa using name)]
        exact congrArg (fun type => Matched.kept ⟨{ e.row with outputType := type }, _⟩) type.symm
      rw [matchColumns_cons, first, List.filter_cons_of_neg (by simpa using name), others,
        ih nodup hrest, List.map_cons]

/-! ## Filling in keys -/

/-- The entry that is made of a match: a new one is blank, under some key. -/
inductive Fills : Matched → TableEntry MappingRow → Prop
  | kept (e : TableEntry MappingRow) : Fills (.kept e) e
  | new (c : Column) (key : String) : Fills (.new c) { row := ⟨key, none, c.value, c.dataType⟩ }

theorem withKeys_fills {ms : List Matched} {m : Matched} {keys : List String} {next : UInt64}
    (h : ms[i]? = some m) : ∃ e, (withKeys keys next ms).1[i]? = some e ∧ Fills m e := by
  induction ms generalizing keys next i with
  | nil => cases h
  | cons head ms ih =>
      cases i with
      | zero =>
          obtain rfl := Option.some.inj h
          cases head with
          | kept e => exact ⟨e, rfl, .kept e⟩
          | new c => exact ⟨_, rfl, .new c _⟩
      | succ i => cases head <;> exact ih h

theorem withKeys_kept (keys : List String) (next : UInt64) (es : List (TableEntry MappingRow)) :
    withKeys keys next (es.map .kept) = (es, next) := by
  induction es with
  | nil => rfl
  | cons e es ih => rw [List.map_cons, withKeys, ih]

theorem output_matchFirst (old : List (TableEntry MappingRow)) (c : Column)
    {e : TableEntry MappingRow} (h : Fills (matchFirst old c) e) : output e = outputFor c := by
  rw [matchFirst] at h
  split at h
  · next d hd =>
    have name : d.row.outputName = c.value := by simpa using List.find?_some hd
    cases h
    rw [output, outputFor, ← name]
    rfl
  · cases h
    rfl

theorem withKeys_length : ∀ (ms : List Matched) (keys : List String) (next : UInt64),
    (withKeys keys next ms).1.length = ms.length
  | [], _, _ => rfl
  | .kept _ :: ms, keys, next => congrArg (· + 1) (withKeys_length ms keys next)
  | .new _ :: ms, _, _ => congrArg (· + 1) (withKeys_length ms _ _)

/-! ## The rows that a schema makes -/

/-- The entry for a column is a blank one if the name of the column has come
before, and else the first that there was, if there was one. -/
theorem withSchema_getElem? (t : Table MappingRow) (hc : columns[i]? = some c) :
    ∃ e, (t.withSchema columns).entries[i]? = some e ∧
      Fills (if c.value ∈ (columns.take i).map (·.value) then .new c
        else matchFirst t.entries c) e := by
  refine withKeys_fills ?_
  rw [matchColumns_getElem?, hc]
  rfl

theorem withSchema_outputs (t : Table MappingRow) (columns : List Column) :
    (t.withSchema columns).entries.map output = columns.map outputFor := by
  have size : (t.withSchema columns).entries.length = columns.length :=
    (withKeys_length _ _ _).trans matchColumns_length
  refine List.ext_getElem (by simp [size]) fun i hi hi' => ?_
  rw [List.length_map] at hi'
  obtain ⟨e, he, fills⟩ := t.withSchema_getElem? (List.getElem?_eq_getElem hi')
  rw [List.getElem_map, List.getElem_map, (List.getElem?_eq_some_iff.mp he).2]
  split at fills
  · cases fills
    rfl
  · exact output_matchFirst t.entries _ fills

/-- Columns of different names change nothing when they are applied again. -/
theorem withSchema_again (t : Table MappingRow) (nodup : (columns.map (·.value)).Nodup) :
    (t.withSchema columns).withSchema columns = t.withSchema columns := by
  rw [withSchema, matchColumns_outputs nodup (t.withSchema_outputs columns), withKeys_kept]
  rfl

/-- The rows of a table after a schema has been applied.  Each column has one, in
order.  The first column of a name gets the first row that had it as its output,
if there was one, with nothing changed but the type of the output; every other
row is blank, under a key of its own. -/
structure Rebuilt (t t' : Table MappingRow) (columns : List Column) : Prop where
  outputs : t'.rows.map (fun r => (r.outputName, r.outputType)) =
    columns.map fun c => (c.value, c.dataType)
  kept : ∀ i c e, columns[i]? = some c → c.value ∉ (columns.take i).map (·.value) →
    t.entries.find? (·.row.outputName == c.value) = some e →
      t'.entries[i]? = some ⟨{ e.row with outputType := c.dataType }, e.state⟩
  blank : ∀ i c, columns[i]? = some c →
    ¬(c.value ∉ (columns.take i).map (·.value) ∧ ∃ r ∈ t.rows, r.outputName = c.value) →
      ∃ key, t'.entries[i]? = some ⟨⟨key, none, c.value, c.dataType⟩, .pristine⟩
  /-- No list in memory is so long that the ordinals would not do for it. -/
  distinct : columns.length ≤ ordinalCount → t'.keys.Nodup
  choices : t'.choices = t.choices

theorem rebuilt_withSchema (t : Table MappingRow) (columns : List Column)
    (distinct : t.keys.Nodup) : t.Rebuilt (t.withSchema columns) columns where
  outputs := by
    rw [rows, List.map_map]
    exact t.withSchema_outputs columns
  kept i c e hc first he := by
    obtain ⟨e', he', fills⟩ := t.withSchema_getElem? hc
    rw [if_neg first, matchFirst, firstFor, he] at fills
    cases fills
    exact he'
  blank i c hc other := by
    obtain ⟨e', he', fills⟩ := t.withSchema_getElem? hc
    have new : (if c.value ∈ (columns.take i).map (·.value) then .new c
        else matchFirst t.entries c) = Matched.new c := by
      refine ite_eq_left_iff.mpr fun first => ?_
      have missing : firstFor t.entries c.value = none := by
        refine List.find?_eq_none.mpr fun e he name => ?_
        exact other ⟨first, e.row, List.mem_map_of_mem he, by simpa using name⟩
      rw [matchFirst, missing]
    rw [new] at fills
    cases fills
    exact ⟨_, he'⟩
  distinct room := by
    have size : (t.withSchema columns).size = columns.length := by
      have := congrArg List.length (t.withSchema_outputs columns)
      rwa [List.length_map, List.length_map] at this
    exact (rekeyed_withSchema t columns).distinct (size ▸ room) distinct
  choices := rfl

/-- **Applying a schema keeps the user's work.**  If it succeeds, the sink has
the rebuilt rows; and if the columns have different names, then applying them
again changes nothing. -/
theorem applySchema_keeps_work {σ : Type} (sink : Sink σ) (s : σ) (t : Table MappingRow)
    (columns : List Column) (distinct : t.keys.Nodup)
    (success : (t.applySchema sink s columns).result = .ok ()) :
    ∃ t', (t.applySchema sink s columns).table = t' ∧ t.Rebuilt t' columns ∧
      (sink.write t.node t.field t'.value).run s = .ok () (t.applySchema sink s columns).sink ∧
      ((columns.map (·.value)).Nodup → ∀ s', (t'.applySchema sink s' columns).table = t') := by
  refine ⟨t.withSchema columns, by rw [applySchema_eq, commit_table],
    rebuilt_withSchema t columns distinct, ?_, fun nodup s' => ?_⟩
  · rw [applySchema_eq, commit_eq] at success ⊢
    show (sink.write (t.withSchema columns).node (t.withSchema columns).field _).run s = _
    split at success
    · next s' hs' => rw [hs']
    · cases success
  · rw [applySchema_eq, commit_table, withSchema_again t nodup]

/-! Two rows for `email`, the first of them being edited, and one that no column
has any more; none of the keys is the next one to be handed out.  The columns
bring a new one and repeat `email`. -/

def drafted : Table MappingRow where
  node := "n"
  field := "mapping"
  entries := [⟨⟨"1", none, "gone", "int"⟩, .committed⟩,
    ⟨⟨"x", some ⟨"Mail", "mail", "object", true⟩, "email", "text"⟩, .editing⟩,
    ⟨⟨"y", some ⟨"E-Mail", "e_mail", "object", true⟩, "email", "text"⟩, .pristine⟩]

def target : List Column :=
  [⟨"Id", "id", "bigint", true⟩, ⟨"Email", "email", "varchar(320)", true⟩,
    ⟨"Email", "email", "varchar(64)", true⟩]

def writer : Graph where
  nodes := [⟨"n", "sqlTableOutput", .null, ["in"], []⟩]

theorem applySchema_keeps_work_drafted :
    drafted.keys.Nodup ∧ (drafted.applySchema Graph.sink writer target).result = .ok () ∧
      ∃ t', (drafted.applySchema Graph.sink writer target).table = t' ∧
        drafted.Rebuilt t' target ∧
        t'.entries = [⟨⟨"0", none, "id", "bigint"⟩, .pristine⟩,
          ⟨⟨"x", some ⟨"Mail", "mail", "object", true⟩, "email", "varchar(320)"⟩, .editing⟩,
          ⟨⟨"1", none, "email", "varchar(64)"⟩, .pristine⟩] := by
  have distinct : drafted.keys.Nodup := by decide
  have success : (drafted.applySchema Graph.sink writer target).result = .ok () := by rfl
  obtain ⟨t', ht', rebuilt, -, -⟩ :=
    applySchema_keeps_work Graph.sink writer drafted target distinct success
  exact ⟨distinct, success, t', ht', rebuilt, ht' ▸ by decide +kernel⟩

end Table

end PipelineScript
