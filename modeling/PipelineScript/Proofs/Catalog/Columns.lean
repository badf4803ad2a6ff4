/-
# What a mapping table does to a frame

The code of a projection renames columns by a dictionary and selects columns by
their labels.  `Frame.evaluate` reads such code back and carries it out as the
script's language does: of several entries of a dictionary for one key the last one
counts, the labels that it has are replaced and all others stay, and a selection
takes every column with a label and fails without one.

A dictionary has one name for a label, though, and a selection does not see where a
label comes from.  So the rows of a table get in each other's way when they share an
input column, and a column that no row takes gets in the way when it already has the
name of an output (`Unhindered`).  Otherwise each row has its column under its name
(`delivers_of_unhindered`), be the names swapped around or not, and nothing less
than that will do (`unhindered_of_delivers`).
-/
import PipelineScript.Proofs.Catalog.Literals
import PipelineScript.Proofs.Lookup
import PipelineScript.Proofs.Pointwise
import PipelineScript.Proofs.Text.Reader

namespace PipelineScript.Catalog

open Text (Reader)

variable {α : Type}

/-! ## Frames -/

/-- The label of a column: a name, or its index. -/
inductive Key where
  | text (name : String)
  | number (n : Int)
deriving Repr, DecidableEq

/-- The columns of a frame with their labels, in order. -/
abbrev Frame (α : Type) := List (Key × α)

/-- A dictionary of labels and their new names. -/
abbrev Renaming := List (Key × String)

/-- The label after the renaming; the last entry for it counts. -/
def Renaming.apply (entries : Renaming) (key : Key) : Key :=
  match entries.reverse.lookup key with
  | some name => .text name
  | none => key

namespace Frame

/-- The frame with other labels. -/
def renamed (frame : Frame α) (entries : Renaming) : Frame α :=
  frame.map fun column => (entries.apply column.1, column.2)

/-- The columns under a label; there must be one. -/
def under (frame : Frame α) (key : Key) : Option (Frame α) :=
  match frame.filter fun column => column.1 == key with
  | [] => none
  | columns => some columns

/-- The columns with these names, in the order of the names. -/
def selected (frame : Frame α) (names : List String) : Option (Frame α) :=
  (names.mapM fun name => frame.under (.text name)).map List.flatten

/-! ## Reading the code -/

/-- A label: a literal or a numeral. -/
def keyReader : Reader Key :=
  (Reader.text.map .text).either (Reader.numeral.map fun n : Nat => .number n)

/-- A dictionary of labels and names. -/
def renamingReader : Reader Renaming :=
  (keyReader.pair ':' .text).list '\x7b' '\x7d'

/-- The renaming and the selection that the code consists of. -/
def readProjection (code : String) : Option (Renaming × List String) := do
  let rest ← Text.afterWord ".rename(columns=" code.toList
  let (entries, rest) ← renamingReader.read rest
  let rest ← Text.afterWord ")[" rest
  let (names, rest) ← Reader.textList.read rest
  let rest ← Text.afterWord "]" rest
  if rest.isEmpty then some (entries, names) else none

/-- What the code makes of a frame, if it is a renaming and a selection that finds all
its columns. -/
def evaluate (code : String) (frame : Frame α) : Option (Frame α) :=
  (readProjection code).bind fun read => (frame.renamed read.1).selected read.2

end Frame

/-- The label as it stands in a frame. -/
def Label.key : Label → Key
  | named name => .text name
  | positional index => .number index.toNat

/-- The renaming of a projection. -/
def Projection.renaming (p : Projection) : Renaming :=
  p.map fun e => (e.1.key, e.2)

/-! ## The code is read back -/

theorem toList_ordinalText (n : UInt64) :
    (Text.ordinalText n).toList = Nat.toDigits 10 n.toNat :=
  Nat.toList_repr

theorem exists_first_digit (n : Nat) :
    ∃ c cs, Nat.toDigits 10 n = c :: cs ∧ c.isDigit = true := by
  obtain ⟨c, cs, digits⟩ := List.exists_cons_of_ne_nil (@Nat.toDigits_ne_nil n 10)
  refine ⟨c, cs, digits, ?_⟩
  exact Nat.isDigit_of_mem_toDigits (by decide) (by decide) (digits ▸ List.mem_cons_self)

theorem read_label (label : Label) (rest : List Char) :
    Frame.keyReader.read (label.code.toList ++ ':' :: rest) = some (label.key, ':' :: rest) := by
  cases label with
  | named name =>
      have text := Reader.read_literal name (':' :: rest)
      simp only [Frame.keyReader, Reader.either, Reader.map, Label.code, text]
      rfl
  | positional index =>
      have number := Reader.read_numeral index.toNat (by decide : ':'.isDigit = false) rest
      obtain ⟨c, cs, digits, hc⟩ := exists_first_digit index.toNat
      have unquoted : c ≠ '"' := by
        rintro rfl
        exact absurd hc (by decide)
      have text : Reader.text.read (Nat.toDigits 10 index.toNat ++ ':' :: rest) = none := by
        rw [digits]
        exact Reader.read_text_of_ne unquoted _
      simp only [Frame.keyReader, Reader.either, Reader.map, Label.code, toList_ordinalText, text,
        number]
      rfl

/-- The code of one entry. -/
def entryCode (e : Label × String) : List Char :=
  (e.1.code ++ ": " ++ Text.literal e.2).toList

theorem entryCode_eq (e : Label × String) :
    entryCode e = e.1.code.toList ++ ':' :: ' ' :: (Text.literal e.2).toList := by
  rw [entryCode, String.toList_append, String.toList_append, List.append_assoc]
  rfl

theorem entryCode_bare (e : Label × String) :
    ∃ c cs, entryCode e = c :: cs ∧ c ≠ ' ' ∧ c ≠ '\x7d' := by
  obtain ⟨label, name⟩ := e
  cases label with
  | named source =>
      obtain ⟨cs, quoted⟩ := Text.exists_quote source
      refine ⟨'"', cs ++ ':' :: ' ' :: (Text.literal name).toList, ?_, by decide, by decide⟩
      rw [entryCode_eq, Label.code, quoted]
      rfl
  | positional index =>
      obtain ⟨c, cs, digits, hc⟩ := exists_first_digit index.toNat
      refine ⟨c, cs ++ ':' :: ' ' :: (Text.literal name).toList, ?_, ?_, ?_⟩
      · rw [entryCode_eq, Label.code, toList_ordinalText, digits]
        rfl
      · rintro rfl
        exact absurd hc (by decide)
      · rintro rfl
        exact absurd hc (by decide)

theorem takes_entry :
    (Frame.keyReader.pair ':' Reader.text).Takes entryCode fun e => (e.1.key, e.2) := by
  rintro ⟨label, name⟩ rest
  obtain ⟨cs, quoted⟩ := Text.exists_quote name
  have text := Reader.read_literal name rest
  rw [quoted, List.cons_append] at text
  rw [entryCode_eq, List.append_assoc, List.cons_append, List.cons_append, quoted, List.cons_append,
    Reader.read_pair (by decide) (by decide) (read_label label _), text]
  rfl

-- for any texts: to look for an append in a goal with literals takes them apart
theorem toList_pieces (a b c d e : String) :
    (a ++ b ++ c ++ d ++ e).toList = a.toList ++ b.toList ++ c.toList ++ d.toList ++ e.toList := by
  rw [String.toList_append, String.toList_append, String.toList_append, String.toList_append]

theorem toList_code (p : Projection) :
    p.code.toList = ".rename(columns=".toList ++
      ('\x7b' :: (Reader.spaced entryCode p ++ ['\x7d']) ++ (")[".toList ++
        ((Text.literalList (p.map Prod.snd)).toList ++ ("]".toList ++ [])))) := by
  have opening : ".rename(columns=\x7b".toList = ".rename(columns=".toList ++ ['\x7b'] := by rfl
  have closing : "\x7d)[".toList = '\x7d' :: ")[".toList := by rfl
  have entries : (", ".intercalate (p.map fun e => e.1.code ++ ": " ++ Text.literal e.2)).toList =
      Reader.spaced entryCode p := Reader.toList_spaced _ p
  refine (toList_pieces _ _ _ _ _).trans ?_
  rw [opening, closing, entries]
  simp only [List.append_assoc, List.cons_append, List.nil_append, List.append_nil]

/-- The code of a projection is read as what it was written for. -/
theorem readProjection_code (p : Projection) :
    Frame.readProjection p.code = some (p.renaming, p.map Prod.snd) := by
  have entries : ∀ rest, Frame.renamingReader.read
      ('\x7b' :: (Reader.spaced entryCode p ++ ['\x7d']) ++ rest) = some (p.renaming, rest) :=
    Reader.Takes.list entryCode_bare takes_entry (by decide) (by decide) (by decide) p
  rw [Frame.readProjection, toList_code]
  simp only [Text.afterWord_append, entries, Reader.read_literalList, bind, Option.bind_some]
  rfl

theorem evaluate_code (p : Projection) (frame : Frame α) :
    frame.evaluate p.code = (frame.renamed p.renaming).selected (p.map Prod.snd) := by
  rw [Frame.evaluate, readProjection_code, Option.bind_some]

/-! ## Labels after a renaming -/

section Labels
variable {entries : Renaming} {key : Key} {name : String}

theorem apply_of_mem (apart : (entries.map Prod.fst).Nodup) (h : (key, name) ∈ entries) :
    entries.apply key = .text name := by
  have distinct : (entries.reverse.map Prod.fst).Nodup := by
    rw [List.map_reverse]
    exact List.nodup_reverse.mpr apart
  have found : entries.reverse.lookup key = some name :=
    (lookup_eq_some_iff_mem distinct).mpr (List.mem_reverse.mpr h)
  rw [Renaming.apply, found]

theorem apply_of_not_mem (h : key ∉ entries.map Prod.fst) : entries.apply key = key := by
  cases found : entries.reverse.lookup key with
  | none => rw [Renaming.apply, found]
  | some name =>
      have entry := List.mem_reverse.mp (mem_of_lookup found)
      exact absurd (List.mem_map_of_mem entry) h

/-- A label that is a name after the renaming was renamed, or was this name before. -/
theorem of_apply_eq_text (h : entries.apply key = .text name) :
    (key, name) ∈ entries ∨ key ∉ entries.map Prod.fst ∧ key = .text name := by
  by_cases taken : key ∈ entries.map Prod.fst
  · have listed : key ∈ entries.reverse.map Prod.fst := by
      rw [List.map_reverse]
      exact List.mem_reverse.mpr taken
    obtain ⟨other, found⟩ := exists_lookup listed
    rw [Renaming.apply, found] at h
    cases h
    exact Or.inl (List.mem_reverse.mp (mem_of_lookup found))
  · rw [apply_of_not_mem taken] at h
    exact Or.inr ⟨taken, h⟩

end Labels

/-! ## Columns after a renaming and a selection -/

section Selection
variable {frame f : Frame α} {entries : Renaming} {names : List String}

theorem mem_renamed {column : Key × α} :
    column ∈ frame.renamed entries ↔ ∃ key, (key, column.2) ∈ frame ∧ entries.apply key = column.1 := by
  rw [Frame.renamed, List.mem_map]
  constructor
  · rintro ⟨⟨key, d⟩, hmem, rfl⟩
    exact ⟨key, hmem, rfl⟩
  · rintro ⟨key, hmem, label⟩
    exact ⟨(key, column.2), hmem, Prod.ext label rfl⟩

theorem eq_filter_of_under {key : Key} {block : Frame α} (h : frame.under key = some block) :
    block = frame.filter fun column => column.1 == key := by
  rw [Frame.under] at h
  split at h
  · cases h
  · exact (Option.some.inj h).symm

theorem selected_eq_some_iff :
    frame.selected names = some f ↔ ∃ blocks,
      List.Forall₂ (fun name block => frame.under (.text name) = some block) names blocks ∧
        blocks.flatten = f := by
  rw [Frame.selected, Option.map_eq_some_iff]
  exact exists_congr fun _ => and_congr_left fun _ => mapM_eq_some_iff

/-- A selection takes all columns with one of the names, and no others. -/
theorem mem_selected (h : frame.selected names = some f) {column : Key × α} :
    column ∈ f ↔ column ∈ frame ∧ ∃ name ∈ names, column.1 = .text name := by
  obtain ⟨blocks, named, rfl⟩ := selected_eq_some_iff.mp h
  rw [List.mem_flatten]
  constructor
  · rintro ⟨block, hblock, hmem⟩
    obtain ⟨name, hname, under⟩ := exists_left_of_mem named hblock
    rw [eq_filter_of_under under, List.mem_filter] at hmem
    exact ⟨hmem.1, name, hname, eq_of_beq hmem.2⟩
  · rintro ⟨hmem, name, hname, label⟩
    obtain ⟨block, hblock, under⟩ := exists_right_of_mem named hname
    refine ⟨block, hblock, ?_⟩
    rw [eq_filter_of_under under, List.mem_filter]
    exact ⟨hmem, beq_iff_eq.mpr label⟩

/-- One column is found under a name if it is the only one that comes to have it. -/
theorem under_renamed (labels : (frame.map Prod.fst).Nodup) {key : Key} {d : α} {name : String}
    (hmem : (key, d) ∈ frame) (new : entries.apply key = .text name)
    (only : ∀ other ∈ frame.map Prod.fst, entries.apply other = .text name → other = key) :
    (frame.renamed entries).under (.text name) = some [(.text name, d)] := by
  have same : ∀ column ∈ frame,
      (entries.apply column.1 == .text name) = (column.1 == key) := by
    intro column hcolumn
    rw [Bool.eq_iff_iff, beq_iff_eq, beq_iff_eq]
    constructor
    · exact only column.1 (List.mem_map_of_mem hcolumn)
    · intro he
      rw [he, new]
  have columns : (frame.renamed entries).filter (fun column => column.1 == .text name) =
      [(.text name, d)] := by
    rw [Frame.renamed, List.filter_map]
    have taken : frame.filter ((fun column : Key × α => column.1 == .text name) ∘
        fun column => (entries.apply column.1, column.2)) = [(key, d)] :=
      (List.filter_congr same).trans (filter_key_of_mem labels hmem)
    rw [taken, List.map_singleton, new]
  rw [Frame.under, columns]

end Selection

/-! ## What the rows ask for -/

/-- The label of the column that a row takes, if it has one. -/
def inputKey? (r : MappingRow) : Option Key :=
  r.input.bind fun c =>
    if c.named then some (.text c.value)
    else (Text.ordinalOfText? (Text.trim c.value)).map fun index => .number index.toNat

/-- One column for each row, in order: under the row's output name, with the data of
the row's input column. -/
def Delivers (frame : Frame α) (rs : List MappingRow) (f : Frame α) : Prop :=
  List.Forall₂ (fun r column => ∃ key, inputKey? r = some key ∧ (key, column.2) ∈ frame ∧
    column.1 = .text r.outputName) rs f

/-- Nothing gets in the way of the rows: they take different columns, and a column
that already has the name of an output is taken by one of them. -/
structure Unhindered (frame : Frame α) (rs : List MappingRow) : Prop where
  apart : (rs.map inputKey?).Nodup
  clear : ∀ r ∈ rs, .text r.outputName ∈ frame.map Prod.fst →
    ∃ s ∈ rs, inputKey? s = some (.text r.outputName)

theorem inputKey?_of_labelOf {r : MappingRow} {c : Column} {label : Label}
    (hc : r.input = some c) (hl : labelOf c = .ok label) : inputKey? r = some label.key := by
  rw [inputKey?, hc, Option.bind_some]
  unfold labelOf at hl
  split at hl
  · next named =>
    cases hl
    exact if_pos named
  · next positional =>
    split at hl
    · next index hi =>
      cases hl
      rw [if_neg positional, hi]
      rfl
    · cases hl

theorem sources_eq {p : Projection} : ∀ {rs : List MappingRow},
    (∀ r ∈ rs, r.input.isSome = true) → Projection.ofComplete rs = .ok p →
      rs.map (fun r => (inputKey? r, r.outputName)) = p.renaming.map fun e => (some e.1, e.2) := by
  intro rs
  induction rs generalizing p with
  | nil =>
      intro _ h
      cases h
      rfl
  | cons r rs ih =>
      intro complete h
      obtain ⟨hr, hrs⟩ := List.forall_mem_cons.mp complete
      obtain ⟨c, label, more, hc, hl, hm, rfl⟩ := ofComplete_cons_eq_ok hr h
      rw [List.map_cons, ih hrs hm, inputKey?_of_labelOf hc hl]
      rfl

theorem sources_of_projection {rows : List MappingRow} {p : Projection}
    (h : projection rows = .done (some p)) :
    (completeRows rows).map (fun r => (inputKey? r, r.outputName)) =
      p.renaming.map fun e => (some e.1, e.2) := by
  refine sources_eq (fun _ => input_isSome_of_mem_completeRows) ?_
  simp only [projection] at h
  split at h
  · cases h
  · split at h
    · cases h
    · split at h
      · next hp =>
        cases h
        exact hp
      · cases h

section Rows
variable {rs : List MappingRow} {entries : Renaming} {frame f : Frame α}
  (sources : rs.map (fun r => (inputKey? r, r.outputName)) = entries.map fun e => (some e.1, e.2))
include sources

theorem mem_entries_iff {key : Key} {name : String} :
    (key, name) ∈ entries ↔ ∃ r ∈ rs, inputKey? r = some key ∧ r.outputName = name := by
  have entry : (key, name) ∈ entries ↔ (some key, name) ∈ entries.map fun e => (some e.1, e.2) := by
    simp
  rw [entry, ← sources, List.mem_map]
  exact exists_congr fun r => and_congr_right fun _ => Prod.mk.injEq .. ▸ Iff.rfl

theorem names_eq : entries.map Prod.snd = rs.map (·.outputName) := by
  have names := congrArg (List.map Prod.snd) sources
  rw [List.map_map, List.map_map] at names
  exact names.symm

theorem keys_eq : rs.map inputKey? = (entries.map Prod.fst).map some := by
  have keys := congrArg (List.map Prod.fst) sources
  rw [List.map_map, List.map_map] at keys
  rw [List.map_map]
  exact keys

theorem key_mem_iff {key : Key} :
    key ∈ entries.map Prod.fst ↔ ∃ r ∈ rs, inputKey? r = some key := by
  have taken : key ∈ entries.map Prod.fst ↔ some key ∈ (entries.map Prod.fst).map some := by simp
  rw [taken, ← keys_eq sources, List.mem_map]

variable (outputs : (rs.map (·.outputName)).Nodup) (labels : (frame.map Prod.fst).Nodup)
include outputs labels

theorem delivers_of_unhindered
    (present : ∀ r ∈ rs, ∃ key, inputKey? r = some key ∧ key ∈ frame.map Prod.fst)
    (unhindered : Unhindered frame rs) :
    ∃ f, (frame.renamed entries).selected (entries.map Prod.snd) = some f ∧
      Delivers frame rs f := by
  have apart : (entries.map Prod.fst).Nodup := by
    have apart := unhindered.apart
    rw [keys_eq sources] at apart
    exact .of_map _ apart
  have column : ∀ r ∈ rs, ∃ column : Key × α,
      (∃ key, inputKey? r = some key ∧ (key, column.2) ∈ frame ∧
        column.1 = .text r.outputName) ∧
      (frame.renamed entries).under (.text r.outputName) = some [column] := by
    intro r hr
    obtain ⟨_, hkey, hlabel⟩ := present r hr
    obtain ⟨⟨key, d⟩, hmem, rfl⟩ := List.mem_map.mp hlabel
    have new := apply_of_mem apart ((mem_entries_iff sources).mpr ⟨r, hr, hkey, rfl⟩)
    refine ⟨(.text r.outputName, d), ⟨_, hkey, hmem, rfl⟩, under_renamed labels hmem new ?_⟩
    -- another column comes by the name through its own row, or had it before
    intro other hother same
    rcases of_apply_eq_text same with entry | ⟨untaken, rfl⟩
    · obtain ⟨s, hs, hskey, name⟩ := (mem_entries_iff sources).mp entry
      obtain rfl : s = r := List.inj_on_of_nodup_map outputs hs hr name
      exact Option.some.inj (hskey.symm.trans hkey)
    · exact absurd ((key_mem_iff sources).mpr (unhindered.clear r hr hother)) untaken
  obtain ⟨f, columns⟩ := exists_forall₂ column
  refine ⟨f, selected_eq_some_iff.mpr ⟨f.map fun column => [column], ?_, ?_⟩, ?_⟩
  · rw [names_eq sources, List.forall₂_map_left_iff, List.forall₂_map_right_iff]
    exact columns.imp fun _ _ h => h.2
  · rw [← List.flatMap_def]
    exact List.flatMap_singleton' f
  · exact columns.imp fun _ _ h => h.1

/-- Only unhindered rows have their columns, if the columns of the frame can be told
apart by what they hold. -/
theorem unhindered_of_delivers (data : (frame.map Prod.snd).Nodup)
    (selected : (frame.renamed entries).selected (entries.map Prod.snd) = some f)
    (delivers : Delivers frame rs f) : Unhindered frame rs := by
  have unique : ∀ {key other : Key} {d : α}, (key, d) ∈ frame → (other, d) ∈ frame →
      key = other := by
    intro key other d hkey hother
    exact (Prod.mk.inj (List.inj_on_of_nodup_map data hkey hother rfl)).1
  refine ⟨List.Nodup.map_on ?_ (.of_map _ outputs), ?_⟩
  · intro r hr s hs same
    obtain ⟨⟨_, d⟩, hcolumn, key, hkey, hmem, rfl⟩ := exists_right_of_mem delivers hr
    obtain ⟨⟨_, d'⟩, hcolumn', key', hkey', hmem', rfl⟩ := exists_right_of_mem delivers hs
    obtain rfl : key = key' := Option.some.inj (hkey.symm.trans (same.trans hkey'))
    obtain rfl : d = d' :=
      (Prod.mk.inj (List.inj_on_of_nodup_map labels hmem hmem' rfl)).2
    -- both columns of the result are one column of the frame, which has one label
    obtain ⟨source, hsource, new⟩ := mem_renamed.mp ((mem_selected selected).mp hcolumn).1
    obtain ⟨source', hsource', new'⟩ := mem_renamed.mp ((mem_selected selected).mp hcolumn').1
    obtain rfl : source = source' := unique hsource hsource'
    have name : r.outputName = s.outputName := Key.text.inj (new.symm.trans new')
    exact List.inj_on_of_nodup_map outputs hr hs name
  · intro r hr hlabel
    obtain ⟨⟨_, d⟩, hmem, label⟩ := List.mem_map.mp hlabel
    obtain rfl := label
    by_contra untaken
    have stays := apply_of_not_mem (mt (key_mem_iff sources).mp untaken)
    have name : r.outputName ∈ entries.map Prod.snd :=
      names_eq sources ▸ List.mem_map_of_mem hr
    have hcolumn : (.text r.outputName, d) ∈ f := (mem_selected selected).mpr
      ⟨mem_renamed.mpr ⟨_, hmem, stays⟩, _, name, rfl⟩
    obtain ⟨s, hs, key, hkey, hmem', -⟩ := exists_left_of_mem delivers hcolumn
    exact untaken ⟨s, hs, unique hmem' hmem ▸ hkey⟩

end Rows

/-- **A column mapping delivers its columns**, unless the rows or another column are in
the way.  The outputs of the complete rows are different, the labels of the frame are,
and the frame has all inputs; then the code yields one column for each complete row, in
order, under the row's output name and with the data of its input column, if the rows
are unhindered, and only then if the frame holds no data twice. -/
theorem projection_delivers (rows : List MappingRow) (p : Projection)
    (done : projection rows = .done (some p))
    (outputs : ((completeRows rows).map (·.outputName)).Nodup) (frame : Frame α)
    (labels : (frame.map Prod.fst).Nodup)
    (present : ∀ r ∈ completeRows rows,
      ∃ key, inputKey? r = some key ∧ key ∈ frame.map Prod.fst) :
    (Unhindered frame (completeRows rows) →
        ∃ f, frame.evaluate p.code = some f ∧ Delivers frame (completeRows rows) f) ∧
      ((frame.map Prod.snd).Nodup →
        (∃ f, frame.evaluate p.code = some f ∧ Delivers frame (completeRows rows) f) →
          Unhindered frame (completeRows rows)) := by
  have sources := sources_of_projection done
  have names : p.renaming.map Prod.snd = p.map Prod.snd := by
    rw [Projection.renaming, List.map_map]
    rfl
  rw [evaluate_code, ← names]
  constructor
  · intro unhindered
    exact delivers_of_unhindered sources outputs labels present unhindered
  · rintro data ⟨f, selected, delivers⟩
    exact unhindered_of_delivers sources outputs labels data selected delivers

/-- Two columns swap their names, one goes by its index, and a row is not complete. -/
def swapping : List MappingRow :=
  [⟨"0", some ⟨"a", "a", "int64", true⟩, "b", ""⟩, ⟨"1", some ⟨"b", "b", "int64", true⟩, "a", ""⟩,
    ⟨"2", none, "d", ""⟩, ⟨"3", some ⟨"#3", " 3 ", "", false⟩, "c", ""⟩]

/-- Four columns, of which one is not mapped. -/
def wide : Frame Nat :=
  [(.text "a", 10), (.text "b", 11), (.text "z", 12), (.number 3, 13)]

theorem projection_delivers_swapping :
    ∃ p, projection swapping = .done (some p) ∧
      ((completeRows swapping).map (·.outputName)).Nodup ∧ (wide.map Prod.fst).Nodup ∧
      (∀ r ∈ completeRows swapping, ∃ key, inputKey? r = some key ∧ key ∈ wide.map Prod.fst) ∧
      Unhindered wide (completeRows swapping) ∧
      wide.evaluate p.code = some [(.text "b", 10), (.text "a", 11), (.text "c", 13)] ∧
      ∃ f, wide.evaluate p.code = some f ∧ Delivers wide (completeRows swapping) f := by
  have done : projection swapping =
      .done (some [(.named "a", "b"), (.named "b", "a"), (.positional 3, "c")]) := by rfl
  have outputs : ((completeRows swapping).map (·.outputName)).Nodup := by decide
  have labels : (wide.map Prod.fst).Nodup := by decide
  have present : ∀ r ∈ completeRows swapping,
      ∃ key, inputKey? r = some key ∧ key ∈ wide.map Prod.fst := by
    have complete : completeRows swapping = [swapping[0], swapping[1], swapping[3]] := by rfl
    simp only [complete, List.forall_mem_cons, List.not_mem_nil, false_implies, implies_true,
      and_true]
    exact ⟨⟨.text "a", rfl, by decide⟩, ⟨.text "b", rfl, by decide⟩, ⟨.number 3, rfl, by decide⟩⟩
  have unhindered : Unhindered wide (completeRows swapping) := ⟨by decide, by decide⟩
  refine ⟨_, done, outputs, labels, present, unhindered, ?_,
    (projection_delivers swapping _ done outputs wide labels present).1 unhindered⟩
  rw [evaluate_code]
  rfl

/-- Two rows with one input. -/
def sharing : List MappingRow :=
  [⟨"0", some ⟨"a", "a", "int64", true⟩, "x", ""⟩, ⟨"1", some ⟨"a", "a", "int64", true⟩, "y", ""⟩]

/-- A row whose output has the name of another column. -/
def shadowing : List MappingRow :=
  [⟨"0", some ⟨"a", "a", "int64", true⟩, "b", ""⟩]

/-- In both cases all columns are there, but the code does not deliver: it fails, or it
yields the other column as well. -/
theorem projection_undelivered :
    (wide.map Prod.fst).Nodup ∧
      (∃ p, projection sharing = .done (some p) ∧
        ((completeRows sharing).map (·.outputName)).Nodup ∧
        (∀ r ∈ completeRows sharing, inputKey? r = some (.text "a")) ∧
        .text "a" ∈ wide.map Prod.fst ∧ wide.evaluate p.code = none) ∧
      ∃ p, projection shadowing = .done (some p) ∧
        ((completeRows shadowing).map (·.outputName)).Nodup ∧
        (∀ r ∈ completeRows shadowing, inputKey? r = some (.text "a")) ∧
        wide.evaluate p.code = some [(.text "b", 10), (.text "b", 11)] ∧
        ¬ Delivers wide (completeRows shadowing) [(.text "b", 10), (.text "b", 11)] := by
  have shared : projection sharing = .done (some [(.named "a", "x"), (.named "a", "y")]) := by rfl
  have shadowed : projection shadowing = .done (some [(.named "a", "b")]) := by rfl
  refine ⟨by decide, ⟨_, shared, by decide, by decide, by decide, ?_⟩,
    ⟨_, shadowed, by decide, by decide, ?_, ?_⟩⟩
  · rw [evaluate_code]
    rfl
  · rw [evaluate_code]
    rfl
  · intro delivers
    exact absurd delivers.length_eq (by decide)

end PipelineScript.Catalog
