/-
# Editable tables

A table holds the rows of one configuration field of one node while a user
edits them.  Every change of the rows is written to a sink, as a rule the
graph, before it is answered; the change stays in the table even when the
sink refuses it.  New rows get a key that no row of the table has.
-/
import PipelineScript.Graph.Edit
import PipelineScript.Schema.Error
import PipelineScript.Table.Row

namespace PipelineScript

/-- How far the editing of a row has come. -/
inductive RowState where
  /-- Not touched since it was added or loaded. -/
  | pristine
  | editing
  | committed
deriving Repr, DecidableEq

/-- What a table knows of its last question to the schema backend. -/
inductive LookupStatus where
  | idle
  | pending
  | failed (message : String) (retryable : Bool)
deriving Repr, DecidableEq

/-- A row in a table. -/
structure TableEntry (ρ : Type) where
  row : ρ
  state : RowState := .pristine
deriving Repr, DecidableEq

/-- The rows of one field of one node, under edit. -/
structure Table (ρ : Type) where
  node : String
  field : String
  entries : List (TableEntry ρ) := []
  /-- Where the search for the next key starts. -/
  nextOrdinal : UInt64 := 0
  /-- The upstream columns that can be selected. -/
  choices : List Column := []
  status : LookupStatus := .idle
deriving Repr, DecidableEq

/-- Why a table refuses. -/
inductive TableError where
  /-- The field holds no rows. -/
  | notATable (node field : String) (cause : Json.Mismatch)
  | graph (cause : GraphError)
deriving Repr

def TableError.message : TableError → String
  | notATable node field cause =>
    "Field '" ++ field ++ "' of node '" ++ node ++ "' does not hold a valid row table: " ++
      cause.message
  | graph cause => cause.message

/-- Where tables write their rows: a value under a node and a field.  A write
that is refused may leave its traces, too. -/
structure Sink (σ : Type) where
  write : (node field : String) → Json → EStateM GraphError σ Unit

/-- The graph as a sink. -/
def Graph.sink : Sink Graph := ⟨Graph.setConfigField⟩

/-- The outcome of an edit. -/
structure Edited (ρ σ α : Type) where
  table : Table ρ
  sink : σ
  result : Except TableError α

/-- The first ordinal from `n` on whose text is no key, among so many; the
count goes on at zero behind the greatest one. -/
def firstFreeOrdinal (keys : List String) : (tries : Nat) → UInt64 → UInt64
  | 0, n => n
  | tries + 1, n =>
    if keys.contains (Text.ordinalText n) then firstFreeOrdinal keys tries (n + 1) else n

/-- The first ordinal from `n` on whose text is no key.  So many keys
cannot take one ordinal more. -/
def freeOrdinal (keys : List String) (n : UInt64) : UInt64 :=
  firstFreeOrdinal keys keys.length n

namespace Table

variable {ρ σ α : Type} [Row ρ]

def rows (t : Table ρ) : List ρ :=
  t.entries.map (·.row)

def size (t : Table ρ) : Nat :=
  t.entries.length

/-- The rows that a configuration field holds; none for a field that is
missing or null. -/
def rowsOfField (config : Json) (field : String) : Except Json.Mismatch (List ρ) :=
  match config.field? field with
  | none | some .null => .ok []
  | some v => decodeRows .free v

/-- The ordinal after the greatest one in use that has a successor. -/
def ordinalAfter (used : List UInt64) : UInt64 :=
  ((used.filter (· != Text.greatestOrdinal)).map (· + 1)).foldl max 0

/-- A table over what the graph holds. -/
def load (g : Graph) (node field : String) : Except TableError (Table ρ) :=
  match g.node? node with
  | none => .error (.graph (.missingNode node))
  | some n =>
    match rowsOfField n.config field with
    | .error cause => .error (.notATable node field cause)
    | .ok (rows : List ρ) => .ok
      { node, field, entries := rows.map ({ row := · })
        nextOrdinal := ordinalAfter (rows.flatMap Row.usedOrdinals) }

/-- The entry of a key; the first one if the key is repeated. -/
def entry? (t : Table ρ) (key : String) : Option (TableEntry ρ) :=
  t.entries.find? fun e => Row.key e.row == key

def hasKey (t : Table ρ) (key : String) : Bool :=
  (t.entry? key).isSome

def keys (t : Table ρ) : List String :=
  t.rows.map Row.key

/-- A free ordinal for a new row. -/
def freshOrdinal (t : Table ρ) : UInt64 × Table ρ :=
  let n := freeOrdinal t.keys t.nextOrdinal
  (n, { t with nextOrdinal := n + 1 })

/-- The rows as they are written into a configuration. -/
def value (t : Table ρ) : Json :=
  encodeRows t.rows

/-- Writes the rows to a sink. -/
def sync (t : Table ρ) (sink : Sink σ) : EStateM TableError σ Unit :=
  (sink.write t.node t.field t.value).adaptExcept .graph

/-- Writes the rows to a sink and answers, if it takes them. -/
def commit (t : Table ρ) (sink : Sink σ) (s : σ) (answer : α) : Edited ρ σ α :=
  match (t.sync sink).run s with
  | .ok _ s => ⟨t, s, .ok answer⟩
  | .error e s => ⟨t, s, .error e⟩

/-- Adds a blank row; answers its key. -/
def addRow (t : Table ρ) (sink : Sink σ) (s : σ) : Edited ρ σ String :=
  let (n, t) := t.freshOrdinal
  let key := Text.ordinalText n
  commit { t with entries := t.entries ++ [{ row := Row.blank key n }] } sink s key

/-- Changes the first entry of a key. -/
def updateFirst (key : String) (f : TableEntry ρ → TableEntry ρ) :
    List (TableEntry ρ) → List (TableEntry ρ)
  | [] => []
  | e :: rest =>
    if Row.key e.row == key then f e :: rest else e :: updateFirst key f rest

/-- Applies an update to the row of a key; answers whether there is one. -/
def updateRow (t : Table ρ) (sink : Sink σ) (s : σ) (key : String) (patch : Row.Patch ρ) :
    Edited ρ σ Bool :=
  if t.hasKey key then
    let update (e : TableEntry ρ) : TableEntry ρ := ⟨Row.apply e.row patch, .committed⟩
    commit { t with entries := updateFirst key update t.entries } sink s true
  else ⟨t, s, .ok false⟩

/-- Removes the row of a key; answers whether there was one. -/
def deleteRow (t : Table ρ) (sink : Sink σ) (s : σ) (key : String) : Edited ρ σ Bool :=
  if t.hasKey key then
    commit { t with entries := t.entries.eraseP fun e => Row.key e.row == key } sink s true
  else ⟨t, s, .ok false⟩

/-- Marks the row of a key as being edited; answers whether there is one. -/
def beginEdit (t : Table ρ) (key : String) : Bool × Table ρ :=
  if t.hasKey key then
    (true, { t with entries := updateFirst key (fun e => { e with state := .editing }) t.entries })
  else (false, t)

/-- The keys of the rows that do not reach generated code. -/
def incompleteKeys (t : Table ρ) : List String :=
  (t.rows.filter fun r => !Row.isComplete r).map Row.key

def markPending (t : Table ρ) : Table ρ :=
  { t with status := .pending }

/-- Notes that a question to the backend failed. -/
def recordFailure (t : Table ρ) (e : SchemaError) : Table ρ :=
  { t with status := .failed e.message e.isRetryable }

/-- Replaces the columns that can be selected. -/
def applyChoices (t : Table ρ) (columns : List Column) : Table ρ :=
  { t with choices := columns, status := .idle }

/-- Takes the outcome of a question about upstream columns; answers
whether the choices were replaced. -/
def receiveChoices (t : Table ρ) : Except SchemaError Finding → Bool × Table ρ
  | .ok (.current columns) => (true, t.applyChoices columns)
  | .ok .superseded => (false, t)
  | .error e => (false, t.recordFailure e)

end Table

/-- The texts that occur more than once, each at its second occurrence. -/
def repeatedTexts (seen : List String) : List String → List String
  | [] => []
  | x :: rest =>
    if seen.count x == 1 then x :: repeatedTexts (x :: seen) rest
    else repeatedTexts (x :: seen) rest

/-- The variable names that are assigned more than once. -/
def Table.duplicateNames (t : Table VariableRow) : List String :=
  repeatedTexts [] ((t.rows.map fun r => Text.trim r.name).filter (· != ""))

namespace Table

variable {σ : Type}

/-- Makes a selectable column the input of a row; answers whether there
were such a column and such a row. -/
def selectInput (t : Table MappingRow) (sink : Sink σ) (s : σ) (key value : String) :
    Edited MappingRow σ Bool :=
  match t.choices.find? (·.value == value) with
  | none => ⟨t, s, .ok false⟩
  | some c => t.updateRow sink s key ({ input := some (some c) } : MappingRow.Patch)

/-- What becomes of a column of a target table: an entry that has it as its
output already, or a new one. -/
inductive Matched where
  | kept (entry : TableEntry MappingRow)
  | new (column : Column)
deriving Repr, DecidableEq

/-- One result per column, in order.  An entry of `old` is used once, and of
several entries for one output only the first. -/
def matchColumns (old : List (TableEntry MappingRow)) : List Column → List Matched
  | [] => []
  | c :: rest =>
    match old.find? (·.row.outputName == c.value) with
    | some e =>
      .kept { e with row := { e.row with outputType := c.dataType } } ::
        matchColumns (old.filter (·.row.outputName != c.value)) rest
    | none => .new c :: matchColumns old rest

/-- The keys of the entries that are kept. -/
def keptKeys (ms : List Matched) : List String :=
  ms.filterMap fun | .kept e => some e.row.key | .new _ => none

/-- The entries, new ones under fresh keys, and where the search for the
next key starts. -/
def withKeys (keys : List String) (next : UInt64) :
    List Matched → List (TableEntry MappingRow) × UInt64
  | [] => ([], next)
  | .kept e :: rest =>
    let (es, next) := withKeys keys next rest
    (e :: es, next)
  | .new c :: rest =>
    let n := freeOrdinal keys next
    let key := Text.ordinalText n
    let (es, next) := withKeys (key :: keys) (n + 1) rest
    ({ row := ⟨key, none, c.value, c.dataType⟩ } :: es, next)

/-- Rebuilds the rows from the columns of a target table: one row per
column, in the order of the columns.  A row that has the column as its
output keeps its key, its input and its state. -/
def applySchema (t : Table MappingRow) (sink : Sink σ) (s : σ) (columns : List Column) :
    Edited MappingRow σ Unit :=
  let matched := matchColumns t.entries columns
  let (entries, next) := withKeys (keptKeys matched) t.nextOrdinal matched
  commit { t with entries, nextOrdinal := next, status := .idle } sink s ()

/-- Takes the outcome of a question about the target table; answers
whether the rows were rebuilt. -/
def receiveSchema (t : Table MappingRow) (sink : Sink σ) (s : σ) :
    Except SchemaError Finding → Edited MappingRow σ Bool
  | .ok (.current columns) =>
    let edited := t.applySchema sink s columns
    ⟨edited.table, edited.sink, edited.result.map fun _ => true⟩
  | .ok .superseded => ⟨t, s, .ok false⟩
  | .error e => ⟨t.recordFailure e, s, .ok false⟩

end Table

end PipelineScript
