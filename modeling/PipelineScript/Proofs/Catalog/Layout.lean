/-
# The code of the standard components

What a standard component writes for a node is fixed by the `Layout` of its
configuration: the texts of the user that go into the code, and the little
else that the code depends on.  `segments` lays the code out, with the
variables that `Cast` names.

The type of the texts is left open.  With strings a layout is what a
configuration says; `Layout Unit` has no room for text, and is the shape of a
configuration.  The code around the texts is that of the shape
(`gaps_segments`), and the texts are found in the code in the order in which
`texts` lists them (`texts_segments`).
-/
import PipelineScript.Catalog.Projection
import PipelineScript.Proofs.Text.Segment

namespace PipelineScript.Catalog

open Text (Segment listing render gaps)

/-- The variables that a node's code is written with. -/
structure Cast where
  /-- Those that feed its input ports. -/
  inputs : List String
  /-- Those that it publishes on its output ports. -/
  outputs : List String
  /-- Those that it keeps to itself. -/
  own : List String

namespace Cast

def input (c : Cast) (port : Nat) : String :=
  c.inputs.getD port ""

def output (c : Cast) (port : Nat) : String :=
  c.outputs.getD port ""

def engine (c : Cast) : String :=
  c.own.getD 0 ""

end Cast

/-- A column of a projection: where it comes from, by name or by index, and
what it is called. -/
structure Entry (α : Type) where
  source : α ⊕ UInt64
  name : α

/-- What the code of a node depends on, texts of type `α` among it. -/
inductive Layout (α : Type) where
  | readFile (path separator : α) (header : Bool)
  | writeFile (path separator : α)
  | query (condition : α)
  | select (entries : List (Entry α))
  | join (on : List α) (how : α)
  | assign (rows : List (α × α))
  | store (url : α) (entries : Option (List (Entry α))) (table ifExists : α)

variable {α β : Type}

namespace Entry

def map (f : α → β) (e : Entry α) : Entry β :=
  ⟨e.source.map f id, f e.name⟩

/-- The text of a source that is given by name. -/
def sourceTexts (e : Entry α) : List α :=
  match e.source with
  | .inl name => [name]
  | .inr _ => []

/-- The renaming of one column. -/
def segments (e : Entry α) : List (Segment α) :=
  match e.source with
  | .inl name => [.literal name, .code ": ", .literal e.name]
  | .inr index => [.code (Text.ordinalText index), .code ": ", .literal e.name]

end Entry

/-- A list of texts. -/
def listSegments (items : List α) : List (Segment α) :=
  .code "[" :: listing ", " (items.map fun item => [.literal item]) ++ [.code "]"]

/-- A projection: the renaming of its columns, and their selection. -/
def selection (entries : List (Entry α)) : List (Segment α) :=
  .code ".rename(columns=\x7b" :: listing ", " (entries.map Entry.segments) ++
    .code "\x7d)[" :: listSegments (entries.map Entry.name) ++ [.code "]"]

/-- The texts of a projection: those of the renaming, then those of the
selection. -/
def entryTexts (entries : List (Entry α)) : List α :=
  (entries.flatMap fun e => e.sourceTexts ++ [e.name]) ++ entries.map Entry.name

/-- The columns to join on: a single one stands without brackets. -/
def onSegments : List α → List (Segment α)
  | [] => []
  | [column] => [.code ", on=", .literal column]
  | columns => .code ", on=" :: listSegments columns

/-- The assignment of one variable of the environment. -/
def assignSegments (row : α × α) : List (Segment α) :=
  [.code "os.environ[", .literal row.1, .code "] = ", .literal row.2]

namespace Layout

/-- The code of a node. -/
def segments (c : Cast) : Layout α → List (Segment α)
  | readFile path separator header =>
    [.code (c.output 0 ++ " = pd.read_csv("), .literal path, .code ", sep=", .literal separator,
      .code (if header then ")" else ", header=None)")]
  | writeFile path separator =>
    [.code (c.input 0 ++ ".to_csv("), .literal path, .code ", sep=", .literal separator,
      .code ", index=False)"]
  | query condition =>
    [.code (c.output 0 ++ " = " ++ c.input 0 ++ ".query("), .literal condition, .code ")"]
  | select entries => .code (c.output 0 ++ " = " ++ c.input 0) :: selection entries
  | join on how =>
    .code (c.output 0 ++ " = pd.merge(" ++ c.input 0 ++ ", " ++ c.input 1) :: onSegments on ++
      [.code ", how=", .literal how, .code ")"]
  | assign rows => listing "\n" (rows.map assignSegments)
  | store url entries table ifExists =>
    [.code (c.engine ++ " = sqlalchemy.create_engine("), .literal url,
      .code (")\n" ++ c.input 0)] ++ entries.elim [] selection ++
    [.code ".to_sql(name=", .literal table, .code (", con=" ++ c.engine ++ ", if_exists="),
      .literal ifExists, .code ", index=False)"]

/-- The texts in the code, in order. -/
def texts : Layout α → List α
  | readFile path separator _ => [path, separator]
  | writeFile path separator => [path, separator]
  | query condition => [condition]
  | select entries => entryTexts entries
  | join on how => on ++ [how]
  | assign rows => rows.flatMap fun row => [row.1, row.2]
  | store url entries table ifExists => url :: entries.elim [] entryTexts ++ [table, ifExists]

def map (f : α → β) : Layout α → Layout β
  | readFile path separator header => readFile (f path) (f separator) header
  | writeFile path separator => writeFile (f path) (f separator)
  | query condition => query (f condition)
  | select entries => select (entries.map (Entry.map f))
  | join on how => join (on.map f) (f how)
  | assign rows => assign (rows.map fun row => (f row.1, f row.2))
  | store url entries table ifExists =>
    store (f url) (entries.map (List.map (Entry.map f))) (f table) (f ifExists)

/-- A layout without its texts. -/
def shape (l : Layout α) : Layout Unit :=
  l.map fun _ => ()

end Layout

/-! ## Layouts do not look into texts -/

section Map
variable (f : α → β)

theorem map_entrySegments (e : Entry α) :
    e.segments.map (Segment.map f) = (e.map f).segments := by
  obtain ⟨source, name⟩ := e
  cases source <;> rfl

theorem map_listSegments (items : List α) :
    (listSegments items).map (Segment.map f) = listSegments (items.map f) := by
  simp [listSegments, Text.map_listing, Segment.map, Function.comp_def]

theorem map_selection (entries : List (Entry α)) :
    (selection entries).map (Segment.map f) = selection (entries.map (Entry.map f)) := by
  simp [selection, Text.map_listing, map_listSegments, Segment.map, Function.comp_def,
    map_entrySegments, Entry.map]

theorem map_onSegments : ∀ columns : List α,
    (onSegments columns).map (Segment.map f) = onSegments (columns.map f)
  | [] => rfl
  | [_] => rfl
  | column :: next :: rest =>
      congrArg (Segment.code ", on=" :: ·) (map_listSegments f (column :: next :: rest))

theorem map_segments (c : Cast) (l : Layout α) :
    (l.segments c).map (Segment.map f) = (l.map f).segments c := by
  cases l with
  | readFile path separator header => rfl
  | writeFile path separator => rfl
  | query condition => rfl
  | select entries => simp [Layout.segments, Layout.map, map_selection, Segment.map]
  | join on how => simp [Layout.segments, Layout.map, map_onSegments, Segment.map]
  | assign rows =>
      simp [Layout.segments, Layout.map, Text.map_listing, Function.comp_def, assignSegments,
        Segment.map]
  | store url entries table ifExists =>
      cases entries <;> simp [Layout.segments, Layout.map, map_selection, Segment.map]

end Map

theorem gaps_segments (c : Cast) (l : Layout α) :
    gaps (l.segments c) = gaps (l.shape.segments c) := by
  rw [Layout.shape, ← map_segments, Text.gaps_map]

/-! ## The texts in the code -/

theorem texts_listSegments (items : List α) : Text.texts (listSegments items) = items := by
  simp [listSegments, Text.texts_listing, List.flatMap_map]

theorem texts_entrySegments (e : Entry α) :
    Text.texts e.segments = e.sourceTexts ++ [e.name] := by
  obtain ⟨source, name⟩ := e
  cases source <;> rfl

theorem texts_selection (entries : List (Entry α)) :
    Text.texts (selection entries) = entryTexts entries := by
  simp [selection, entryTexts, Text.texts_listing, texts_listSegments, List.flatMap_map,
    texts_entrySegments]

theorem texts_onSegments : ∀ columns : List α, Text.texts (onSegments columns) = columns
  | [] => rfl
  | [_] => rfl
  | column :: next :: rest => texts_listSegments (column :: next :: rest)

theorem texts_segments (c : Cast) (l : Layout α) : Text.texts (l.segments c) = l.texts := by
  cases l with
  | readFile path separator header => rfl
  | writeFile path separator => rfl
  | query condition => rfl
  | select entries => simp [Layout.segments, Layout.texts, texts_selection]
  | join on how => simp [Layout.segments, Layout.texts, texts_onSegments]
  | assign rows =>
      simp [Layout.segments, Layout.texts, Text.texts_listing, List.flatMap_map, assignSegments]
  | store url entries table ifExists =>
      cases entries <;> simp [Layout.segments, Layout.texts, texts_selection]

/-! ## The lines of the code -/

/-- The code line by line.  Variables of the environment take a line each, and
so does the connection to a database. -/
def Layout.lines (c : Cast) : Layout α → List (List (Segment α))
  | assign rows => rows.map assignSegments
  | store url entries table ifExists =>
    [[.code (c.engine ++ " = sqlalchemy.create_engine("), .literal url, .code ")"],
      .code (c.input 0) :: entries.elim [] selection ++
        [.code ".to_sql(name=", .literal table, .code (", con=" ++ c.engine ++ ", if_exists="),
          .literal ifExists, .code ", index=False)"]]
  | l => [l.segments c]

theorem render_lines (c : Cast) (l : Layout String) :
    render (l.segments c) = "\n".intercalate ((l.lines c).map render) := by
  cases l with
  | readFile | writeFile | query | select | join => exact String.intercalate_singleton.symm
  | assign rows => simp [Layout.segments, Layout.lines]
  | store url entries table ifExists =>
      simp [Layout.segments, Layout.lines, String.append_assoc]

/-- Something that code can end in: a text, or fixed code that does not end in a
blank. -/
def Closing : Segment α → Prop
  | .code s => s.toList.getLast?.map Text.isBlank = some false
  | .literal _ => True

theorem closing_code {s : String} (h : s.toList.getLast?.map Text.isBlank = some false) :
    Closing (.code s : Segment α) :=
  h

/-- The last segment can end the code. -/
def Firm (line : List (Segment α)) : Prop :=
  ∃ last, line.getLast? = some last ∧ Closing last

theorem Firm.append {line : List (Segment α)} (h : Firm line) (front : List (Segment α)) :
    Firm (front ++ line) := by
  obtain ⟨last, hlast, closing⟩ := h
  exact ⟨last, by rw [List.getLast?_append, hlast, Option.some_or], closing⟩

theorem firm_lines (c : Cast) (l : Layout α) : ∀ line ∈ l.lines c, Firm line := by
  have paren : Closing (.code ")" : Segment α) := closing_code (by decide)
  have bracket : Closing (.code "]" : Segment α) := closing_code (by decide)
  have argument : Closing (.code ", index=False)" : Segment α) := closing_code (by decide)
  cases l with
  | readFile path separator header =>
      refine List.forall_mem_singleton.mpr ⟨_, rfl, ?_⟩
      cases header
      · exact closing_code (by decide)
      · exact paren
  | writeFile path separator => exact List.forall_mem_singleton.mpr ⟨_, rfl, argument⟩
  | query condition => exact List.forall_mem_singleton.mpr ⟨_, rfl, paren⟩
  | select entries =>
      have selected : Firm (selection entries) := Firm.append ⟨_, rfl, bracket⟩ _
      exact List.forall_mem_singleton.mpr (selected.append [_])
  | join on how => exact List.forall_mem_singleton.mpr (Firm.append ⟨_, rfl, paren⟩ _)
  | assign rows =>
      intro line hline
      obtain ⟨row, -, rfl⟩ := List.mem_map.mp hline
      exact ⟨_, rfl, trivial⟩
  | store url entries table ifExists =>
      refine List.forall_mem_cons.mpr ⟨⟨_, rfl, paren⟩, ?_⟩
      exact List.forall_mem_singleton.mpr (Firm.append ⟨_, rfl, argument⟩ _)

/-! ## Characters that only texts can hold -/

/-- None of the variables has this character in its name. -/
structure Cast.Lacks (x : Char) (c : Cast) : Prop where
  inputs : ∀ v ∈ c.inputs, x ∉ v.toList
  outputs : ∀ v ∈ c.outputs, x ∉ v.toList
  own : ∀ v ∈ c.own, x ∉ v.toList

section Lacks
variable {x : Char}

theorem lacks_getD {vs : List String} (h : ∀ v ∈ vs, x ∉ v.toList) (i : Nat) :
    x ∉ (vs.getD i "").toList := by
  rw [List.getD_eq_getElem?_getD]
  cases hv : vs[i]? with
  | none => simp
  | some v => exact h v (List.mem_of_getElem? hv)

theorem lacks_digits (hx : ¬ x.isDigit = true) (n : Nat) : x ∉ Nat.toDigits 10 n :=
  fun h => hx (Nat.isDigit_of_mem_toDigits (by decide) (by decide) h)

theorem lacks_listing {separator : String} (hsep : x ∉ separator.toList)
    {items : List (List (Segment α))} (h : ∀ item ∈ items, ∀ s ∈ item, s.Lacks x) :
    ∀ s ∈ listing separator items, s.Lacks x := by
  intro s hs
  rcases Text.of_mem_listing hs with rfl | ⟨item, hitem, hs⟩
  · exact hsep
  · exact h item hitem s hs

/-- Quotes and line feeds: on no line do they stand in fixed code. -/
def Reserved (x : Char) : Prop :=
  x = '"' ∨ x = '\n'

variable (hx : Reserved x)
include hx

theorem lacks_listSegments (items : List α) : ∀ s ∈ listSegments items, s.Lacks x := by
  have hitems : ∀ s ∈ listing ", " (items.map fun item => [Segment.literal item]), s.Lacks x :=
    lacks_listing (by rcases hx with rfl | rfl <;> decide) (by simp [Segment.Lacks])
  rcases hx with rfl | rfl <;>
    simpa [listSegments, Segment.Lacks, or_imp, forall_and] using hitems

theorem lacks_entrySegments (e : Entry α) : ∀ s ∈ e.segments, s.Lacks x := by
  obtain ⟨source, name⟩ := e
  rcases hx with rfl | rfl <;> cases source <;>
    simp [Entry.segments, Segment.Lacks, Text.ordinalText, lacks_digits]

theorem lacks_selection (entries : List (Entry α)) : ∀ s ∈ selection entries, s.Lacks x := by
  have hentries : ∀ s ∈ listing ", " (entries.map Entry.segments), s.Lacks x := by
    refine lacks_listing (by rcases hx with rfl | rfl <;> decide) fun item hitem => ?_
    obtain ⟨e, -, rfl⟩ := List.mem_map.mp hitem
    exact lacks_entrySegments hx e
  have hnames := lacks_listSegments hx (entries.map Entry.name)
  rcases hx with rfl | rfl <;>
    simpa [selection, Segment.Lacks, or_imp, forall_and] using And.intro hentries hnames

theorem lacks_onSegments : ∀ columns : List α, ∀ s ∈ onSegments columns, s.Lacks x
  | [] => by simp [onSegments]
  | [_] => by rcases hx with rfl | rfl <;> simp [onSegments, Segment.Lacks]
  | column :: next :: rest => by
      have hlist := lacks_listSegments hx (column :: next :: rest)
      rcases hx with rfl | rfl <;> simpa [onSegments, Segment.Lacks] using hlist

theorem lacks_lines {c : Cast} (h : c.Lacks x) (l : Layout α) :
    ∀ line ∈ l.lines c, ∀ s ∈ line, s.Lacks x := by
  have hinput : ∀ i, x ∉ (c.input i).toList := lacks_getD h.inputs
  have houtput : ∀ i, x ∉ (c.output i).toList := lacks_getD h.outputs
  have hengine : x ∉ c.engine.toList := lacks_getD h.own 0
  cases l with
  | readFile path separator header =>
      rcases hx with rfl | rfl <;> cases header <;>
        simp [Layout.lines, Layout.segments, Segment.Lacks, houtput]
  | writeFile path separator =>
      rcases hx with rfl | rfl <;> simp [Layout.lines, Layout.segments, Segment.Lacks, hinput]
  | query condition =>
      rcases hx with rfl | rfl <;>
        simp [Layout.lines, Layout.segments, Segment.Lacks, hinput, houtput]
  | select entries =>
      have hentries := lacks_selection hx entries
      rcases hx with rfl | rfl <;>
        simpa [Layout.lines, Layout.segments, Segment.Lacks, hinput, houtput] using hentries
  | join on how =>
      have hon := lacks_onSegments hx on
      rcases hx with rfl | rfl <;>
        simpa [Layout.lines, Layout.segments, Segment.Lacks, hinput, houtput, or_imp, forall_and]
          using hon
  | assign rows =>
      intro line hline
      obtain ⟨row, -, rfl⟩ := List.mem_map.mp hline
      rcases hx with rfl | rfl <;> simp [assignSegments, Segment.Lacks]
  | store url entries table ifExists =>
      have hentries : ∀ s ∈ entries.elim [] selection, Segment.Lacks x s := by
        cases entries with
        | none => simp
        | some entries => exact lacks_selection hx entries
      rcases hx with rfl | rfl <;>
        simpa [Layout.lines, Segment.Lacks, hinput, hengine, or_imp, forall_and] using hentries

end Lacks

theorem quoteless_segments {c : Cast} (h : c.Lacks '"') (l : Layout α) :
    ∀ s ∈ l.segments c, s.Lacks '"' := by
  have hlines := lacks_lines (Or.inl rfl) h l
  cases l with
  | readFile | writeFile | query | select | join =>
      exact hlines _ List.mem_cons_self
  | assign rows => exact lacks_listing (by decide) hlines
  | store url entries table ifExists =>
      simpa [Layout.lines, Layout.segments, Segment.Lacks, or_imp, forall_and] using hlines

/-- Code is read as it is laid out. -/
theorem lex_segments {c : Cast} (h : c.Lacks '"') (l : Layout String) :
    ∃ pieces, Text.lex (render (l.segments c)).toList = some pieces ∧
      Text.literals pieces = l.texts ∧ Text.skeleton pieces = gaps (l.shape.segments c) := by
  refine ⟨_, Text.lex_render (quoteless_segments h l), ?_, ?_⟩
  · rw [Text.literals_pieces, texts_segments]
  · rw [Text.skeleton_pieces, gaps_segments]

end PipelineScript.Catalog
