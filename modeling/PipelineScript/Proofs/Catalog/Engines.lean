/-
# Which database a table is written to

The code of an SQL table creates its engine on a line of its own, from one literal,
which is the URL of the connection (`Emits.spec`).  There is such code for every complete
connection (`emits_storingCode`).  So the line tells which database is meant, and
who writes to it, just when the connection is unmistakable
(`engine_url_unique_iff`).  A user with `:` in the name and another with `:` in the
password may get the same line (`engine_url_shared`).
-/
import PipelineScript.Proofs.Catalog.Variables
import PipelineScript.Proofs.Schema.Address

namespace PipelineScript.Catalog

open Compile
open Text (Segment lex literals render)

/-- Some node that writes a table to this database gets this code. -/
def Emits (c : Connection) (code : String) : Prop :=
  ∃ config k site p q, readConfig SqlConfig.decode config = .ok k ∧ k.connection = c ∧
    (sqlTableOutput.generate config).run site p = .ok (.fragment code, q)

/-- The only literal on the first line of a code. -/
def engineUrl? (code : String) : Option String :=
  match (lex (code.toList.takeWhile (· != '\n'))).map literals with
  | some [url] => some url
  | _ => none

/-! ## The line that creates the engine -/

theorem store_of_ready {config : Json} {l : Layout String}
    (h : Builtin.sqlTableOutput.verdict config = .ready l) :
    ∃ c entries, readConfig SqlConfig.decode config = .ok c ∧ c.connection.isComplete = true ∧
      l = .store c.connection.url entries (Text.trim c.tableName) c.ifExists := by
  obtain ⟨c, read, h⟩ := Verdict.exists_of_decoding_eq h (by simp)
  split at h
  · cases h
  · next complete =>
    have h := Verdict.of_among_eq (Verdict.of_ite_eq h (by simp)) (by simp)
    have complete : c.connection.isComplete = true := by simpa using complete
    rcases Verdict.projecting_cases c.mapping _ with
      ⟨-, hnext⟩ | ⟨-, hlacking⟩ | ⟨-, -, ⟨_, _, -, hcause⟩ | ⟨p, -, hnext⟩⟩
    · cases hnext.symm.trans h
      exact ⟨c, none, read, complete, rfl⟩
    · cases hlacking.symm.trans h
    · cases hcause.symm.trans h
    · cases hnext.symm.trans h
      exact ⟨c, some _, read, complete, rfl⟩

theorem takeWhile_line {cs : List Char} (unbroken : '\n' ∉ cs) (rest : List Char) :
    (cs ++ '\n' :: rest).takeWhile (· != '\n') = cs := by
  have text : ∀ c ∈ cs, (c != '\n') = true := by
    intro c hc
    rw [bne_iff_ne]
    rintro rfl
    exact unbroken hc
  rw [List.takeWhile_append_of_pos text, List.takeWhile_cons_of_neg (by decide), List.append_nil]

theorem engineUrl_render {c : Cast} (quote : '"' ∉ c.engine.toList) (feed : '\n' ∉ c.engine.toList)
    (url : String) (entries : Option (List (Entry String))) (table ifExists : String) :
    engineUrl? (render ((Layout.store url entries table ifExists).segments c)) = some url := by
  let line : List (Segment String) :=
    [.code (c.engine ++ " = sqlalchemy.create_engine("), .literal url, .code ")"]
  have lacks {x : Char} (hx : Reserved x) (engine : x ∉ c.engine.toList) :
      ∀ s ∈ line, s.Lacks x := by
    have opening : x ∉ " = sqlalchemy.create_engine(".toList := by
      rcases hx with rfl | rfl <;> decide
    have closing : x ∉ ")".toList := by
      rcases hx with rfl | rfl <;> decide
    intro s hs
    rcases List.mem_cons.mp hs with rfl | hs
    · show x ∉ (c.engine ++ " = sqlalchemy.create_engine(").toList
      rw [String.toList_append, List.mem_append]
      exact not_or.mpr ⟨engine, opening⟩
    · rcases List.mem_pair.mp hs with rfl | rfl
      · trivial
      · exact closing
  have first : (render ((Layout.store url entries table ifExists).segments c)).toList.takeWhile
      (· != '\n') = (render line).toList := by
    rw [render_lines, Layout.lines, List.map_cons, List.map_cons, String.intercalate_cons_cons,
      String.toList_append, String.toList_append, List.append_assoc]
    exact takeWhile_line (Text.newline_not_mem_render (lacks (Or.inr rfl) feed)) _
  rw [engineUrl?, first, Text.lex_render (lacks (Or.inl rfl) quote), Option.map_some,
    Text.literals_pieces]
  rfl

theorem Emits.spec {c : Connection} {code : String} (h : Emits c code) :
    c.isComplete = true ∧ engineUrl? code = some c.url := by
  obtain ⟨config, k, site, p, q, read, rfl, run⟩ := h
  obtain ⟨layout, cast, ready, hasks, rfl⟩ := Builtin.of_run_fragment (b := .sqlTableOutput) run
  obtain ⟨k', entries, read', complete, rfl⟩ := store_of_ready ready
  cases read.symm.trans read'
  have lacks {x : Char} (hx : Reserved x) : x ∉ cast.engine.toList :=
    lacks_getD (own_yields (Builtin.sqlTableOutput.yields_lacking hx).2 hasks) 0
  exact ⟨complete, engineUrl_render (lacks (Or.inl rfl)) (lacks (Or.inr rfl)) _ _ _ _⟩

/-! ## Nodes for all complete connections -/

/-- The configuration of a node that writes to this database. -/
def storing (c : Connection) : Json :=
  .obj [("dbOptions", c.encode), ("tableName", .str "t")]

/-- A node with this configuration, fed by one variable. -/
def storingSite (c : Connection) : Site :=
  { node := ⟨"t", "sqlTableOutput", storing c, ["in"], []⟩
    feeds := [.available "source1"], base := "table" }

/-- The code that such a node gets. -/
def storingCode (c : Connection) : String :=
  render ((Layout.store c.url none "t" "append").segments ⟨["source1"], [], ["engine1"]⟩)

/-- **There is code for every complete connection.** -/
theorem emits_storingCode {c : Connection} (complete : c.isComplete = true) :
    Emits c (storingCode c) := by
  have read : readConfig SqlConfig.decode (storing c) = .ok ⟨c, "t", "append", []⟩ := rfl
  have verdict : Builtin.sqlTableOutput.verdict (storing c) =
      .ready (.store c.url none "t" "append") := by
    rw [Builtin.verdict, Verdict.decoding, read]
    simp only [complete]
    rfl
  obtain ⟨q, asks⟩ : ∃ q, Builtin.sqlTableOutput.asks.run (storingSite c)
      (.start {} (storingSite c).node) = .ok (⟨["source1"], [], ["engine1"]⟩, q) := ⟨_, rfl⟩
  refine ⟨storing c, _, storingSite c, .start {} (storingSite c).node, q, read, rfl, ?_⟩
  show (Builtin.sqlTableOutput.component.generate (storing c)).run _ _ = _
  rw [Builtin.run_generate, verdict, asks]
  rfl

/-! ## The engines of two nodes -/

/-- **An engine is created from the URL of its connection**, and a complete connection
is known from that just when its texts do not run into each other. -/
theorem engine_url_unique_iff (c : Connection) (complete : c.isComplete = true) :
    (∃ code, Emits c code) ∧ (∀ code, Emits c code → engineUrl? code = some c.url) ∧
      ((∀ c' code code', Emits c code → Emits c' code' → engineUrl? code' = engineUrl? code →
          c' = c) ↔ c.Unmistakable) ∧
      ((∀ c' : Connection, c'.isComplete = true → c'.url = c.url → c' = c) ↔
        c.Unmistakable) := by
  have known := Connection.unique_iff_unmistakable complete
  refine ⟨⟨_, emits_storingCode complete⟩, fun code h => h.spec.2, ?_, known⟩
  rw [← known]
  constructor
  · intro unique c' complete' url
    have code := emits_storingCode complete
    have code' := emits_storingCode complete'
    exact unique c' _ _ code code' (by rw [code.spec.2, code'.spec.2, url])
  · intro unique c' code code' h h' same
    obtain ⟨complete', url'⟩ := h'.spec
    rw [h.spec.2, url'] at same
    exact unique c' complete' (Option.some.inj same)

/-! Delimiters that do no harm, and two users who cannot be told apart. -/

def shop : Connection where
  username := "me@shop"
  password := "a/b"
  host := "db.local"
  port := "3306"
  database := "orders:2024"

theorem engine_url_unique_iff_shop :
    shop.isComplete = true ∧ shop.Unmistakable ∧
      ∀ c' code code', Emits shop code → Emits c' code' →
        engineUrl? code' = engineUrl? code → c' = shop := by
  have complete : shop.isComplete = true := by decide
  have unmistakable : shop.Unmistakable := Connection.unmistakable_of_lacks
    (by decide) (by decide) (by decide) (by decide) (by decide)
  obtain ⟨-, -, unique, -⟩ := engine_url_unique_iff shop complete
  exact ⟨complete, unmistakable, unique.mpr unmistakable⟩

def colonInPassword : Connection where
  username := "a"
  password := "b:c"
  host := "h"
  port := "3306"
  database := "d"

def colonInName : Connection where
  username := "a:b"
  password := "c"
  host := "h"
  port := "3306"
  database := "d"

theorem engine_url_shared :
    ¬ ∀ p q code code', p.isComplete = true → q.isComplete = true → Emits p code →
      Emits q code' → engineUrl? code = engineUrl? code' → p = q := by
  intro always
  have complete : colonInPassword.isComplete = true := by decide
  have complete' : colonInName.isComplete = true := by decide
  have url : colonInPassword.url = colonInName.url := by decide
  have code := emits_storingCode complete
  have code' := emits_storingCode complete'
  have urls : engineUrl? (storingCode colonInPassword) = engineUrl? (storingCode colonInName) := by
    rw [code.spec.2, code'.spec.2, url]
  exact absurd (always _ _ _ _ complete complete' code code' urls) (by decide)

end PipelineScript.Catalog
