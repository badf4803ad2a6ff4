/-
# A pipeline that grows

A user inserts a node and connects it to what is there.  The script of the
larger pipeline is the one of the smaller pipeline, to the last character, and
then what becomes of the new node (`compile_grown`).

The new node comes last in the order (`Graph.Newcomer.order_append`), and nothing
feeds the others that did not feed them before (`sameFeeds_cut`); so the walk is
the same up to the new node.  Whatever went wrong without it goes wrong with it.
-/
import PipelineScript.Proofs.Compile.Feeds
import PipelineScript.Proofs.Compile.Imports
import PipelineScript.Proofs.Compile.Wiring
import PipelineScript.Proofs.Graph.Newcomer

namespace PipelineScript

open Compile

variable {r : Registry} {g g' : Graph} {n : Node} {s : Script}

/-- What becomes of a script if the walk goes on to one more node, the last one:
it fails there, or the script is longer by the imports that are new and the
fragment of the node, or by an entry that says why there is none. -/
inductive Continued (r : Registry) (g : Graph) (n : Node) (s : Script) :
    Except CompileError Script → Prop
  | failed {w : Walk} {e : CompileError} : Reaches r g n w → w.visit r g n = .error e →
      Continued r g n s (.error e)
  | emitted {w : Walk} {c : Component} {code : String} {p : Progress} : Reaches r g n w →
      r.find? n.component = some c → Stage.result ⟨w, n, c⟩ g = .ok (.fragment code, p) →
      Continued r g n s (.ok
        { s with
          imports := s.imports ++ Imports.news ⟨s.imports⟩ (c.imports n.config)
          fragments := s.fragments ++ [⟨n.id, n.component, Text.trimEnd code, p.outputs⟩] })
  | skipped {w : Walk} {c : Component} {reason : String} {p : Progress} : Reaches r g n w →
      r.find? n.component = some c → Stage.result ⟨w, n, c⟩ g = .ok (.skipped reason, p) →
      Continued r g n s (.ok { s with skipped := s.skipped ++ [⟨n.id, reason⟩] })

theorem continued_of_reaches {w : Walk} (reached : Reaches r g n w) (header : Option String) :
    Continued r g n (w.script header) ((w.visit r g n).map (·.script header)) := by
  cases hv : w.visit r g n with
  | error e => exact .failed reached hv
  | ok v =>
      obtain ⟨c, generated, p, hc, hr, rfl⟩ := visit_eq_ok_iff.mp hv
      cases generated with
      | fragment code =>
          have emitted := Continued.emitted (s := w.script header) reached hc hr
          have imports := Imports.extend_statements w.imports (c.imports n.config)
          show Continued r g n _ (.ok ⟨header, (w.imports.extend _).statements, _, _⟩)
          rw [imports]
          exact emitted
      | skipped reason => exact .skipped reached hc hr

namespace Graph.Newcomer
variable (late : Newcomer g n g') {ns : List Node} (order : g.order = .ok ns)
include late order

theorem visitAll_eq (w : Walk) : Walk.visitAll r g' w ns = Walk.visitAll r g w ns := by
  refine (visitAll_congr fun m hm => ?_) w
  have old := mem_ids ((order_perm order).subset hm)
  have part := sameFeeds_cut late.larger.distinct late.sourceClosed old
  rw [late.cut_eq] at part
  exact part.symm

theorem reaches {w : Walk} (h : Walk.visitAll r g {} ns = .ok w) : Reaches r g' n w :=
  ⟨ns, [], late.order_append order, (late.visitAll_eq order {}).trans h⟩

/-- The walk over the larger graph is the one over the smaller graph, and then
one step more. -/
theorem compile_eq (header : Option String) :
    compile r header g' = (Walk.visitAll r g {} ns).bind fun w =>
      (w.visit r g' n).map (·.script header) := by
  rw [compile_of_order (late.order_append order), visitAll_append_eq, late.visitAll_eq order]
  cases Walk.visitAll r g {} ns with
  | error e => rfl
  | ok w =>
      show Except.map _ (Walk.visitAll r g' w [n]) = Except.map _ _
      rw [Walk.visitAll]
      cases w.visit r g' n <;> rfl

end Graph.Newcomer

/-- **A new node disturbs nothing.**  If a node is inserted into a pipeline, and
whatever was there is connected to its input ports, the script is what it was
and then what becomes of the node; and what went wrong before goes wrong in the
same way. -/
theorem compile_grown (r : Registry) (header : Option String) (g g' : Graph) (n : Node)
    (wf : g.WellFormed) (acyclic : g.isAcyclic = true) (grown : g.Grown n g') :
    (∀ e, compile r header g = .error e → compile r header g' = .error e) ∧
      ∀ s, compile r header g = .ok s → Continued r g' n s (compile r header g') := by
  have late := grown.newcomer wf
  obtain ⟨ns, order⟩ := Graph.exists_order_of_isAcyclic acyclic
  have whole := late.compile_eq order header (r := r)
  rw [compile_of_order order]
  cases hv : Walk.visitAll r g {} ns with
  | error e =>
      rw [hv] at whole
      refine ⟨?_, ?_⟩
      · rintro _ ⟨⟩
        exact whole
      · rintro _ ⟨⟩
  | ok w =>
      rw [hv] at whole
      refine ⟨?_, ?_⟩
      · rintro _ ⟨⟩
      · rintro _ ⟨⟩
        rw [whole]
        exact continued_of_reaches (late.reaches order hv) header

/-! One more recorder is connected to the crossing: to the node that gives up,
then in vain to a port that is not there, and in the end to the source.  It is
ready as soon as the source is, and generated last. -/

def latecomer : Node :=
  ⟨"k", "record", .null, ["in"], []⟩

def crossingGrown : Graph where
  nodes := crossing.nodes ++ [latecomer]
  edges := crossing.edges ++ [⟨"h", "one", "k", "in"⟩]

theorem crossingGrown_grown : crossing.Grown latecomer crossingGrown := by
  have inserted := Graph.Grown.insert (g := crossing) (n := latecomer) rfl
  have first := inserted.connect "i" "out" "in" (by decide)
  have second := first.connect "h" "three" "in" (by decide)
  exact second.connect "h" "one" "in" (by decide)

def crossingScript : Script where
  fragments :=
    [⟨"d", "record", "d: input port 'in' is not connected", []⟩,
      ⟨"h", "half", "v1", [some "v1", none]⟩, ⟨"a", "record", "v1", []⟩,
      ⟨"b", "record", "h: produced no value on output port 'two' (required by node 'b')", []⟩,
      ⟨"c", "record", "i: nothing to do (required by node 'c')", []⟩]
  skipped := [⟨"i", "nothing to do"⟩]

theorem compile_grown_crossing :
    crossing.WellFormed ∧ crossing.isAcyclic = true ∧ crossing.Grown latecomer crossingGrown ∧
      compile ⟨[halfEmitter, idler, recorder]⟩ none crossing = .ok crossingScript ∧
      compile ⟨[halfEmitter, idler, recorder]⟩ none crossingGrown = .ok
        { crossingScript with
          fragments := crossingScript.fragments ++ [⟨"k", "record", "v1", []⟩] } ∧
      Continued ⟨[halfEmitter, idler, recorder]⟩ crossingGrown latecomer crossingScript
        (compile ⟨[halfEmitter, idler, recorder]⟩ none crossingGrown) := by
  have acyclic : crossing.isAcyclic = true := by decide +kernel
  have small : compile ⟨[halfEmitter, idler, recorder]⟩ none crossing = .ok crossingScript :=
    ok_of_toOption (by decide +kernel)
  have large : compile ⟨[halfEmitter, idler, recorder]⟩ none crossingGrown = .ok
      { crossingScript with
        fragments := crossingScript.fragments ++ [⟨"k", "record", "v1", []⟩] } :=
    ok_of_toOption (by decide +kernel)
  have continued := (compile_grown ⟨[halfEmitter, idler, recorder]⟩ none crossing crossingGrown
    latecomer crossing_wellFormed acyclic crossingGrown_grown).2 crossingScript small
  exact ⟨crossing_wellFormed, acyclic, crossingGrown_grown, small, large, continued⟩

end PipelineScript
