/-
# No variable of a script is used twice

Every name that a script's nodes are handed is new: it is no reserved name,
and none that a node of the script, the same or another, is handed elsewhere.
`compile_names_apart` says so of every graph for which there is a script, be
it well-formed or not.

The names of a node lie on top of the table, the latest first (`Growing`).  A
node that is skipped gives back exactly what lies on top, so between two nodes
the table is a stack: the reserved names, and over them the names of the
emitted nodes (`Stacked`).  A table has no name twice, and that is all.

There must always be room in the table (`Stage.Supplied`), since a table without
room hands out the bare base, taken or not.
-/
import PipelineScript.Proofs.Compile.Answers
import PipelineScript.Proofs.Compile.Names
import PipelineScript.Proofs.Compile.Stage

namespace PipelineScript

open Compile

/-! ## Names of a stage, and of a script -/

/-- The names handed to a node that was emitted. -/
def Compile.Stage.handed (g : Graph) (t : Stage) : List String :=
  match t.result g with
  | .ok (.fragment _, _) => t.plan.handed (t.site g) t.start
  | _ => []

/-- Every table of names that a node goes through, be it emitted or not. -/
def Compile.Stage.tables (g : Graph) (t : Stage) : List Names :=
  (t.plan.moments (t.site g) t.start).map (·.names)

/-- The node finds room each time that it asks for a new name. -/
def Compile.Stage.Supplied (g : Graph) (t : Stage) : Prop :=
  t.plan.Supplied (t.site g) t.start

/-- The names handed out for a script, node by node. -/
def handedOut (r : Registry) (g : Graph) : List String :=
  (stages r g).flatMap (·.handed g)

/-- Every table of names that a compilation goes through. -/
def nameTables (r : Registry) (g : Graph) : List Names :=
  (stages r g).flatMap (·.tables g)

/-- The variables on the output ports of some fragments. -/
def published (fragments : List Fragment) : List String :=
  fragments.flatMap fun f => f.outputs.filterMap id

theorem Compile.Stage.supplied_of_tables {g : Graph} {t : Stage}
    (room : ∀ names ∈ t.tables g, names.size < Names.suffixLimit) : t.Supplied g :=
  Plan.supplied_of_moments t.plan fun _ hq => room _ (List.mem_map_of_mem hq)

theorem supplied_of_tables {r : Registry} {g : Graph}
    (room : ∀ names ∈ nameTables r g, names.size < Names.suffixLimit) :
    ∀ t ∈ stages r g, t.Supplied g := fun t ht =>
  t.supplied_of_tables fun names hn => room names (List.mem_flatMap.mpr ⟨t, ht, hn⟩)

theorem published_append (xs ys : List Fragment) :
    published (xs ++ ys) = published xs ++ published ys :=
  List.flatMap_append

namespace Compile

variable {r : Registry} {g : Graph}

/-! ## One node -/

/-- The names of a node that is being generated lie on top of those from
before, and its output variables are among them. -/
structure Growing (before : Names) (p : Progress) : Prop where
  taken : p.names.taken = p.allocated.reverse ++ before.taken
  nodup : p.names.taken.Nodup
  outputs : (p.outputs.filterMap id).Subperm p.allocated

theorem growing_start {names : Names} (nodup : names.taken.Nodup) (n : Node) :
    Growing names (.start names n) where
  taken := rfl
  nodup := nodup
  outputs := by simp [Progress.start]

/-- A slot that was empty adds its name to the list. -/
theorem filterMap_set_perm (name : String) : ∀ (slots : List (Option String)) (i : Nat),
    slots[i]? = some none →
      ((slots.set i (some name)).filterMap id).Perm (name :: slots.filterMap id)
  | [], _, h => by simp at h
  | slot :: slots, 0, h => by
      obtain rfl : slot = none := by simpa using h
      exact List.Perm.refl _
  | none :: slots, i + 1, h => filterMap_set_perm name slots i h
  | some other :: slots, i + 1, h =>
      ((filterMap_set_perm name slots i h).cons other).trans (List.Perm.swap name other _)

section Room
variable {before : Names} {p : Progress} (h : Growing before p)
include h

theorem Growing.fresh {base : String} (room : p.names.HasRoom base) :
    Growing before (Site.fresh base p).2 := by
  obtain ⟨k, -, -, hfree, halloc⟩ := room.allocate
  rw [fresh_eq, halloc]
  refine ⟨?_, ?_, ?_⟩
  · show (base ++ toString k) :: p.names.taken = _
    rw [h.taken]
    simp
  · exact List.nodup_cons.mpr ⟨hfree, h.nodup⟩
  · exact h.outputs.trans (List.sublist_append_left _ _).subperm

theorem Growing.output (site : Site) {port : Nat}
    (room : p.outputs[port]? = some none → p.names.HasRoom site.base) :
    Growing before (site.output port p).2 := by
  cases hp : p.outputs[port]? with
  | none =>
      rw [output_of_missing site hp]
      exact h
  | some slot =>
      cases slot with
      | some name =>
          rw [output_of_some site hp]
          exact h
      | none =>
          have hf := h.fresh (room hp)
          rw [output_of_none site hp]
          refine ⟨hf.taken, hf.nodup, ?_⟩
          -- the port's variable is the name that was just put on record
          have hset := filterMap_set_perm (p.names.allocate site.base).1 _ _ hp
          have hcons := (List.subperm_cons (p.names.allocate site.base).1).mpr h.outputs
          exact hset.subperm.trans (hcons.trans (List.perm_append_singleton _ _).symm.subperm)

end Room

theorem growing_of_result {t : Stage} {generated : Generated} {p : Progress}
    (hr : t.result g = .ok (generated, p)) (nodup : t.walk.names.taken.Nodup)
    (supplied : t.Supplied g) :
    Growing t.walk.names p ∧ p.allocated = t.plan.handed (t.site g) t.start := by
  refine ⟨?_, Plan.run_allocated hr⟩
  exact Plan.run_invariant (I := Growing t.walk.names) True
    (fun q base room h => h.fresh (room trivial))
    (fun q port room h => h.output (t.site g) (room trivial)) t.plan hr (fun _ => supplied)
    (growing_start nodup t.node)

/-! ## The whole walk -/

/-- Between two nodes the table holds the reserved names, and over them the
names handed to the nodes that were emitted. -/
structure Stacked (g : Graph) (before : List Stage) (w : Walk) : Prop where
  taken : w.names.taken =
    (before.flatMap (·.handed g)).reverse ++ (Names.ofList Text.reservedNames).taken
  nodup : w.names.taken.Nodup
  published : (published w.fragments).Subperm (before.flatMap (·.handed g))

theorem stacked_start : Stacked g [] {} where
  taken := (List.nil_append _).symm
  nodup := Names.ofList_nodup _
  published := List.Subperm.refl _

/-- An emitted node adds its names, and a skipped one leaves the table as it
was. -/
theorem Stacked.next {before : List Stage} {t : Stage} {generated : Generated} {p : Progress}
    (h : Stacked g before t.walk) (hr : t.result g = .ok (generated, p))
    (supplied : t.Supplied g) : Stacked g (before ++ [t]) (t.next generated p) := by
  obtain ⟨hgrow, hhanded⟩ := growing_of_result hr h.nodup supplied
  cases generated with
  | fragment code =>
      have ht : t.handed g = p.allocated := by rw [Stage.handed, hr, hhanded]
      have hall : (before ++ [t]).flatMap (·.handed g) =
          before.flatMap (·.handed g) ++ p.allocated := by simp [ht]
      refine ⟨?_, hgrow.nodup, ?_⟩
      · rw [hall, List.reverse_append, List.append_assoc, ← h.taken]
        exact hgrow.taken
      · rw [hall, Stage.next, Walk.record, published_append]
        refine h.published.append ?_
        simpa [PipelineScript.published] using hgrow.outputs
  | skipped reason =>
      have ht : t.handed g = [] := by rw [Stage.handed, hr]
      have hall : (before ++ [t]).flatMap (·.handed g) = before.flatMap (·.handed g) := by
        simp [ht]
      have hback : (t.next (.skipped reason) p).names.taken = t.walk.names.taken :=
        Names.releaseAll_reverse hgrow.taken hgrow.nodup
      refine ⟨?_, ?_, ?_⟩
      · rw [hback, hall]
        exact h.taken
      · rw [hback]
        exact h.nodup
      · rw [hall]
        exact h.published

theorem stacked_of_supplied {ns : List Node} {w : Walk} (h : Walk.visitAll r g {} ns = .ok w)
    (supplied : ∀ t ∈ Walk.stages r g {} ns, t.Supplied g) :
    Stacked g (Walk.stages r g {} ns) w :=
  visitAll_induction (P := Stacked g) h stacked_start
    fun _ t _ _ ht hp hr => hp.next hr (supplied t ht)

theorem stacked_of_visitAll {ns : List Node} {w : Walk} (h : Walk.visitAll r g {} ns = .ok w)
    (room : ∀ t ∈ Walk.stages r g {} ns, ∀ names ∈ t.tables g,
      names.size < Names.suffixLimit) : Stacked g (Walk.stages r g {} ns) w :=
  stacked_of_supplied h fun t ht => t.supplied_of_tables (room t ht)

theorem Stacked.published_nodup {before : List Stage} {w : Walk} (h : Stacked g before w) :
    (PipelineScript.published w.fragments).Nodup := by
  have nodup := h.taken ▸ h.nodup
  have handed := List.nodup_reverse.mp (List.nodup_append.mp nodup).1
  obtain ⟨names, perm, sub⟩ := h.published
  exact perm.nodup_iff.mp (sub.nodup handed)

end Compile

/-! ## Variables that are published once -/

section Once
variable {fragments : List Fragment} {f : Fragment} {v : String}

theorem mem_published : v ∈ published fragments ↔ ∃ f ∈ fragments, some v ∈ f.outputs := by
  simp [published]

theorem slots_nodup (nodup : (published fragments).Nodup) (hf : f ∈ fragments) :
    (f.outputs.filterMap id).Nodup := by
  obtain ⟨before, after, rfl⟩ := List.append_of_mem hf
  rw [published_append] at nodup
  exact (List.nodup_append.mp (List.nodup_append.mp nodup).2.1).1

theorem publishers_eq (nodup : (published fragments).Nodup) (hf : f ∈ fragments)
    (hv : some v ∈ f.outputs) :
    fragments.filter (fun f => f.outputs.contains (some v)) = [f] := by
  obtain ⟨before, after, rfl⟩ := List.append_of_mem hf
  have own : v ∈ f.outputs.filterMap id := List.mem_filterMap.mpr ⟨some v, hv, rfl⟩
  have split : published (before ++ f :: after) =
      published before ++ (f.outputs.filterMap id ++ published after) := published_append _ _
  rw [split] at nodup
  have before' : ∀ d ∈ before, ¬ d.outputs.contains (some v) = true := by
    intro d hd h
    have hpub := mem_published.mpr ⟨d, hd, List.contains_iff_mem.mp h⟩
    exact List.disjoint_of_nodup_append nodup hpub (List.mem_append_left _ own)
  have after' : ∀ d ∈ after, ¬ d.outputs.contains (some v) = true := by
    intro d hd h
    have hpub := mem_published.mpr ⟨d, hd, List.contains_iff_mem.mp h⟩
    exact List.disjoint_of_nodup_append (List.nodup_append.mp nodup).2.1 own hpub
  rw [List.filter_append, List.filter_eq_nil_iff.mpr before', List.nil_append, List.filter,
    List.contains_iff_mem.mpr hv, List.filter_eq_nil_iff.mpr after']

theorem slot_unique {slots : List (Option String)} (nodup : (slots.filterMap id).Nodup)
    {j k : Nat} (hj : slots[j]? = some (some v)) (hk : slots[k]? = some (some v)) : j = k := by
  have apart := List.pairwise_iff_getElem.mp (List.pairwise_filterMap.mp nodup)
  obtain ⟨hjlt, hj⟩ := List.getElem?_eq_some_iff.mp hj
  obtain ⟨hklt, hk⟩ := List.getElem?_eq_some_iff.mp hk
  rcases Nat.lt_trichotomy j k with hlt | heq | hgt
  · exact absurd rfl (apart j k hjlt hklt hlt v hj v hk)
  · exact heq
  · exact absurd rfl (apart k j hklt hjlt hgt v hk v hj)

end Once

/-! ## The script -/

variable {r : Registry} {g : Graph} {s : Script}

/-- No name of a script stands for two things. -/
structure NamesApart (r : Registry) (g : Graph) (s : Script) : Prop where
  /-- No name is handed out twice to the nodes that were emitted. -/
  distinct : (handedOut r g).Nodup
  unreserved : ∀ name ∈ handedOut r g, name ∉ Text.reservedNames
  /-- What the fragments publish was handed out. -/
  outputs : (published s.fragments).Subperm (handedOut r g)
  /-- No variable is published twice. -/
  outputsDistinct : (published s.fragments).Nodup

/-- **Names are unique over the whole script**, whatever the components ask
for, whatever bases they choose and whichever of them give up. -/
theorem compile_names_apart (r : Registry) (header : Option String) (g : Graph) (s : Script)
    (h : compile r header g = .ok s)
    (room : ∀ names ∈ nameTables r g, names.size < Names.suffixLimit) : NamesApart r g s := by
  obtain ⟨order, w, ho, hv, rfl⟩ := compile_eq_ok_iff.mp h
  have hstages := stages_of_order (r := r) ho
  have hstacked : Stacked g (stages r g) w := by
    rw [hstages]
    refine stacked_of_visitAll hv fun t ht names hn => room names ?_
    exact List.mem_flatMap.mpr ⟨t, hstages ▸ ht, hn⟩
  have hnodup : ((handedOut r g).reverse ++ (Names.ofList Text.reservedNames).taken).Nodup :=
    hstacked.taken ▸ hstacked.nodup
  obtain ⟨hhanded, -, hdisjoint⟩ := List.nodup_append.mp hnodup
  have hdistinct : (handedOut r g).Nodup := List.nodup_reverse.mp hhanded
  refine ⟨hdistinct, fun name hname hreserved => ?_, hstacked.published, ?_⟩
  · exact hdisjoint name (List.mem_reverse.mpr hname) name (Names.mem_ofList.mpr hreserved) rfl
  · obtain ⟨names, hperm, hsub⟩ := hstacked.published
    exact hperm.nodup_iff.mp (hsub.nodup hdistinct)

/-! Two bases that lead to the same text, `w1` and `w`, in a graph that has an
id twice and a node that gives up after it was handed a name. -/

/-- Publishes on its output port. -/
def publisher : Component where
  identity := "publish"
  display := "Publish"
  category := "Test"
  kind := .input
  variableBase := "w1"
  imports _ := []
  generate _ := .bind (.publish 0) fun v => .done (.fragment v)

/-- Publishes on its output port, and then gives up. -/
def quitter : Component where
  identity := "quit"
  display := "Quit"
  category := "Test"
  kind := .input
  variableBase := "w1"
  imports _ := []
  generate _ := .bind (.publish 0) fun v => .done (.skipped v)

/-- So many variables with the base `w`. -/
def hoard : Nat → Plan (List String)
  | 0 => .done []
  | count + 1 => .fresh "w" fun v => .bind (hoard count) fun vs => .done (v :: vs)

/-- Asks for eleven variables. -/
def hoarder : Component where
  identity := "hoard"
  display := "Hoard"
  category := "Test"
  kind := .input
  variableBase := "w"
  imports _ := []
  generate _ := .bind (hoard 11) fun vs => .done (.fragment (" ".intercalate vs))

def colliding : Graph where
  nodes := [⟨"a", "quit", .null, [], ["out"]⟩, ⟨"a", "publish", .null, [], ["out"]⟩,
    ⟨"b", "hoard", .null, [], []⟩]
  edges := []

theorem compile_names_apart_colliding :
    (∀ names ∈ nameTables ⟨[publisher, quitter, hoarder]⟩ colliding,
        names.size < Names.suffixLimit) ∧
      handedOut ⟨[publisher, quitter, hoarder]⟩ colliding =
        ["w11", "w1", "w2", "w3", "w4", "w5", "w6", "w7", "w8", "w9", "w10", "w12"] ∧
      ∃ s, compile ⟨[publisher, quitter, hoarder]⟩ none colliding = .ok s ∧
        NamesApart ⟨[publisher, quitter, hoarder]⟩ colliding s := by
  have room : ∀ names ∈ nameTables ⟨[publisher, quitter, hoarder]⟩ colliding,
      names.size < Names.suffixLimit := by decide +kernel
  have h : (compile ⟨[publisher, quitter, hoarder]⟩ none colliding).toOption =
      some ⟨none, [],
        [⟨"a", "publish", "w11", [some "w11"]⟩,
          ⟨"b", "hoard", "w1 w2 w3 w4 w5 w6 w7 w8 w9 w10 w12", []⟩],
        [⟨"a", "w11"⟩]⟩ := by decide +kernel
  have h := ok_of_toOption h
  exact ⟨room, by decide +kernel, _, h, compile_names_apart _ _ _ _ h room⟩

end PipelineScript
