/-
# Two tables of names, side by side

When two compilations generate the same nodes over different tables, the names
that they are handed differ in their suffixes.  `Matched` pairs these names up:
no name stands in two pairs, on either side, and of no base the second table
has fewer suffixes left than the first.  So what the first table can afford the
second can afford as well (`Matched.allocateAll`), and the names that they hand
out make new pairs.

Pairs of which no two share a side are part of a permutation of all texts
(`exists_renaming`); what is paired later does not change what it does to the
names that were paired before.
-/
import Mathlib.Logic.Equiv.Basic
import PipelineScript.Proofs.Catalog.Layout
import PipelineScript.Proofs.Compile.Supply
import PipelineScript.Proofs.Compile.Uniqueness

namespace PipelineScript.Compile

/-- Pairs of names, of a first and a second table. -/
abbrev Pairs := List (String × String)

/-- The renaming turns the first name of each pair into the second. -/
def Renames (ρ : Equiv.Perm String) (pairs : Pairs) : Prop :=
  ∀ q ∈ pairs, ρ q.1 = q.2

theorem Renames.of_append {ρ : Equiv.Perm String} {pairs more : Pairs}
    (h : Renames ρ (pairs ++ more)) : Renames ρ pairs ∧ Renames ρ more :=
  List.forall_mem_append.mp h

theorem Renames.map_eq {ρ : Equiv.Perm String} : ∀ {xs ys : List String},
    xs.length = ys.length → Renames ρ (xs.zip ys) → ys = xs.map ρ
  | [], [], _, _ => rfl
  | x :: xs, y :: ys, hlen, h => by
      obtain ⟨hxy, h⟩ := List.forall_mem_cons.mp h
      rw [List.map_cons, show ρ x = y from hxy, ← Renames.map_eq (Nat.succ.inj hlen) h]

/-- Pairs of which no two share a side belong to a permutation. -/
theorem exists_renaming : ∀ {pairs : Pairs}, (pairs.map Prod.fst).Nodup →
    (pairs.map Prod.snd).Nodup → ∃ ρ, Renames ρ pairs
  | [], _, _ => ⟨Equiv.refl String, fun _ h => absurd h List.not_mem_nil⟩
  | (x, y) :: pairs, left, right => by
      obtain ⟨hx, left⟩ := List.nodup_cons.mp left
      obtain ⟨hy, right⟩ := List.nodup_cons.mp right
      obtain ⟨ρ, hρ⟩ := exists_renaming left right
      -- `ρ x` may be any name but those paired with others, and so is `y`
      refine ⟨ρ.trans (Equiv.swap (ρ x) y), List.forall_mem_cons.mpr ⟨?_, fun q hq => ?_⟩⟩
      · exact Equiv.swap_apply_left _ _
      · have hqx : ρ q.1 ≠ ρ x := fun he =>
          hx (List.mem_map.mpr ⟨q, hq, ρ.injective he⟩)
        have hqy : ρ q.1 ≠ y := fun he =>
          hy (List.mem_map.mpr ⟨q, hq, (hρ q hq).symm.trans he⟩)
        rw [Equiv.trans_apply, Equiv.swap_apply_of_ne_of_ne hqx hqy]
        exact hρ q hq

/-- No two of the bases lead to the same name. -/
def Apart (bases : List String) : Prop :=
  ∀ b ∈ bases, ∀ c ∈ bases, b ≠ c → ∀ i j : Nat, b ++ toString i ≠ c ++ toString j

/-- Both tables hold their side of the pairs, and the second has no fewer
suffixes left. -/
structure Matched (bases : List String) (pairs : Pairs) (names names' : Names) : Prop where
  left : ∀ q ∈ pairs, q.1 ∈ names.taken
  right : ∀ q ∈ pairs, q.2 ∈ names'.taken
  leftDistinct : (pairs.map Prod.fst).Nodup
  rightDistinct : (pairs.map Prod.snd).Nodup
  used : ∀ base ∈ bases, names'.used base Names.suffixLimit ≤ names.used base Names.suffixLimit

variable {bases : List String} {pairs : Pairs} {names names' more : Names}

theorem matched_start (bases : List String) (names : Names) : Matched bases [] names names where
  left _ h := absurd h List.not_mem_nil
  right _ h := absurd h List.not_mem_nil
  leftDistinct := List.nodup_nil
  rightDistinct := List.nodup_nil
  used _ _ := Nat.le_refl _

theorem Matched.exists_renaming (h : Matched bases pairs names names') :
    ∃ ρ, Renames ρ pairs :=
  Compile.exists_renaming h.leftDistinct h.rightDistinct

/-- The first table may grow on its own. -/
theorem Matched.mono (h : Matched bases pairs names names') (sub : names.taken ⊆ more.taken) :
    Matched bases pairs more names' where
  left q hq := sub (h.left q hq)
  right := h.right
  leftDistinct := h.leftDistinct
  rightDistinct := h.rightDistinct
  used base hb := (h.used base hb).trans (Names.used_mono sub)

theorem nodup_map_append {α β : Type} {f : α → β} {xs : List α} {x : α}
    (nodup : (xs.map f).Nodup) (new : ∀ y ∈ xs, f y ≠ f x) : ((xs ++ [x]).map f).Nodup := by
  rw [List.map_append]
  refine List.nodup_append.mpr ⟨nodup, by simp, ?_⟩
  rintro _ ha _ hb rfl
  obtain ⟨y, hy, he⟩ := List.mem_map.mp ha
  exact new y hy (he.trans (List.mem_singleton.mp hb))

section Allocate
variable (apart : Apart bases)
include apart

theorem used_allocate {base other : String} (hb : base ∈ bases) (ho : other ∈ bases)
    (room : names.HasRoom base) :
    (names.allocate base).2.used other Names.suffixLimit =
      names.used other Names.suffixLimit + if other = base then 1 else 0 := by
  obtain ⟨k, hk, hlimit, hfree, halloc⟩ := room.allocate
  rw [halloc]
  by_cases he : other = base
  · rw [if_pos he, he]
    exact Names.used_cons_self hk hlimit hfree
  · rw [if_neg he]
    exact Names.used_cons_other fun i => apart other ho base hb he i k

/-- The second table can afford the name as well, and the two names are a new
pair. -/
theorem Matched.allocate (h : Matched bases pairs names names') {base : String}
    (hb : base ∈ bases) (room : names.HasRoom base) :
    Matched bases (pairs ++ [((names.allocate base).1, (names'.allocate base).1)])
      (names.allocate base).2 (names'.allocate base).2 := by
  have room' : names'.HasRoom base :=
    Names.hasRoom_iff.mpr ((h.used base hb).trans_lt (Names.hasRoom_iff.mp room))
  have counts : ∀ other ∈ bases, (names'.allocate base).2.used other Names.suffixLimit ≤
      (names.allocate base).2.used other Names.suffixLimit := by
    intro other ho
    rw [used_allocate apart hb ho room, used_allocate apart hb ho room']
    exact Nat.add_le_add_right (h.used other ho) _
  obtain ⟨k, -, -, hfree, halloc⟩ := room.allocate
  obtain ⟨k', -, -, hfree', halloc'⟩ := room'.allocate
  refine ⟨?_, ?_, ?_, ?_, counts⟩
  · rw [halloc]
    refine List.forall_mem_append.mpr ⟨fun q hq => List.mem_cons_of_mem _ (h.left q hq), ?_⟩
    exact List.forall_mem_singleton.mpr List.mem_cons_self
  · rw [halloc']
    refine List.forall_mem_append.mpr ⟨fun q hq => List.mem_cons_of_mem _ (h.right q hq), ?_⟩
    exact List.forall_mem_singleton.mpr List.mem_cons_self
  · rw [halloc]
    exact nodup_map_append h.leftDistinct fun q hq he => hfree (Eq.subst he (h.left q hq))
  · rw [halloc']
    exact nodup_map_append h.rightDistinct fun q hq he => hfree' (Eq.subst he (h.right q hq))

theorem Matched.allocateAll {asked : List String} (h : Matched bases pairs names names')
    (sub : asked ⊆ bases) (room : names.Affords asked) :
    Matched bases (pairs ++ (names.allocateAll asked).1.zip (names'.allocateAll asked).1)
      (names.allocateAll asked).2 (names'.allocateAll asked).2 := by
  induction asked generalizing pairs names names' with
  | nil => simpa [Names.allocateAll] using h
  | cons base asked ih =>
      obtain ⟨hb, sub⟩ := List.cons_subset.mp sub
      have := ih (h.allocate apart hb room.1) sub room.2
      rwa [List.append_assoc] at this

end Allocate

/-! ## What a renaming does -/

/-- The same outcome, with other names. -/
def Outcome.rename (ρ : String → String) : Outcome → Outcome
  | .emitted outputs => .emitted (outputs.map (Option.map ρ))
  | .skipped reason => .skipped reason

/-- The same feed, with another name. -/
def Feed.rename (ρ : String → String) : Feed → Feed
  | .unconnected => .unconnected
  | .available name => .available (ρ name)
  | .unavailable source gap => .unavailable source gap

theorem Site.input_rename (site site' : Site) {ρ : String → String}
    (node : site'.node = site.node) (feeds : site'.feeds = site.feeds.map (Feed.rename ρ))
    (port : Nat) :
    site'.input port = (site.input port).map ρ := by
  rw [Site.input, Site.input, node, feeds, List.getElem?_map]
  cases h : site.feeds[port]? with
  | none => rfl
  | some feed => cases feed <;> rfl

end PipelineScript.Compile

/-- The same variables, renamed. -/
def PipelineScript.Catalog.Cast.rename (ρ : String → String) (c : Cast) : Cast where
  inputs := c.inputs.map ρ
  outputs := c.outputs.map ρ
  own := c.own.map ρ
