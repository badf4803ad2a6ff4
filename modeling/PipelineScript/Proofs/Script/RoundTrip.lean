/-
# Saved scripts are read back

What `encode` writes, `decode?` reads: behind the bytes of a script may stand
anything, and of these bytes none may be missing (`decode?_encode`).

Two laws go through the whole format, from the lengths up to the script.  A
reader takes back what its writer wrote, whatever follows (`TakesBack`), as
long as all lengths fit into the eight bytes that there are for them (`Fits`).
And what a reader takes from some bytes it takes from more bytes too
(`Extends`); this one needs no bound, and no writer.  Together they say that a
written value is no part of another one: a reader that is content with less
than was written would, given the rest, leave it over (`TakesBack.truncated`).
-/
import PipelineScript.Script.Artifact

namespace PipelineScript.Artifact

variable {α β : Type}

/-! ## The two laws -/

/-- The reader takes this value back from the front, and nothing more. -/
def TakesBack (decode : Decoder α) (encode : α → Bytes) (a : α) : Prop :=
  ∀ rest, decode (encode a ++ rest) = some (a, rest)

/-- Bytes behind those that the reader takes do not change what it takes. -/
def Extends (decode : Decoder α) : Prop :=
  ∀ bs a rest, decode bs = some (a, rest) → ∀ more, decode (bs ++ more) = some (a, rest ++ more)

/-- A value that was cut short is not taken for another one. -/
theorem TakesBack.truncated {decode : Decoder α} {encode : α → Bytes} {a : α}
    (back : TakesBack decode encode a) (ext : Extends decode) {bs : Bytes}
    (h : bs <+: encode a) (short : bs ≠ encode a) : decode bs = none := by
  cases hd : decode bs with
  | none => rfl
  | some found =>
      obtain ⟨b, rest⟩ := found
      obtain ⟨more, hmore⟩ := h
      have whole : decode (encode a) = some (a, []) := by
        have := back []
        rwa [List.append_nil] at this
      have longer : decode (encode a) = some (b, rest ++ more) := by
        rw [← hmore]
        exact ext bs b rest hd more
      -- nothing is left over of the written bytes, so nothing was missing
      have left : rest ++ more = [] := by
        rw [whole] at longer
        exact (congrArg Prod.snd (Option.some.inj longer)).symm
      obtain ⟨-, rfl⟩ := List.append_eq_nil_iff.mp left
      rw [List.append_nil] at hmore
      exact absurd hmore short

theorem extends_pure (a : α) : Extends fun bs => some (a, bs) := by
  intro bs b rest h more
  cases h
  rfl

theorem extends_none : Extends fun _ => (none : Option (α × Bytes)) := by
  intro bs a rest h
  cases h

theorem Extends.ite {c : Prop} [Decidable c] {yes no : Decoder α} (hyes : Extends yes)
    (hno : Extends no) : Extends fun bs => if c then yes bs else no bs := by
  intro bs a rest h more
  by_cases hc : c
  · simp only [if_pos hc] at h ⊢
    exact hyes bs a rest h more
  · simp only [if_neg hc] at h ⊢
    exact hno bs a rest h more

theorem Extends.bind {decode : Decoder α} {next : α → Decoder β} (h : Extends decode)
    (hnext : ∀ a, Extends (next a)) :
    Extends fun bs => (decode bs).bind fun (a, bs) => next a bs := by
  intro bs b rest hd more
  obtain ⟨⟨a, mid⟩, ha, hb⟩ := Option.bind_eq_some_iff.mp hd
  show (decode (bs ++ more)).bind _ = _
  rw [h bs a mid ha more]
  exact hnext a mid b rest hb more

theorem Extends.map {decode : Decoder α} (h : Extends decode) (f : α → β) :
    Extends fun bs => (decode bs).map fun (a, rest) => (f a, rest) := by
  intro bs b rest hd more
  obtain ⟨⟨a, rest'⟩, ha, hb⟩ := Option.map_eq_some_iff.mp hd
  cases hb
  show (decode (bs ++ more)).map _ = _
  rw [h bs a rest ha more]
  rfl

/-! ## Lengths -/

/-- Below this, a length can be written. -/
def lengthLimit : Nat := 18446744073709551616

theorem takeLittleEndian_littleEndian (width : Nat) : ∀ n, n < Nat.pow 256 width →
    TakesBack (takeLittleEndian width) (littleEndian width) n := by
  induction width with
  | zero =>
      intro n h rest
      obtain rfl : n = 0 := Nat.lt_one_iff.mp h
      rfl
  | succ width ih =>
      intro n h rest
      have high : n / 256 < Nat.pow 256 width :=
        Nat.div_lt_of_lt_mul (by rwa [Nat.mul_comm])
      have low : (UInt8.ofNat n).toNat = n % 256 := UInt8.toNat_ofNat
      show takeLittleEndian (width + 1)
        (UInt8.ofNat n :: (littleEndian width (n / 256) ++ rest)) = _
      rw [takeLittleEndian, ih _ high rest]
      show some ((UInt8.ofNat n).toNat + 256 * (n / 256), rest) = _
      rw [low, Nat.mod_add_div]

theorem extends_takeLittleEndian (width : Nat) : Extends (takeLittleEndian width) := by
  induction width with
  | zero => exact extends_pure 0
  | succ width ih =>
      intro bs n rest h more
      cases bs with
      | nil => cases h
      | cons b bs =>
          cases ht : takeLittleEndian width bs with
          | none => simp [takeLittleEndian, ht] at h
          | some found =>
              obtain ⟨k, rest'⟩ := found
              simp only [takeLittleEndian, ht, Option.some.injEq, Prod.mk.injEq] at h
              obtain ⟨rfl, rfl⟩ := h
              simp only [List.cons_append, takeLittleEndian, ih bs k rest' ht more]

theorem decodeLength_encodeLength {n : Nat} (h : n < lengthLimit) :
    TakesBack decodeLength encodeLength n := by
  intro rest
  unfold encodeLength
  split
  · next small =>
    have byte : n < UInt8.size := Nat.lt_trans small (by decide)
    have hn : (UInt8.ofNat n).toNat = n := UInt8.toNat_ofNat_of_lt' byte
    have hlt : UInt8.ofNat n < 251 := UInt8.lt_iff_toNat_lt.mpr (by rw [hn]; exact small)
    simp only [List.cons_append, List.nil_append, decodeLength, if_pos hlt, hn]
  · split
    · next two => exact takeLittleEndian_littleEndian 2 n two rest
    · split
      · next four => exact takeLittleEndian_littleEndian 4 n four rest
      · exact takeLittleEndian_littleEndian 8 n h rest

theorem extends_decodeLength : Extends decodeLength := by
  intro bs n rest h more
  cases bs with
  | nil => cases h
  | cons b bs =>
      have two := extends_takeLittleEndian 2
      have four := extends_takeLittleEndian 4
      have eight := extends_takeLittleEndian 8
      have behind : Extends fun bs => decodeLength (b :: bs) :=
        (extends_pure b.toNat).ite (two.ite (four.ite (eight.ite extends_none)))
      exact behind bs n rest h more

/-! ## Texts -/

/-- The text has not too many bytes. -/
def TextFits (s : String) : Prop :=
  s.utf8ByteSize < lengthLimit

instance : DecidablePred TextFits := fun s =>
  inferInstanceAs (Decidable (s.utf8ByteSize < lengthLimit))

theorem toList_loop (bytes : ByteArray) (i : Nat) (front : List UInt8) :
    ByteArray.toList.loop bytes i front = front.reverse ++ bytes.data.toList.drop i := by
  induction i, front using ByteArray.toList.loop.induct bytes with
  | case1 i front inside ih =>
      have hi : i < bytes.data.toList.length := inside
      have hget : bytes.get! i = bytes.data.toList[i] := getElem!_pos bytes.data i inside
      rw [ByteArray.toList.loop, if_pos inside, ih, List.drop_eq_getElem_cons hi, hget]
      simp
  | case2 i front outside =>
      have hi : bytes.data.toList.length ≤ i := Nat.le_of_not_lt outside
      rw [ByteArray.toList.loop, if_neg outside, List.drop_eq_nil_of_le hi, List.append_nil]

theorem toUTF8_toList (s : String) : s.toUTF8.toList = s.toUTF8.data.toList :=
  toList_loop s.toUTF8 0 []

theorem length_toUTF8 (s : String) : s.toUTF8.toList.length = s.utf8ByteSize := by
  rw [toUTF8_toList]
  exact String.size_toByteArray

theorem fromUTF8?_toUTF8 (s : String) : String.fromUTF8? ⟨s.toUTF8.toList.toArray⟩ = some s := by
  rw [toUTF8_toList]
  exact dif_pos s.isValidUTF8

theorem decodeText_encodeText {s : String} (h : TextFits s) :
    TakesBack decodeText encodeText s := by
  intro rest
  have whole : s.toUTF8.toList.length ≤ (s.toUTF8.toList ++ rest).length := by
    rw [List.length_append]
    exact Nat.le_add_right _ _
  rw [encodeText, List.append_assoc, decodeText, decodeLength_encodeLength h]
  simp only [← length_toUTF8, if_pos whole, List.take_left, List.drop_left, fromUTF8?_toUTF8,
    Option.map_some]

theorem extends_decodeText : Extends decodeText := by
  intro bs s rest h more
  unfold decodeText at h ⊢
  cases hl : decodeLength bs with
  | none => simp [hl] at h
  | some found =>
      obtain ⟨n, bytes⟩ := found
      simp only [hl] at h
      simp only [extends_decodeLength bs n bytes hl more]
      split at h
      · next whole =>
        obtain ⟨t, ht, heq⟩ := Option.map_eq_some_iff.mp h
        cases heq
        have longer : n ≤ (bytes ++ more).length := by
          rw [List.length_append]
          exact Nat.le_add_right_of_le whole
        rw [if_pos longer, List.take_append_of_le_length whole,
          List.drop_append_of_le_length whole, ht]
        rfl
      · cases h

/-! ## Optional values and lists -/

section Composite
variable {decode : Decoder α} {encode : α → Bytes} {fits : α → Prop}

/-- The value, if there is one, can be written. -/
def OptionalFits (fits : α → Prop) : Option α → Prop
  | none => True
  | some a => fits a

instance [DecidablePred fits] : DecidablePred (OptionalFits fits)
  | none => inferInstanceAs (Decidable True)
  | some a => inferInstanceAs (Decidable (fits a))

theorem OptionalFits.of_mem {o : Option α} (h : OptionalFits fits o) : ∀ a ∈ o, fits a := by
  intro a ha
  obtain rfl := Option.mem_def.mp ha
  exact h

theorem decodeOptional_encodeOptional {o : Option α}
    (back : ∀ a ∈ o, TakesBack decode encode a) :
    TakesBack (decodeOptional decode) (encodeOptional encode) o := by
  intro rest
  cases o with
  | none => rfl
  | some a =>
      show (decode (encode a ++ rest)).map _ = _
      rw [back a rfl rest]
      rfl

theorem extends_decodeOptional (h : Extends decode) : Extends (decodeOptional decode) := by
  intro bs o rest hd more
  cases bs with
  | nil => cases hd
  | cons b bs =>
      have behind : Extends fun bs => decodeOptional decode (b :: bs) :=
        (extends_pure none).ite ((h.map some).ite extends_none)
      exact behind bs o rest hd more

/-- So many items, with all their lengths, can be written. -/
def ListFits (fits : α → Prop) (as : List α) : Prop :=
  as.length < lengthLimit ∧ ∀ a ∈ as, fits a

instance [DecidablePred fits] : DecidablePred (ListFits fits) := fun as =>
  inferInstanceAs (Decidable (as.length < lengthLimit ∧ ∀ a ∈ as, fits a))

theorem decodeItems_flatMap {as : List α} (back : ∀ a ∈ as, TakesBack decode encode a) :
    ∀ rest, decodeItems decode as.length (as.flatMap encode ++ rest) = some (as, rest) := by
  intro rest
  induction as with
  | nil => rfl
  | cons a as ih =>
      have first := back a List.mem_cons_self (as.flatMap encode ++ rest)
      have others := ih fun b hb => back b (List.mem_cons_of_mem a hb)
      rw [List.flatMap_cons, List.append_assoc, List.length_cons, decodeItems, first]
      show (decodeItems decode as.length (as.flatMap encode ++ rest)).map _ = _
      rw [others]
      rfl

theorem extends_decodeItems (h : Extends decode) (count : Nat) :
    Extends (decodeItems decode count) := by
  induction count with
  | zero => exact extends_pure []
  | succ count ih =>
      intro bs as rest hd more
      rw [decodeItems] at hd ⊢
      cases ha : decode bs with
      | none => simp [ha] at hd
      | some found =>
          obtain ⟨a, mid⟩ := found
          rw [ha] at hd
          rw [h bs a mid ha more]
          exact ih.map (a :: ·) mid as rest hd more

theorem decodeList_encodeList {as : List α} (few : as.length < lengthLimit)
    (back : ∀ a ∈ as, TakesBack decode encode a) :
    TakesBack (decodeList decode) (encodeList encode) as := by
  intro rest
  rw [encodeList, List.append_assoc, decodeList, decodeLength_encodeLength few]
  exact decodeItems_flatMap back rest

theorem extends_decodeList (h : Extends decode) : Extends (decodeList decode) := by
  intro bs as rest hd more
  unfold decodeList at hd ⊢
  cases hl : decodeLength bs with
  | none => simp [hl] at hd
  | some found =>
      obtain ⟨n, items⟩ := found
      rw [hl] at hd
      rw [extends_decodeLength bs n items hl more]
      exact extends_decodeItems h n items as rest hd more

end Composite

/-! ## Scripts -/

structure FragmentFits (f : Fragment) : Prop where
  node : TextFits f.node
  component : TextFits f.component
  code : TextFits f.code
  outputs : ListFits (OptionalFits TextFits) f.outputs

structure SkippedFits (n : SkippedNode) : Prop where
  node : TextFits n.node
  reason : TextFits n.reason

/-- No text of the script and no list in it is longer than a length of eight
bytes can tell. -/
structure Fits (s : Script) : Prop where
  header : OptionalFits TextFits s.header
  imports : ListFits TextFits s.imports
  fragments : ListFits FragmentFits s.fragments
  skipped : ListFits SkippedFits s.skipped

instance : DecidablePred FragmentFits := fun f =>
  decidable_of_iff (TextFits f.node ∧ TextFits f.component ∧ TextFits f.code ∧
      ListFits (OptionalFits TextFits) f.outputs)
    ⟨fun ⟨node, component, code, outputs⟩ => ⟨node, component, code, outputs⟩,
      fun h => ⟨h.node, h.component, h.code, h.outputs⟩⟩

instance : DecidablePred SkippedFits := fun n =>
  decidable_of_iff (TextFits n.node ∧ TextFits n.reason)
    ⟨fun ⟨node, reason⟩ => ⟨node, reason⟩, fun h => ⟨h.node, h.reason⟩⟩

instance : DecidablePred Fits := fun s =>
  decidable_of_iff (OptionalFits TextFits s.header ∧ ListFits TextFits s.imports ∧
      ListFits FragmentFits s.fragments ∧ ListFits SkippedFits s.skipped)
    ⟨fun ⟨header, imports, fragments, skipped⟩ => ⟨header, imports, fragments, skipped⟩,
      fun h => ⟨h.header, h.imports, h.fragments, h.skipped⟩⟩

theorem decodeFragment_encodeFragment {f : Fragment} (h : FragmentFits f) :
    TakesBack decodeFragment encodeFragment f := by
  intro rest
  have outputs : TakesBack (decodeList (decodeOptional decodeText))
      (encodeList (encodeOptional encodeText)) f.outputs :=
    decodeList_encodeList h.outputs.1 fun slot hslot =>
      decodeOptional_encodeOptional fun name hname =>
        decodeText_encodeText ((h.outputs.2 slot hslot).of_mem name hname)
  simp only [encodeFragment, List.append_assoc, decodeFragment, bind,
    decodeText_encodeText h.node _, decodeText_encodeText h.component _,
    decodeText_encodeText h.code _, outputs _, Option.bind_some]
  rfl

theorem extends_decodeFragment : Extends decodeFragment :=
  extends_decodeText.bind fun _ =>
    extends_decodeText.bind fun _ =>
      extends_decodeText.bind fun _ =>
        (extends_decodeList (extends_decodeOptional extends_decodeText)).bind fun _ =>
          extends_pure _

theorem decodeSkipped_encodeSkipped {n : SkippedNode} (h : SkippedFits n) :
    TakesBack decodeSkipped encodeSkipped n := by
  intro rest
  simp only [encodeSkipped, List.append_assoc, decodeSkipped, bind,
    decodeText_encodeText h.node _, decodeText_encodeText h.reason _, Option.bind_some]
  rfl

theorem extends_decodeSkipped : Extends decodeSkipped :=
  extends_decodeText.bind fun _ => extends_decodeText.bind fun _ => extends_pure _

theorem decodeScript_encode {s : Script} (h : Fits s) : TakesBack decodeScript encode s := by
  intro rest
  have header := decodeOptional_encodeOptional fun text htext =>
    decodeText_encodeText (h.header.of_mem text htext)
  have imports := decodeList_encodeList h.imports.1 fun i hi =>
    decodeText_encodeText (h.imports.2 i hi)
  have fragments := decodeList_encodeList h.fragments.1 fun f hf =>
    decodeFragment_encodeFragment (h.fragments.2 f hf)
  have skipped := decodeList_encodeList h.skipped.1 fun n hn =>
    decodeSkipped_encodeSkipped (h.skipped.2 n hn)
  simp only [encode, List.append_assoc, decodeScript, bind, header _, imports _, fragments _,
    skipped _, Option.bind_some]
  rfl

theorem extends_decodeScript : Extends decodeScript :=
  (extends_decodeOptional extends_decodeText).bind fun _ =>
    (extends_decodeList extends_decodeText).bind fun _ =>
      (extends_decodeList extends_decodeFragment).bind fun _ =>
        (extends_decodeList extends_decodeSkipped).bind fun _ => extends_pure _

/-- **A saved script is read back**, whatever stands behind its bytes, and a
saved script of which the end is missing is not read at all. -/
theorem decode?_encode (s : Script) (fits : Fits s) :
    (∀ rest, decode? (encode s ++ rest) = some s) ∧
      ∀ bs, bs <+: encode s → bs ≠ encode s → decode? bs = none := by
  refine ⟨fun rest => ?_, fun bs h short => ?_⟩
  · rw [decode?, decodeScript_encode fits rest]
    rfl
  · rw [decode?, (decodeScript_encode fits).truncated extends_decodeScript h short]
    rfl

/-! A header whose length needs three bytes, a port without a variable, and
texts that are not plain ASCII. -/

def longHeaded : Script where
  header := some (String.ofList (List.replicate 126 'é'))
  imports := ["import os", ""]
  fragments := [⟨"a", "csvFileInput", "source1 = \"→\"", [none, some "source1"]⟩]
  skipped := [⟨"b", "no file path selected"⟩]

theorem decode?_encode_longHeaded :
    Fits longHeaded ∧ (encode longHeaded).take 5 = [1, 251, 252, 0, 195] ∧
      (∀ rest, decode? (encode longHeaded ++ rest) = some longHeaded) ∧
      ∀ bs, bs <+: encode longHeaded → bs ≠ encode longHeaded → decode? bs = none := by
  have fits : Fits longHeaded := by decide +kernel
  obtain ⟨back, short⟩ := decode?_encode longHeaded fits
  exact ⟨fits, by decide +kernel, back, short⟩

end PipelineScript.Artifact
