/-
  TimedTrials/Proofs/Table/WrittenText.lean
  =========================================
  **Written records are text again.**

  Records are written byte by byte, and yet a text comes out whenever texts went in
  (`isText_write`). Only doubling the quotes could tear a character apart. It does not, for
  the byte of a quote stands in the encoding of no other character (`eq_of_quote_mem`).
-/
import Mathlib.Data.List.Basic
import TimedTrials.Table.File

namespace TimedTrials.Csv

/-! ### Strings and their bytes -/

/-- What the loop behind `ByteArray.toList` still has to go through. -/
theorem toList_loop_eq (bytes : ByteArray) (i : Nat) (before : List UInt8) :
    ByteArray.toList.loop bytes i before = before.reverse ++ bytes.data.toList.drop i := by
  fun_induction ByteArray.toList.loop bytes i before with
  | case1 i before h ih =>
    have hi : i < bytes.data.toList.length := by simpa using h
    have hbyte : bytes.get! i = bytes.data.toList[i] := by simp [ByteArray.get!, h]
    rw [ih, List.drop_eq_getElem_cons hi, hbyte, List.reverse_cons, List.append_assoc]
    rfl
  | case2 i before h =>
    rw [List.drop_eq_nil_of_le (by simpa using Nat.le_of_not_lt h), List.append_nil]

theorem encode_eq_flatMap (s : String) : encode s = s.toList.flatMap String.utf8EncodeChar := by
  have hloop := toList_loop_eq s.toUTF8 0 []
  rw [List.reverse_nil, List.nil_append, List.drop_zero] at hloop
  rw [encode, ByteArray.toList, hloop, String.toUTF8_eq_toByteArray, ← String.utf8Encode_toList,
    List.utf8Encode, List.toList_data_toByteArray]

theorem encode_append (s t : String) : encode (s ++ t) = encode s ++ encode t := by
  simp only [encode_eq_flatMap, String.toList_append, List.flatMap_append]

theorem decode?_eq_some_iff {bytes : List UInt8} {s : String} :
    decode? bytes = some s ↔ bytes = encode s := by
  have hbytes : (⟨bytes.toArray⟩ : ByteArray) = s.toByteArray ↔ bytes = encode s := by
    rw [encode_eq_flatMap, ← String.utf8Encode_toList]
    constructor
    · intro h
      have hdata := congrArg (fun b => b.data.toList) h
      simpa [List.utf8Encode] using hdata
    · intro h
      rw [h]
      apply ByteArray.ext
      simp [List.utf8Encode]
  rw [← hbytes, decode?, String.fromUTF8?]
  constructor
  · intro h
    split at h
    · rw [← Option.some.inj h]
      rfl
    · cases h
  · intro h
    have hvalid : ByteArray.IsValidUTF8 ⟨bytes.toArray⟩ := h ▸ s.isValidUTF8
    rw [dif_pos hvalid]
    simp only [String.fromUTF8, h]

@[simp] theorem decode?_encode (s : String) : decode? (encode s) = some s :=
  decode?_eq_some_iff.mpr rfl

/-! ### Quotes in encodings -/

/-- Beyond ASCII every byte of an encoding has its highest bit set. -/
theorem high_of_mem_utf8EncodeChar {c : Char} (h : 0x7f < c.val.toNat) {b : UInt8}
    (hb : b ∈ String.utf8EncodeChar c) : 0x80 ≤ b.toNat := by
  unfold String.utf8EncodeChar at hb
  rw [if_neg (Nat.not_le.mpr h)] at hb
  split at hb
  · simp only [List.mem_cons, List.not_mem_nil, or_false] at hb
    rcases hb with rfl | rfl <;> rw [UInt8.toNat_ofNat'] <;> omega
  · split at hb
    · simp only [List.mem_cons, List.not_mem_nil, or_false] at hb
      rcases hb with rfl | rfl | rfl <;> rw [UInt8.toNat_ofNat'] <;> omega
    · simp only [List.mem_cons, List.not_mem_nil, or_false] at hb
      rcases hb with rfl | rfl | rfl | rfl <;> rw [UInt8.toNat_ofNat'] <;> omega

theorem eq_of_quote_mem {c : Char} (h : quote ∈ String.utf8EncodeChar c) : c = '"' := by
  have hascii : c.val.toNat ≤ 0x7f := by
    by_contra hbeyond
    have hhigh := high_of_mem_utf8EncodeChar (Nat.not_le.mp hbeyond) h
    exact absurd hhigh (by decide)
  rw [String.utf8EncodeChar, if_pos hascii, List.mem_singleton] at h
  have hvalue := congrArg UInt8.toNat h
  rw [UInt8.toNat_ofNat', Nat.mod_eq_of_lt (by omega)] at hvalue
  exact Char.ext (UInt32.toNat.inj hvalue.symm)

theorem doubled_utf8EncodeChar (c : Char) :
    doubled (String.utf8EncodeChar c) =
      (if c = '"' then ['"', '"'] else [c]).flatMap String.utf8EncodeChar := by
  by_cases hc : c = '"'
  · subst hc
    rfl
  · have hkept : ∀ b ∈ String.utf8EncodeChar c,
        (if b = quote then [quote, quote] else [b]) = [b] := by
      intro b hb
      refine if_neg fun hquote => hc (eq_of_quote_mem ?_)
      exact hquote ▸ hb
    rw [if_neg hc, List.flatMap_singleton, doubled, List.flatMap_congr hkept,
      List.flatMap_singleton']

/-! ### Texts -/

/-- Bytes that are the encoding of a string. -/
def IsText (bytes : List UInt8) : Prop := ∃ s, bytes = encode s

theorem isText_nil : IsText [] := ⟨"", by rw [encode_eq_flatMap]; rfl⟩

theorem IsText.append {a b : List UInt8} (ha : IsText a) (hb : IsText b) : IsText (a ++ b) := by
  obtain ⟨s, rfl⟩ := ha
  obtain ⟨t, rfl⟩ := hb
  exact ⟨s ++ t, (encode_append s t).symm⟩

theorem isText_quote : IsText [quote] := ⟨"\"", by rw [encode_eq_flatMap]; rfl⟩

theorem isText_comma : IsText [comma] := ⟨",", by rw [encode_eq_flatMap]; rfl⟩

theorem isText_lineFeed : IsText [lineFeed] := ⟨"\n", by rw [encode_eq_flatMap]; rfl⟩

theorem IsText.doubled {bytes : List UInt8} (h : IsText bytes) : IsText (doubled bytes) := by
  obtain ⟨s, rfl⟩ := h
  -- doubling quotes in the characters of the string comes to the same
  refine ⟨String.ofList (s.toList.flatMap fun c => if c = '"' then ['"', '"'] else [c]), ?_⟩
  rw [encode_eq_flatMap, encode_eq_flatMap, String.toList_ofList, List.flatMap_assoc]
  refine List.flatMap_assoc.trans (List.flatMap_congr ?_)
  intro c _
  exact doubled_utf8EncodeChar c

theorem IsText.writeField {field : List UInt8} (h : IsText field) : IsText (writeField field) := by
  unfold Csv.writeField
  split
  · exact (isText_quote.append h.doubled).append isText_quote
  · exact h

theorem isText_separated {fields : List (List UInt8)} (h : ∀ field ∈ fields, IsText field) :
    IsText (separated fields) := by
  induction fields with
  | nil => exact isText_nil
  | cons field fields ih =>
    rw [List.forall_mem_cons] at h
    cases fields with
    | nil => exact h.1
    | cons next fields => exact h.1.append (isText_comma.append (ih h.2))

theorem isText_writeRecord {fields : List (List UInt8)} (h : ∀ field ∈ fields, IsText field) :
    IsText (writeRecord fields) := by
  unfold writeRecord
  split
  · exact isText_quote.append (isText_quote.append isText_lineFeed)
  · refine (isText_separated ?_).append isText_lineFeed
    intro field hfield
    obtain ⟨plain, hplain, rfl⟩ := List.mem_map.mp hfield
    exact (h plain hplain).writeField

/-- **Records of texts are written as a text.** -/
theorem isText_write {records : List (List (List UInt8))}
    (h : ∀ fields ∈ records, ∀ field ∈ fields, IsText field) : IsText (write records) := by
  induction records with
  | nil => exact isText_nil
  | cons fields records ih =>
    rw [List.forall_mem_cons] at h
    exact (isText_writeRecord h.1).append (ih h.2)

end TimedTrials.Csv
