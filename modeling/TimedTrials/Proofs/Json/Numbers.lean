/-
  TimedTrials/Proofs/Json/Numbers.lean
  ====================================
  **Numbers as JSON writes them, and what is read of them.**

  An integer is written with its digits and read as itself wherever it is in the range of a field
  (`int64?_int`, `nat64?_nat`, `nat32?_nat`). As long as its digits fit a 64-bit significand it is
  in the range of a double, so that it can be kept until it is known what it is for (`canKeep_int`).
  A double is written as a numeral too (`Numeral.wellFormed_ofFloat`): the search for its shortest
  digits finds none that begin with a zero.
-/
import TimedTrials.Json.Record
import TimedTrials.Proofs.Json.Writing

namespace TimedTrials

open Number (max32 max64 minSigned64 maxSigned64 natDigits)

/-! ### Integers -/

theorem ofDigitChars_natDigits (n : Nat) : Nat.ofDigitChars 10 (natDigits n) 0 = n :=
  Nat.ofDigitChars_toDigits (by decide) (by decide)

/-- An integer is what its written form stands for. -/
theorem Numeral.toInt?_ofInt (n : Int) : (Numeral.ofInt n).toInt? = some n := by
  simp only [toInt?, ofInt, ofDigitChars_natDigits]
  by_cases hneg : n < 0
  · have habs : n.natAbs ≠ 0 := by omega
    simp only [hneg, decide_true, Bool.not_true, Bool.false_eq_true, if_false, habs,
      Option.some.injEq]
    omega
  · simp only [hneg, decide_false, Bool.not_false, if_true, Option.some.injEq]
    omega

namespace Json

/-- The range of a signed 64-bit field. -/
def IsInt64 (n : Int) : Prop := minSigned64 ≤ n ∧ n ≤ maxSigned64

instance (n : Int) : Decidable (IsInt64 n) := inferInstanceAs (Decidable (_ ∧ _))

theorem intBetween?_int {lo hi n : Int} (hlo : lo ≤ n) (hhi : n ≤ hi) :
    (int n).intBetween? lo hi = some n := by
  simp only [int, intBetween?, Numeral.toInt?_ofInt, Option.filter_some, hlo, hhi, decide_true,
    Bool.and_self, if_true]

theorem int64?_int {n : Int} (h : IsInt64 n) : (int n).int64? = some n := intBetween?_int h.1 h.2

theorem natUpTo_nat {n limit : Nat} (h : n ≤ limit) :
    ((nat n).intBetween? 0 limit).map Int.toNat = some n := by
  have hread : (nat n).intBetween? 0 limit = some (n : Int) :=
    intBetween?_int (Int.natCast_nonneg n) (Int.ofNat_le.mpr h)
  rw [hread, Option.map_some, Int.toNat_natCast]

theorem nat64?_nat {n : Nat} (h : n ≤ max64) : (nat n).nat64? = some n := natUpTo_nat h

theorem nat32?_nat {n : Nat} (h : n ≤ max32) : (nat n).nat32? = some n := natUpTo_nat h

end Json

/-! ### Integers as doubles -/

namespace Numeral

/-- A number is no smaller than its first digits. -/
theorem le_ofDigitChars (ds : List Char) (n : Nat) : n ≤ Nat.ofDigitChars 10 ds n := by
  induction ds generalizing n with
  | nil => exact Nat.le_refl n
  | cons c ds ih =>
    rw [Nat.ofDigitChars_cons]
    exact Nat.le_trans (by omega) (ih _)

/-- Digits that fit the significand are all taken into it. -/
theorem foldl_takeWhole {ds : List Char} {start : Nat}
    (h : Nat.ofDigitChars 10 ds start ≤ max64) :
    ds.foldl takeWhole (⟨start, 0⟩, false) = (⟨Nat.ofDigitChars 10 ds start, 0⟩, false) := by
  induction ds generalizing start with
  | nil => rfl
  | cons c ds ih =>
    rw [Nat.ofDigitChars_cons] at h ⊢
    have hnext : ¬ max64 < start * 10 + (c.toNat - '0'.toNat) := by
      have hfirst := Nat.le_trans (le_ofDigitChars ds _) h
      rw [Nat.mul_comm]
      exact Nat.not_lt.mpr hfirst
    have hstep : takeWhole (⟨start, 0⟩, false) c =
        (⟨10 * start + (c.toNat - '0'.toNat), 0⟩, false) := by
      simp only [takeWhole, Bool.false_or, gt_iff_lt, hnext, decide_false, Bool.false_eq_true,
        if_false, Nat.mul_comm]
    rw [List.foldl_cons, hstep, ih h]

theorem toFloat?_ofInt_isSome {n : Int} (h : n.natAbs ≤ max64) :
    (Numeral.ofInt n).toFloat?.isSome = true := by
  have hdigits : (natDigits n.natAbs).foldl takeWhole (⟨0, 0⟩, false) = (⟨n.natAbs, 0⟩, false) := by
    have hvalue := ofDigitChars_natDigits n.natAbs
    rw [foldl_takeWhole (by rw [hvalue]; exact h), hvalue]
  simp [toFloat?, ofInt, hdigits]

end Numeral

/-- A number within 64 bits can be kept wherever it stands. -/
theorem Json.canKeep_int {n : Int} (h : n.natAbs ≤ max64) (level : Nat) :
    (Json.int n).canKeep level = true := by
  simp only [Json.int, Json.canKeep, Numeral.toFloat?_ofInt_isSome h]

theorem Json.canKeep_nat {n : Nat} (h : n ≤ max64) (level : Nat) :
    (Json.nat n).canKeep level = true :=
  Json.canKeep_int (n := n) (by rwa [Int.natAbs_natCast]) level

theorem Json.IsInt64.natAbs_le {n : Int} (h : Json.IsInt64 n) : n.natAbs ≤ max64 := by
  obtain ⟨hlo, hhi⟩ := h
  simp only [minSigned64, maxSigned64, max64] at *
  omega

/-! ### Doubles -/

namespace Number

/-- A decimal that does not begin with a zero, or is zero itself. -/
def Decimal.Normal (d : Decimal) : Prop := d.digits = 0 → d.exponent = 0

/-- What is found on a grid is not zero. -/
theorem Interval.digits_of_onGrid? {i : Interval} {e : Int} {d : Decimal}
    (h : i.onGrid? e = some d) : d.digits ≠ 0 := by
  simp only [onGrid?] at h
  split at h
  · rename_i hbelow _
    simp only [Bool.and_eq_true, decide_eq_true_eq] at hbelow
    obtain rfl := Option.some.inj h
    split
    · exact hbelow.2
    · exact Nat.succ_ne_zero _
  · rename_i hbelow _
    simp only [Bool.and_eq_true, decide_eq_true_eq] at hbelow
    obtain rfl := Option.some.inj h
    exact hbelow.2
  · obtain rfl := Option.some.inj h
    exact Nat.succ_ne_zero _
  · cases h

/-- Zeros are taken off the end of a number only as long as some digit remains. -/
theorem Decimal.digits_withoutZeros {d : Decimal} (h : d.digits ≠ 0) (count : Nat) :
    (d.withoutZeros count).digits ≠ 0 := by
  induction count generalizing d with
  | zero => exact h
  | succ count ih =>
    rw [withoutZeros]
    split
    · rename_i hzero
      simp only [Bool.and_eq_true, decide_eq_true_eq] at hzero
      apply ih
      simp only
      omega
    · exact h

theorem Binary64.normal_shortest (b : Binary64) : b.shortest.Normal := by
  simp only [shortest]
  cases hnearest : (List.range 17).findSome?
      fun (n : Nat) => b.interval.onGrid? (magnitude b.interval.value b.interval.den - 1 - n) with
  | none => exact fun _ => rfl
  | some d =>
    obtain ⟨n, _, hgrid⟩ := List.exists_of_findSome?_eq_some hnearest
    have hdigits := Decimal.digits_withoutZeros (Interval.digits_of_onGrid? hgrid) 17
    exact fun hzero => absurd hzero hdigits

end Number

theorem AreDigits.drop {ds : List Char} (h : AreDigits ds) {count : Nat}
    (hcount : count < ds.length) : AreDigits (ds.drop count) := by
  refine ⟨?_, fun c hc => h.2 c (List.mem_of_mem_drop hc)⟩
  rw [ne_eq, List.drop_eq_nil_iff]
  omega

theorem AreDigits.zeros_append {ds : List Char} (h : AreDigits ds) (count : Nat) :
    AreDigits (List.replicate count '0' ++ ds) := by
  refine ⟨List.append_ne_nil_of_right_ne_nil _ h.1, List.forall_mem_append.mpr ⟨?_, h.2⟩⟩
  intro c hc
  rw [List.eq_of_mem_replicate hc]
  rfl

theorem AreDigits.append_zeros {ds : List Char} (h : AreDigits ds) (count : Nat) :
    AreDigits (ds ++ List.replicate count '0') := by
  refine ⟨List.append_ne_nil_of_left_ne_nil h.1 _, List.forall_mem_append.mpr ⟨h.2, ?_⟩⟩
  intro c hc
  rw [List.eq_of_mem_replicate hc]
  rfl

theorem IsWhole.take {ds : List Char} (h : IsWhole ds) {count : Nat} (hcount : 0 < count) :
    IsWhole (ds.take count) := by
  obtain ⟨⟨hne, hdigits⟩, hzero⟩ := h
  refine ⟨⟨?_, fun c hc => hdigits c (List.mem_of_mem_take hc)⟩, ?_⟩
  · simp only [ne_eq, List.take_eq_nil_iff, hne, or_false]
    omega
  · intro hhead
    rw [List.head?_take, if_neg (by omega)] at hhead
    rw [hzero hhead, List.take_of_length_le hcount]

theorem isWhole_zero : IsWhole ['0'] := isWhole_natDigits 0

namespace Numeral

open Number (Decimal)

theorem wellFormed_point {negative : Bool} {whole fraction : List Char} (hwhole : IsWhole whole)
    (hfraction : AreDigits fraction) : WellFormed ⟨negative, whole, some fraction, none⟩ where
  whole := hwhole
  fraction := by
    intro ds hds
    obtain rfl := Option.some.inj hds
    exact hfraction
  exponent := fun _ hnone => nomatch hnone

/-- A decimal that is normal is written without zeros in front. -/
theorem wellFormed_ofDecimal (negative : Bool) {d : Decimal} (h : d.Normal) :
    (ofDecimal negative d).WellFormed := by
  have hwhole := isWhole_natDigits d.digits
  have hdigits := hwhole.1
  simp only [ofDecimal]
  generalize hds : natDigits d.digits = ds at hwhole hdigits ⊢
  have hpos : 0 < ds.length := List.length_pos_iff.mpr hdigits.1
  split
  · split
    · -- the point stands in front of all digits
      exact wellFormed_point isWhole_zero (hdigits.zeros_append _)
    · split
      · -- the point stands behind all digits
        refine wellFormed_point ⟨hdigits.append_zeros _, ?_⟩ isWhole_zero.1
        intro hhead
        obtain ⟨c, rest, hcons⟩ := List.exists_cons_of_ne_nil hdigits.1
        have hfirst : ds.head? = some '0' := by
          rw [hcons] at hhead ⊢
          exact hhead
        have hzero := hwhole.2 hfirst
        have hvalue := ofDigitChars_natDigits d.digits
        rw [hds, hzero] at hvalue
        have hexponent := h hvalue.symm
        simp [hzero, hexponent]
      · rename_i hfront hback
        exact wellFormed_point (hwhole.take (by omega)) (hdigits.drop (by omega))
  · refine ⟨hwhole.take Nat.one_pos, ?_, ?_⟩
    · intro fraction hfraction
      simp only [Option.mem_def] at hfraction
      split at hfraction
      · cases hfraction
      · obtain rfl := Option.some.inj hfraction
        exact hdigits.drop (by omega)
    · intro exponent hexponent
      obtain rfl := Option.some.inj hexponent
      exact (isWhole_natDigits _).1

/-- **A double is written as a numeral.** -/
theorem wellFormed_ofFloat (x : Float) : (ofFloat x).WellFormed := by
  simp only [ofFloat]
  split
  · exact wellFormed_point isWhole_zero isWhole_zero.1
  · exact wellFormed_ofDecimal _ (Number.Binary64.normal_shortest _)

end Numeral

theorem Json.writable_float (x : Float) : (Json.float x).Writable := by
  unfold Json.float
  split
  · exact .num (Numeral.wellFormed_ofFloat x)
  · exact .null

end TimedTrials
