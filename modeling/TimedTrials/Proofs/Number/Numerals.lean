/-
  TimedTrials/Proofs/Number/Numerals.lean
  =======================================
  **What is read as a count, and what it counts.**

  A numeral is the decimal digits of a number, behind any zeros and at most one plus sign
  (`Numeral`). These are just the texts that a count is read from (`readNat?_eq_some_iff`): digits
  are taken from the left, and one more digit of a number that is not zero is one more digit of
  its decimal form.
-/
import Mathlib.Data.List.Induction
import TimedTrials.Number.Integer
import TimedTrials.Text.Blank

namespace TimedTrials.Number

variable {c : Char} {n : Nat} {cs : List Char}

/-! ### Digits -/

theorem isDigit_natDigits (h : c ∈ natDigits n) : c.isDigit = true :=
  Nat.isDigit_of_mem_toDigits (by decide) (by decide) h

theorem natDigits_ne (h : c.isDigit = false) : c ∉ natDigits n := by
  intro hmem
  cases h.symm.trans (isDigit_natDigits hmem)

theorem code_of_isDigit (h : c.isDigit = true) : 48 ≤ c.toNat ∧ c.toNat ≤ 57 := by
  simp only [Char.isDigit, Bool.and_eq_true, decide_eq_true_eq, ge_iff_le,
    UInt32.le_iff_toNat_le] at h
  exact h

theorem isBlank_of_isDigit (h : c.isDigit = true) : Text.isBlank c = false := by
  have hcodes : ∀ code ∈ Text.blankCodes, code < 48 ∨ 57 < code := by decide
  rw [← Bool.not_eq_true]
  intro hblank
  have hcode := hcodes c.toNat (List.contains_iff_mem.mp hblank)
  have hrange := code_of_isDigit h
  omega

/-- A digit is the written form of its value. -/
theorem digitChar_of_isDigit (h : c.isDigit = true) :
    c.toNat - 48 < 10 ∧ c = Nat.digitChar (c.toNat - 48) := by
  have hrange := code_of_isDigit h
  have hvalue : c.toNat - 48 < 10 := by omega
  refine ⟨hvalue, ?_⟩
  rw [← Char.toNat_inj, Nat.toNat_digitChar_of_lt_ten hvalue]
  omega

/-! ### Zeros in front -/

/-- The digits of a number, with zeros in front. -/
def zeroed (zeros n : Nat) : List Char := List.replicate zeros '0' ++ natDigits n

theorem isDigit_zeroed {zeros : Nat} (h : c ∈ zeroed zeros n) : c.isDigit = true := by
  rcases List.mem_append.mp h with hzero | hdigit
  · rw [List.eq_of_mem_replicate hzero]
    rfl
  · exact isDigit_natDigits hdigit

theorem ofDigits?_zeroed (zeros n : Nat) : ofDigits? (zeroed zeros n) = some n := by
  have hall : (zeroed zeros n).all Char.isDigit = true :=
    List.all_eq_true.mpr fun c hc => isDigit_zeroed hc
  have hne : (zeroed zeros n).isEmpty = false := by
    simp [zeroed, natDigits, Nat.toDigits_ne_nil]
  have hvalue : Nat.ofDigitChars 10 (zeroed zeros n) 0 = n := by
    rw [zeroed, Nat.ofDigitChars_append, Nat.ofDigitChars_replicate_zero, Nat.mul_zero]
    exact Nat.ofDigitChars_toDigits (by decide) (by decide)
  rw [ofDigits?, hall, hne, hvalue]
  rfl

/-- One more digit at the end of a number is one more digit of its decimal form, and in its place
    if the number is zero. -/
theorem exists_zeroed_append {d : Nat} (hd : d < 10) (zeros n : Nat) :
    ∃ zeros', zeroed zeros n ++ [Nat.digitChar d] = zeroed zeros' (10 * n + d) := by
  cases n with
  | zero =>
    refine ⟨zeros + 1, ?_⟩
    simp only [zeroed, natDigits, Nat.toDigits_zero, Nat.toDigits_of_lt_base hd, Nat.mul_zero,
      Nat.zero_add, List.replicate_succ']
  | succ n =>
    refine ⟨zeros, ?_⟩
    have happend := Nat.toDigits_append_toDigits (b := 10) (by decide) (Nat.succ_pos n) hd
    rw [Nat.toDigits_of_lt_base hd] at happend
    rw [zeroed, zeroed, List.append_assoc, natDigits, natDigits, happend]

theorem exists_eq_zeroed (hne : cs ≠ []) (hdigits : ∀ c ∈ cs, c.isDigit = true) :
    ∃ zeros, cs = zeroed zeros (Nat.ofDigitChars 10 cs 0) := by
  induction cs using List.reverseRecOn with
  | nil => exact absurd rfl hne
  | append_singleton cs c ih =>
    rw [List.forall_mem_append, List.forall_mem_singleton] at hdigits
    obtain ⟨hvalue, hc⟩ := digitChar_of_isDigit hdigits.2
    have hlast : Nat.ofDigitChars 10 (cs ++ [c]) 0 =
        10 * Nat.ofDigitChars 10 cs 0 + (c.toNat - 48) := by
      rw [Nat.ofDigitChars_append, Nat.ofDigitChars_cons, Nat.ofDigitChars_nil]
      rfl
    rw [hlast]
    cases cs with
    | nil =>
      refine ⟨0, ?_⟩
      rw [Nat.ofDigitChars_nil, zeroed, natDigits, Nat.toDigits_of_lt_base (by omega)]
      simpa using hc
    | cons first rest =>
      obtain ⟨zeros, hzeroed⟩ := ih (List.cons_ne_nil _ _) hdigits.1
      obtain ⟨zeros', hlonger⟩ :=
        exists_zeroed_append hvalue zeros (Nat.ofDigitChars 10 (first :: rest) 0)
      rw [← hzeroed, ← hc] at hlonger
      exact ⟨zeros', hlonger⟩

theorem ofDigits?_eq_some_iff : ofDigits? cs = some n ↔ ∃ zeros, cs = zeroed zeros n := by
  constructor
  · intro h
    rw [ofDigits?] at h
    split at h
    · cases h
    · rename_i hdigits
      obtain rfl := Option.some.inj h
      rw [Bool.or_eq_true, not_or, Bool.not_eq_true, Bool.not_eq_true, Bool.not_eq_false',
        List.all_eq_true, List.isEmpty_eq_false_iff] at hdigits
      exact exists_eq_zeroed hdigits.1 hdigits.2
  · rintro ⟨zeros, rfl⟩
    exact ofDigits?_zeroed zeros n

/-! ### Numerals -/

/-- The texts of a count: its digits behind any zeros, with a plus sign in front or without. -/
inductive Numeral (n : Nat) : List Char → Prop where
  | plain (zeros : Nat) : Numeral n (zeroed zeros n)
  | signed (zeros : Nat) : Numeral n ('+' :: zeroed zeros n)

theorem Numeral.eq_plus_or_isDigit (h : Numeral n cs) (hc : c ∈ cs) :
    c = '+' ∨ c.isDigit = true := by
  cases h with
  | plain zeros => exact .inr (isDigit_zeroed hc)
  | signed zeros => exact (List.mem_cons.mp hc).imp_right isDigit_zeroed

/-- **A count is read from its numerals and from nothing else**, as far as it may go. -/
theorem readNat?_eq_some_iff {limit : Nat} :
    readNat? limit cs = some n ↔ Numeral n cs ∧ n ≤ limit := by
  unfold readNat?
  rw [Option.filter_eq_some_iff, decide_eq_true_eq, and_congr_left_iff]
  intro _
  split
  · rename_i rest
    rw [ofDigits?_eq_some_iff]
    constructor
    · rintro ⟨zeros, rfl⟩
      exact .signed zeros
    · intro h
      generalize htext : '+' :: rest = cs at h
      cases h with
      | plain zeros =>
        -- a plus sign is no digit
        have hplus : '+' ∈ zeroed zeros n := htext ▸ List.mem_cons_self
        exact absurd (isDigit_zeroed hplus) (by decide)
      | signed zeros => exact ⟨zeros, (List.cons.inj htext).2⟩
  · rename_i hplus
    rw [ofDigits?_eq_some_iff]
    constructor
    · rintro ⟨zeros, rfl⟩
      exact .plain zeros
    · intro h
      cases h with
      | plain zeros => exact ⟨zeros, rfl⟩
      | signed zeros => exact absurd rfl (hplus _)

/-- A count is read back from its digits. -/
theorem readNat?_natDigits {limit : Nat} (h : n ≤ limit) : readNat? limit (natDigits n) = some n :=
  readNat?_eq_some_iff.mpr ⟨.plain 0, h⟩

end TimedTrials.Number
