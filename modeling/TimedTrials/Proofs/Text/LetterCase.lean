/-
  TimedTrials/Proofs/Text/LetterCase.lean
  =======================================
  **Texts that are the same but for the case of their letters.**

  Header names and option names may be written in any case of the ASCII letters
  (`SameLetters`). Such a text has blanks at its ends just where the other has (`isBlank_lowerAsciiChar`).

  Lowercasing goes further than ASCII: the Kelvin sign becomes a `k`. It is the only character
  outside of ASCII that is lowered into it (`caseRuns_leave_ascii`), so that a word without a `k`
  is what just the texts in another case of its letters are lowered to (`lowerChars_eq_iff`).
-/
import TimedTrials.Proofs.Text.Lowering

namespace TimedTrials.Text

variable {c d : Char} {before cs word xs ys : List Char}

/-- Two texts are the same but for the case of ASCII letters. -/
def SameLetters (xs ys : List Char) : Prop := xs.map lowerAsciiChar = ys.map lowerAsciiChar

instance (xs ys : List Char) : Decidable (SameLetters xs ys) := inferInstanceAs (Decidable (_ = _))

/-! ### Blanks -/

theorem lowerAsciiChar_cases (c : Char) :
    (65 ≤ c.toNat ∧ c.toNat ≤ 90 ∧ (lowerAsciiChar c).toNat = c.toNat + 32) ∨
      lowerAsciiChar c = c := by
  rw [lowerAsciiChar]
  split
  · rename_i hcapital
    have hrange : 65 ≤ c.toNat ∧ c.toNat ≤ 90 := hcapital
    have hvalid : (c.toNat + 32).isValidChar := by
      rw [Nat.isValidChar]
      omega
    refine .inl ⟨hrange.1, hrange.2, ?_⟩
    rw [Char.ofNat, dif_pos hvalid]
    rfl
  · exact .inr rfl

theorem isBlank_lowerAsciiChar (c : Char) : isBlank (lowerAsciiChar c) = isBlank c := by
  obtain ⟨hfirst, hlast, hcode⟩ | hsame := lowerAsciiChar_cases c
  · -- there is no blank between the first capital and the last small letter
    have hcodes : ∀ code ∈ blankCodes, code < 65 ∨ 122 < code := by decide
    have hblank : ∀ d : Char, 65 ≤ d.toNat → d.toNat ≤ 122 → isBlank d = false := by
      intro d hle hge
      refine isBlank_eq_false fun code hmem heq => ?_
      have hrange := hcodes code hmem
      omega
    rw [hblank c hfirst (by omega), hblank _ (by omega) (by omega)]
  · rw [hsame]

theorem SameLetters.unblanked (h : SameLetters xs ys) (hys : Unblanked ys) : Unblanked xs := by
  have hends : ∀ {a b : Option Char}, a.map lowerAsciiChar = b.map lowerAsciiChar →
      (∀ c ∈ b, isBlank c = false) → ∀ c ∈ a, isBlank c = false := by
    rintro a b hsame hb c rfl
    obtain ⟨d, hd, hdc⟩ := Option.map_eq_some_iff.mp hsame.symm
    rw [← isBlank_lowerAsciiChar, ← hdc, isBlank_lowerAsciiChar]
    exact hb d hd
  refine ⟨hends ?_ hys.head, hends ?_ hys.last⟩
  · rw [← List.head?_map, ← List.head?_map, h]
  · rw [← List.getLast?_map, ← List.getLast?_map, h]

/-! ### Words that only ASCII is lowered to -/

/-- No code point outside of ASCII is lowered into it, but for the one of `k`. -/
theorem caseRuns_leave_ascii : (caseRuns.all fun run =>
    run.image.apart ⟨0, 0x6a, 1, 0⟩ && run.image.apart ⟨0x6c, 0x7f, 1, 0⟩) = true := by decide

/-- The small letters that nothing outside of ASCII is lowered to. -/
def OwnSmall (d : Char) : Prop := 'a' ≤ d ∧ d ≤ 'z' ∧ d ≠ 'k'

instance (d : Char) : Decidable (OwnSmall d) := inferInstanceAs (Decidable (_ ∧ _ ∧ _))

theorem OwnSmall.isAscii (h : OwnSmall d) : d.toNat < 0x80 := Nat.lt_of_le_of_lt h.2.1 (by decide)

theorem lowerAsciiChar_of_ownSmall (h : OwnSmall d) : lowerAsciiChar d = d := by
  have hcode : 97 ≤ d.toNat := h.1
  obtain ⟨_, hlast, _⟩ | hsame := lowerAsciiChar_cases d
  · omega
  · exact hsame

theorem map_lowerAsciiChar_eq_self (h : ∀ d ∈ word, OwnSmall d) :
    word.map lowerAsciiChar = word :=
  (List.map_congr_left fun d hd => lowerAsciiChar_of_ownSmall (h d hd)).trans (List.map_id _)

theorem unblanked_of_ownSmall (h : ∀ d ∈ word, OwnSmall d) : Unblanked word := by
  have hblank : ∀ d ∈ word, isBlank d = false := by
    intro d hd
    have hcodes : ∀ code ∈ blankCodes, code < 97 ∨ 122 < code := by decide
    have hfirst : 97 ≤ d.toNat := (h d hd).1
    have hlast : d.toNat ≤ 122 := (h d hd).2.1
    refine isBlank_eq_false fun code hmem heq => ?_
    have hrange := hcodes code hmem
    omega
  exact ⟨fun d hd => hblank d (List.mem_of_mem_head? hd),
    fun d hd => hblank d (List.mem_of_mem_getLast? hd)⟩

/-- A word of such letters is written with letters only. -/
theorem SameLetters.not_mem (h : SameLetters cs word) (hword : ∀ d ∈ word, OwnSmall d)
    (hc : ¬ OwnSmall (lowerAsciiChar c)) : c ∉ cs := by
  intro hmem
  have hlowered : lowerAsciiChar c ∈ cs.map lowerAsciiChar := List.mem_map_of_mem hmem
  rw [h, map_lowerAsciiChar_eq_self hword] at hlowered
  exact hc (hword _ hlowered)

theorem isAscii_of_lowerAsciiChar (h : OwnSmall (lowerAsciiChar c)) : c.toNat < 0x80 := by
  obtain ⟨_, hlast, _⟩ | hsame := lowerAsciiChar_cases c
  · omega
  · exact hsame ▸ h.isAscii

theorem loweredAt_of_ascii (h : c.toNat < 0x80) : loweredAt before c cs = [lowerAsciiChar c] := by
  have hsigma : c ≠ 'Σ' := by
    rintro rfl
    exact absurd h (by decide)
  rw [loweredAt, if_neg hsigma, lowerChar, if_pos h]

/-- Every rule that lowers other characters leads out of these letters. -/
theorem isAscii_of_loweredAt (h : ∀ d ∈ loweredAt before c cs, OwnSmall d) : c.toNat < 0x80 := by
  by_contra hascii
  rw [loweredAt] at h
  split at h
  · split at h
    · exact absurd (h 'ς' List.mem_cons_self) (by decide)
    · exact absurd (h 'σ' List.mem_cons_self) (by decide)
  · rw [lowerChar, if_neg hascii] at h
    split at h
    · exact absurd (h (Char.ofNat 0x307) (by simp)) (by decide)
    · cases hshift : caseRuns.findSome? (·.shift? c.toNat) with
      | none =>
        rw [hshift] at h
        exact hascii (h c List.mem_cons_self).isAscii
      | some n =>
        rw [hshift] at h
        obtain ⟨run, hrun, hn⟩ := List.exists_of_findSome?_eq_some hshift
        obtain ⟨hholds, rfl⟩ := ShiftRun.shift?_eq_some_iff.mp hn
        have hletter : run ∈ letterRuns := List.mem_cons_of_mem _ hrun
        have hown : OwnSmall (Char.ofNat (run.target c.toNat)) := h _ List.mem_cons_self
        have hlt := hown.isAscii
        rw [toNat_ofNat_target hletter hholds] at hlt
        -- of the code points of ASCII only that of `k` is left
        have hleave := List.all_eq_true.mp caseRuns_leave_ascii run hrun
        rw [Bool.and_eq_true] at hleave
        have himage := image_holds_of_mem hletter hholds
        have hbelow := ShiftRun.not_holds_of_apart hleave.1 himage
        have habove := ShiftRun.not_holds_of_apart hleave.2 himage
        simp only [ShiftRun.Holds, Nat.mod_one, and_true] at hbelow habove
        have hk : run.target c.toNat = 0x6b := by omega
        exact hown.2.2 (by rw [hk])

theorem lowerAfter_eq_iff (hword : ∀ d ∈ word, OwnSmall d) :
    lowerAfter before cs = word ↔ cs.map lowerAsciiChar = word := by
  induction cs generalizing before word with
  | nil => rfl
  | cons c cs ih =>
    have hstep : c.toNat < 0x80 → (lowerAfter before (c :: cs) = word ↔
        (c :: cs).map lowerAsciiChar = word) := by
      intro hascii
      rw [lowerAfter_cons, loweredAt_of_ascii hascii, List.singleton_append, List.map_cons]
      cases word with
      | nil => simp
      | cons d word =>
        rw [List.forall_mem_cons] at hword
        rw [List.cons.injEq, List.cons.injEq]
        exact and_congr Iff.rfl (ih hword.2)
    constructor
    · intro h
      rw [lowerAfter_cons] at h
      have hlowered : ∀ d ∈ loweredAt before c cs, OwnSmall d := fun d hd =>
        hword d (h ▸ List.mem_append_left _ hd)
      exact (hstep (isAscii_of_loweredAt hlowered)).mp h
    · intro h
      have hlowered : OwnSmall (lowerAsciiChar c) := hword _ (h ▸ List.mem_cons_self)
      exact (hstep (isAscii_of_lowerAsciiChar hlowered)).mpr h

/-- **A word of such letters is what the texts in any case of them are lowered to**, and no
    other text is. -/
theorem lowerChars_eq_iff (hword : ∀ d ∈ word, OwnSmall d) :
    lowerChars cs = word ↔ SameLetters cs word := by
  rw [lowerChars, lowerAfter_eq_iff hword, SameLetters, map_lowerAsciiChar_eq_self hword]

end TimedTrials.Text
