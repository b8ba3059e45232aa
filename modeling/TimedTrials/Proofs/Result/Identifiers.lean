/-
  TimedTrials/Proofs/Result/Identifiers.lean
  ==========================================
  **An identifier is part of a file name, and tells when the run finished.**

  Between its mark and its last four characters an identifier has the milliseconds of its instant
  in base 36 (`timeDigits?_newExperimentId`). A reader of such digits gets the number back
  (`ofBase36?_base36`), so other milliseconds make another identifier; and since a larger number
  never has fewer digits, a later identifier is never the shorter one. The four random digits are
  digits because a random number stays below its bound (`Random.below_lt`).
-/
import Mathlib.Data.List.DropRight
import TimedTrials.Proofs.Result.Delivery

namespace TimedTrials

variable {n m : Nat} {c : Char} {cs : List Char}

/-! ### Numbers below a bound -/

/-- A random number stays below its bound, for every generator. Where a second word adds one to the
    first choice, the first one was not the last below the bound: its low half would be too
    small. -/
theorem Random.below_lt (hpos : 0 < n) (hbound : n ≤ wordCount) (g : Generator) :
    (below n g).1 < n := by
  have hword : g.next.1 < wordCount := Nat.mod_lt _ (by decide)
  have hproduct : g.next.1 * n ≤ (wordCount - 1) * n := Nat.mul_le_mul_right n (by omega)
  have hlast : (wordCount - 1) * n + n = wordCount * n := by
    rw [← Nat.succ_mul]
    rfl
  have hhalves := Nat.div_add_mod (g.next.1 * n) wordCount
  have hhigh : g.next.1 * n / wordCount < n := by
    rw [Nat.div_lt_iff_lt_mul (by decide), Nat.mul_comm n]
    omega
  have hnext : wordCount - n < g.next.1 * n % wordCount →
      g.next.1 * n / wordCount + 1 < n := by
    intro hlow
    by_contra hge
    have htop : wordCount * (g.next.1 * n / wordCount) = wordCount * n - wordCount := by
      rw [← Nat.mul_sub_one]
      exact congrArg (wordCount * ·) (by omega)
    have hroom : wordCount ≤ wordCount * n := Nat.le_mul_of_pos_right wordCount hpos
    omega
  simp only [below]
  split
  · rename_i hlow
    split
    · exact hnext hlow
    · exact hhigh
  · exact hhigh

/-! ### Base 36 -/

/-- The value of a digit in base 36: an ASCII digit, or a letter in either case. -/
def base36Value? (c : Char) : Option Nat :=
  if c.isDigit then some (c.toNat - 48)
  else if c.isLower then some (c.toNat - 87)
  else if c.isUpper then some (c.toNat - 55)
  else none

/-- The value of digits in base 36, of which there must be one at least. -/
def ofBase36? (cs : List Char) : Option Nat :=
  if cs.isEmpty then none
  else cs.foldlM (fun n c => (base36Value? c).map fun d => 36 * n + d) 0

theorem base36Value?_base36Digit : ∀ d < 36, base36Value? (base36Digit d) = some d := by decide

theorem isAlphanum_base36Digit : ∀ d < 36, (base36Digit d).isAlphanum = true := by decide

theorem base36Digit_eq_zero : ∀ d < 36, base36Digit d = '0' → d = 0 := by decide

theorem base36_of_lt (h : n < 36) : base36 n = [base36Digit n] := by
  rw [base36, if_pos h]

theorem base36_of_not_lt (h : ¬ n < 36) :
    base36 n = base36 (n / 36) ++ [base36Digit (n % 36)] := by
  rw [base36, if_neg h]

theorem base36_ne_nil (n : Nat) : base36 n ≠ [] := by
  by_cases h : n < 36
  · simp [base36_of_lt h]
  · simp [base36_of_not_lt h]

theorem isAlphanum_base36 (h : c ∈ base36 n) : c.isAlphanum = true := by
  induction n using base36.induct with
  | case1 n hn =>
    rw [base36_of_lt hn, List.mem_singleton] at h
    exact h ▸ isAlphanum_base36Digit n hn
  | case2 n hn ih =>
    rw [base36_of_not_lt hn, List.mem_append, List.mem_singleton] at h
    rcases h with h | rfl
    · exact ih h
    · exact isAlphanum_base36Digit _ (Nat.mod_lt _ (by decide))

theorem foldlM_base36 (n : Nat) :
    (base36 n).foldlM (fun n c => (base36Value? c).map fun d => 36 * n + d) 0 = some n := by
  induction n using base36.induct with
  | case1 n hn => simp [base36_of_lt hn, base36Value?_base36Digit n hn]
  | case2 n hn ih =>
    have hdigit := base36Value?_base36Digit (n % 36) (Nat.mod_lt _ (by decide))
    rw [base36_of_not_lt hn, List.foldlM_append, ih]
    simp [hdigit, Nat.div_add_mod]

/-- A number is read back from its digits. -/
theorem ofBase36?_base36 (n : Nat) : ofBase36? (base36 n) = some n := by
  rw [ofBase36?, if_neg (by simpa using base36_ne_nil n)]
  exact foldlM_base36 n

example : base36 1700000000000 = "loyw3v28".toList := by cbv

/-- Zero is the only number whose first digit is a zero. -/
theorem head?_base36_eq_zero (h : (base36 n).head? = some '0') : n = 0 := by
  induction n using base36.induct with
  | case1 n hn =>
    rw [base36_of_lt hn, List.head?_cons] at h
    exact base36Digit_eq_zero n hn (Option.some.inj h)
  | case2 n hn ih =>
    rw [base36_of_not_lt hn, List.head?_append_of_ne_nil _ (base36_ne_nil _)] at h
    have hzero := ih h
    omega

theorem length_base36_mono (h : m ≤ n) : (base36 m).length ≤ (base36 n).length := by
  induction n using base36.induct generalizing m with
  | case1 n hn => simp [base36_of_lt hn, base36_of_lt (Nat.lt_of_le_of_lt h hn)]
  | case2 n hn ih =>
    rw [base36_of_not_lt hn, List.length_append]
    by_cases hm : m < 36
    · simp [base36_of_lt hm]
    · rw [base36_of_not_lt hm, List.length_append]
      exact Nat.add_le_add_right (ih (Nat.div_le_div_right h)) 1

/-! ### Random digits -/

theorem length_randomDigits (k : Nat) (g : Random.Generator) :
    (randomDigits k g).1.length = k := by
  induction k generalizing g with
  | zero => rfl
  | succ k ih => exact congrArg (· + 1) (ih _)

theorem isAlphanum_randomDigits {k : Nat} {g : Random.Generator}
    (h : c ∈ (randomDigits k g).1) : c.isAlphanum = true := by
  induction k generalizing g with
  | zero => cases h
  | succ k ih =>
    have hbelow := Random.below_lt (n := 36) (by decide) (by decide) g
    rcases List.mem_cons.mp h with rfl | h
    · exact isAlphanum_base36Digit _ hbelow
    · exact ih h

/-! ### Identifiers -/

/-- What stands in an identifier between its mark and its last four characters. -/
def timeDigits? (id : String) : Option (List Char) :=
  (Text.dropHead? idMark.toList id.toList).map fun rest => rest.rdrop 4

variable {instant instant' : Int} {g g' : Random.Generator}

theorem toList_newExperimentId (instant : Int) (g : Random.Generator) :
    (newExperimentId instant g).1.toList =
      idMark.toList ++ (base36 (Calendar.millisOf instant).toNat ++ (randomDigits 4 g).1) := by
  rw [← List.append_assoc]
  exact String.toList_ofList

theorem isExperimentId_newExperimentId (instant : Int) (g : Random.Generator) :
    IsExperimentId (newExperimentId instant g).1 := by
  have hid := toList_newExperimentId instant g
  refine ⟨String.ofList (base36 (Calendar.millisOf instant).toNat ++ (randomDigits 4 g).1),
    ?_, ?_, ?_⟩
  · rw [← String.toList_inj, hid, String.toList_append]
    exact congrArg (idMark.toList ++ ·) String.toList_ofList.symm
  · simp [base36_ne_nil]
  · intro c hc
    rw [String.toList_ofList, List.mem_append] at hc
    exact hc.elim isAlphanum_base36 isAlphanum_randomDigits

theorem timeDigits?_newExperimentId (instant : Int) (g : Random.Generator) :
    timeDigits? (newExperimentId instant g).1 =
      some (base36 (Calendar.millisOf instant).toNat) := by
  have hend : ((randomDigits 4 g).1).length = 4 := length_randomDigits 4 g
  rw [timeDigits?, toList_newExperimentId, Text.dropHead?_append, Option.map_some]
  congr 1
  simp [List.rdrop, hend]

theorem length_newExperimentId (instant : Int) (g : Random.Generator) :
    (newExperimentId instant g).1.length =
      (base36 (Calendar.millisOf instant).toNat).length + 8 := by
  have hmark : idMark.toList.length = 4 := rfl
  rw [← String.length_toList, toList_newExperimentId, List.length_append, List.length_append,
    length_randomDigits, hmark]
  omega

/-- Instants of other milliseconds since 1970 have other identifiers. -/
theorem newExperimentId_ne (h : 0 ≤ Calendar.millisOf instant)
    (h' : 0 ≤ Calendar.millisOf instant')
    (hne : Calendar.millisOf instant ≠ Calendar.millisOf instant') :
    (newExperimentId instant g).1 ≠ (newExperimentId instant' g').1 := by
  intro hid
  have hdigits : some (base36 (Calendar.millisOf instant).toNat) =
      some (base36 (Calendar.millisOf instant').toNat) := by
    rw [← timeDigits?_newExperimentId instant g, hid, timeDigits?_newExperimentId]
  have hvalue : (Calendar.millisOf instant).toNat = (Calendar.millisOf instant').toNat := by
    rw [← Option.some_inj, ← ofBase36?_base36, Option.some.inj hdigits, ofBase36?_base36]
  omega

/-- A file is never refused for the identifier of a new artifact. -/
theorem Artifact.saveOn_ne_invalidId {a : Artifact} (h : IsExperimentId a.experimentId)
    (disk : Disk) (s : Storage) (dir id : String) :
    (a.saveOn disk s dir).outcome ≠ .error (.invalidId id) := by
  rcases a.saveOn_cases disk s dir with ⟨e, after, hfailure, houtcome, -⟩ | ⟨-, houtcome, -⟩
  · rw [houtcome]
    cases hfailure with
    | invalidId hid => exact absurd h hid
    | directories => exact nofun
    | file => exact nofun
  · rw [houtcome]
    exact nofun

/-- **An identifier is part of a file name, and tells when the run finished**, whatever words the
    generator gives. It is valid, so no artifact made with it is refused by the directory. Without
    its mark and its last four characters it is the milliseconds of the instant in base 36, or zero
    before 1970, and a leading zero stands for zero alone. So other milliseconds since 1970 make
    another identifier, and later ones never a shorter one. -/
theorem newExperimentId_tells_instant (instant : Int) (g : Random.Generator) :
    isValidExperimentId (newExperimentId instant g).1 = true ∧
    (∀ environment randomized repetitions trials disk s dir id,
      ((Artifact.new instant g environment randomized repetitions trials).1.saveOn
        disk s dir).outcome ≠ .error (.invalidId id)) ∧
    (∃ time, timeDigits? (newExperimentId instant g).1 = some time ∧
      ofBase36? time = some (max 0 (Calendar.millisOf instant)).toNat ∧
      (time.head? = some '0' → time = ['0'] ∧ Calendar.millisOf instant ≤ 0)) ∧
    ∀ instant' g',
      (0 ≤ Calendar.millisOf instant → 0 ≤ Calendar.millisOf instant' →
        Calendar.millisOf instant ≠ Calendar.millisOf instant' →
        (newExperimentId instant g).1 ≠ (newExperimentId instant' g').1) ∧
      (Calendar.millisOf instant ≤ Calendar.millisOf instant' →
        (newExperimentId instant g).1.length ≤ (newExperimentId instant' g').1.length) := by
  have hid := isExperimentId_newExperimentId instant g
  refine ⟨isValidExperimentId_iff.mpr hid, ?saved, ?time, ?others⟩
  case saved =>
    intro environment randomized repetitions trials disk s dir id
    exact Artifact.saveOn_ne_invalidId hid disk s dir id
  case time =>
    refine ⟨_, timeDigits?_newExperimentId instant g, ?_, ?_⟩
    · rw [ofBase36?_base36]
      exact congrArg some (by omega)
    · intro hzero
      have hms := head?_base36_eq_zero hzero
      refine ⟨?_, by omega⟩
      rw [hms]
      exact base36_of_lt (by decide)
  case others =>
    intro instant' g'
    refine ⟨newExperimentId_ne, fun hle => ?_⟩
    rw [length_newExperimentId, length_newExperimentId]
    exact Nat.add_le_add_right (length_base36_mono (Int.toNat_le_toNat hle)) 8

/-- Two runs that finish one millisecond after the other, with the same random digits. -/
theorem newExperimentId_tells_next_instant :
    let first : Int := 1700000000000 * Calendar.perMilli
    let next : Int := 1700000000001 * Calendar.perMilli
    let g := Random.Generator.cycle [0x40000000]
    (0 ≤ Calendar.millisOf first ∧ 0 ≤ Calendar.millisOf next ∧
      Calendar.millisOf first < Calendar.millisOf next) ∧
    (newExperimentId first g).1 ≠ (newExperimentId next g).1 ∧
    (newExperimentId first g).1.length ≤ (newExperimentId next g).1.length := by
  intro first next g
  have hms : 0 ≤ Calendar.millisOf first ∧ 0 ≤ Calendar.millisOf next ∧
      Calendar.millisOf first < Calendar.millisOf next := by decide
  obtain ⟨-, -, -, hothers⟩ := newExperimentId_tells_instant first g
  obtain ⟨hne, hlength⟩ := hothers next g
  exact ⟨hms, hne hms.1 hms.2.1 (Int.ne_of_lt hms.2.2), hlength (Int.le_of_lt hms.2.2)⟩

end TimedTrials
