/-
  TimedTrials/Domain/Punycode.lean
  ================================
  **Texts of any characters as letters, digits and hyphens.**

  The written form begins with the ASCII characters of the text and a hyphen. Behind it stand
  the others in the order of their code points: each one as how many steps it is away from the
  one before, where a step goes to the next place in the text, and from the last place to the
  next code point. A number of steps is written in digits of base 36, lowest first, and its last
  digit is the first one below a threshold. The thresholds follow a bias that adapts to the size
  of the numbers so far.
-/
import TimedTrials.Text.Search

namespace TimedTrials.Domain.Punycode

/-! ### Digits -/

/-- How many digits there are: the letters and then the decimal digits. -/
def base : Nat := 36

def digitChar (d : Nat) : Char := Char.ofNat (if d < 26 then 0x61 + d else 0x30 + (d - 26))

def digitValue? (c : Char) : Option Nat :=
  if 'a' ≤ c ∧ c ≤ 'z' then some (c.toNat - 0x61)
  else if '0' ≤ c ∧ c ≤ '9' then some (c.toNat - 0x30 + 26)
  else none

/-- The threshold of a place, which counts in steps of the base. -/
def threshold (place bias : Nat) : Nat := max 1 (min 26 (place - bias))

theorem threshold_pos (place bias : Nat) : 1 ≤ threshold place bias := by
  unfold threshold; omega

/-! ### The bias -/

/-- Scales a number down until it is small, and counts how often in steps of the base. -/
def scaled (n place : Nat) : Nat × Nat :=
  if 455 < n then scaled (n / 35) (place + base) else (n, place)
termination_by n
decreasing_by exact Nat.div_lt_self (by omega) (by omega)

/-- The bias behind a number of steps, when so many characters are in place. -/
def adapted (steps count : Nat) (isFirst : Bool) : Nat :=
  let n := if isFirst then steps / 700 else steps / 2
  let (rest, place) := scaled (n + n / count) 0
  place + base * rest / (rest + 38)

def firstBias : Nat := 72

/-- The code point that the steps begin at. -/
def firstCode : Nat := 0x80

/-! ### Writing -/

/-- The digits of a number from a place on. -/
def digits (bias place n : Nat) : List Char :=
  if n < threshold place bias then [digitChar n]
  else
    digitChar (threshold place bias + (n - threshold place bias) % (base - threshold place bias)) ::
      digits bias (place + base) ((n - threshold place bias) / (base - threshold place bias))
termination_by n
decreasing_by
  have h₁ := threshold_pos place bias
  exact Nat.lt_of_le_of_lt (Nat.div_le_self _ _) (by omega)

/-- How far writing has come: the bias, how many characters are in place, the steps since the
    last one, and what has been written. -/
structure Progress where
  bias : Nat
  count : Nat
  steps : Nat
  isFirst : Bool
  written : List Char

/-- Passes one character of the text while those with the code point `n` are put in place. -/
def Progress.pass (n : Nat) (p : Progress) (c : Char) : Progress :=
  if c.toNat < n then { p with steps := p.steps + 1 }
  else if c.toNat = n then
    ⟨adapted p.steps (p.count + 1) p.isFirst, p.count + 1, 0, false,
      p.written ++ digits p.bias base p.steps⟩
  else p

/-- Puts the characters with the given code points in place, in this order; `n` is the code point
    that the steps have come to. -/
def place (text : List Char) : Nat → Progress → List Nat → Progress
  | _, p, [] => p
  | n, p, code :: rest =>
    let p := text.foldl (Progress.pass code)
      { p with steps := p.steps + (code - n) * (p.count + 1) }
    place text (code + 1) { p with steps := p.steps + 1 } rest

def encode (text : List Char) : List Char :=
  let plain := text.filter (·.toNat < firstCode)
  let codes := ((text.filter (firstCode ≤ ·.toNat)).map (·.toNat)).mergeSort fun a b =>
    decide (a ≤ b)
  let start := if plain.isEmpty then [] else plain ++ ['-']
  (place text firstCode ⟨firstBias, plain.length, 0, true, start⟩ codes.eraseDups).written

/-! ### Reading -/

def greatest : Nat := 0xffffffff

/-- A number of steps at the head of a text, and what follows it. `weight` is what a digit at the
    place counts, and `n` is the number so far. -/
def number? (bias : Nat) : Nat → Nat → Nat → List Char → Option (Nat × List Char)
  | _, _, _, [] => none
  | place, weight, n, c :: rest => do
    let d ← digitValue? c
    let n := n + d * weight
    let t := threshold place bias
    if greatest < n then none
    else if d < t then some (n, rest)
    else if greatest / (base - t) < weight then none
    else number? bias (place + base) (weight * (base - t)) n rest

theorem length_number? {bias place weight n m : Nat} {cs rest : List Char}
    (h : number? bias place weight n cs = some (m, rest)) : rest.length < cs.length := by
  induction cs generalizing place weight n with
  | nil => simp [number?] at h
  | cons c cs ih =>
    rw [number?] at h
    obtain ⟨d, _, h⟩ := Option.bind_eq_some_iff.1 h
    simp only at h
    split at h
    · simp at h
    · split at h
      · obtain ⟨_, rfl⟩ := by simpa using h
        simp
      · split at h
        · simp at h
        · exact Nat.lt_succ_of_lt (ih h)

def isCode (n : Nat) : Bool := decide (n < 0xd800) || (decide (0xdfff < n) && decide (n < 0x110000))

/-- Puts the characters in place that are written in `cs`; `code` and `position` are where the
    steps have come to. -/
def placed? (bias code position : Nat) (text cs : List Char) : Option (List Char) :=
  if cs.isEmpty then some text
  else
    match _h : number? bias base 1 position cs with
    | none => none
    | some (n, rest) =>
      let count := text.length + 1
      let next := code + n / count
      if isCode next then
        placed? (adapted (n - position) count (position == 0)) next (n % count + 1)
          (text.insertIdx (n % count) (Char.ofNat next)) rest
      else none
termination_by cs.length
decreasing_by exact length_number? _h

/-- The text that is written in small letters, digits and hyphens. -/
def decode? (written : List Char) : Option (List Char) :=
  let (plain, rest) := match Text.cutLast? '-' written with
    | some (plain, rest) => if plain.isEmpty then ([], written) else (plain, rest)
    | none => ([], written)
  if plain.any (firstCode ≤ ·.toNat) then none else placed? firstBias firstCode 0 plain rest

end TimedTrials.Domain.Punycode
