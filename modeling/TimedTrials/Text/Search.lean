/-
  TimedTrials/Text/Search.lean
  ============================
  **Finding, cutting and replacing a piece of text.**

  `cut?` splits a text at the first place where a pattern stands, `cutLast?` at the last
  place of one character, `replaceAll` replaces every occurrence from left to right, without
  looking at what it inserted. The lemmas say that a cut loses nothing.
-/
namespace TimedTrials.Text

/-! ### Patterns at the head of a text -/

/-- What follows `pat` in a text that begins with it. -/
@[grind =] def dropHead? : List Char → List Char → Option (List Char)
  | [], cs => some cs
  | _ :: _, [] => none
  | p :: ps, c :: cs => if p = c then dropHead? ps cs else none

theorem eq_append_of_dropHead? {pat cs rest : List Char} (h : dropHead? pat cs = some rest) :
    cs = pat ++ rest := by
  induction pat generalizing cs with
  | nil => simpa [dropHead?] using h
  | cons p ps ih =>
    cases cs with
    | nil => simp [dropHead?] at h
    | cons c cs =>
      by_cases hp : p = c
      · simp only [dropHead?, hp, if_true] at h
        simp [hp, ih h]
      · simp [dropHead?, hp] at h

@[simp] theorem dropHead?_append (pat rest : List Char) :
    dropHead? pat (pat ++ rest) = some rest := by
  induction pat with
  | nil => rfl
  | cons p ps ih => simp [dropHead?, ih]

/-! ### Cutting -/

/-- The text before and the text after the first occurrence of `pat`. -/
@[grind =] def cut? (pat : List Char) : List Char → Option (List Char × List Char)
  | [] => if pat.isEmpty then some ([], []) else none
  | c :: cs =>
    match dropHead? pat (c :: cs) with
    | some rest => some ([], rest)
    | none => (cut? pat cs).map fun p => (c :: p.1, p.2)

theorem eq_append_of_cut? {pat cs before after : List Char}
    (h : cut? pat cs = some (before, after)) : cs = before ++ pat ++ after := by
  induction cs generalizing before with
  | nil =>
    cases pat with
    | nil => simp_all [cut?]
    | cons p ps => simp [cut?] at h
  | cons c cs ih =>
    rw [cut?] at h
    split at h
    · rename_i rest hr
      obtain ⟨rfl, rfl⟩ := by simpa using h
      simpa using eq_append_of_dropHead? hr
    · obtain ⟨⟨b, a⟩, hb, hp⟩ := Option.map_eq_some_iff.1 h
      obtain ⟨rfl, rfl⟩ := by simpa using hp
      simp [ih hb]

/-- The text before and the text after the first character that satisfies `p`, with that
    character. -/
def cutAt? (p : Char → Bool) (cs : List Char) : Option (List Char × Char × List Char) :=
  match cs.dropWhile (fun c => !p c) with
  | [] => none
  | c :: rest => some (cs.takeWhile (fun c => !p c), c, rest)

def cutLast? (x : Char) (cs : List Char) : Option (List Char × List Char) :=
  (cutAt? (· == x) cs.reverse).map fun (after, _, before) => (before.reverse, after.reverse)

def contains (pat cs : List Char) : Bool := (cut? pat cs).isSome

/-! ### Replacing -/

def replaceFirst (pat new cs : List Char) : List Char :=
  match cut? pat cs with
  | some (before, after) => before ++ new ++ after
  | none => cs

/-- Replaces every occurrence of `pat` after the first `skip` characters, which are dropped:
    they are the rest of an occurrence that has been replaced already. -/
@[grind =] def replaceFrom (pat new : List Char) : Nat → List Char → List Char
  | _, [] => []
  | skip + 1, _ :: cs => replaceFrom pat new skip cs
  | 0, c :: cs =>
    match dropHead? pat (c :: cs) with
    | some _ => new ++ replaceFrom pat new (pat.length - 1) cs
    | none => c :: replaceFrom pat new 0 cs

/-- Replaces every occurrence of a non-empty pattern, from left to right; inserted text is not
    looked at again. -/
def replaceAll (pat new cs : List Char) : List Char := replaceFrom pat new 0 cs

def replaceText (pat new s : String) : String :=
  String.ofList (replaceAll pat.toList new.toList s.toList)

end TimedTrials.Text
