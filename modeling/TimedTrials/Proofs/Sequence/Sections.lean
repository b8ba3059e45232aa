/-
  TimedTrials/Proofs/Sequence/Sections.lean
  =========================================
  **What the walk over the blocks knows about sections.**

  `Walked blocks sections` ties the table of sections to the blocks walked so far: a section has
  the blocks of its number in authored order, its leader is the lowest block number among them,
  and its repeat count is that of the block with this number. One block more preserves it
  (`Walked.enter`), so that it holds of the sections of every table (`walked_sections`).
-/
import Mathlib.Data.List.Basic
import TimedTrials.Sequence

namespace TimedTrials.TrialTable

/-- The blocks of a section in authored order. -/
def members (blocks : List Block) (sectionId : Int) : List Block :=
  blocks.filter (·.kind == .sectioned sectionId)

/-- A section made of its blocks: the lowest number leads and supplies the repeat count. -/
structure Section.Gathers (members : List Block) (s : Section) : Prop where
  blocks : s.blocks = members
  least : ∀ b ∈ members, s.leader ≤ b.number
  repeatCount : (members.find? (·.number == s.leader)).map (·.repeatCount) = some s.repeatCount

/-- The sections of exactly these blocks. -/
structure Walked (blocks : List Block) (sections : List (Int × Section)) : Prop where
  absent : ∀ sectionId, sections.lookup sectionId = none → members blocks sectionId = []
  gathers : ∀ sectionId s, sections.lookup sectionId = some s →
    s.Gathers (members blocks sectionId)

/-! ### One block -/

theorem Section.gathers_opened (b : Block) : Section.Gathers [b] ((Section.opened b).add b) := by
  have hadd : (Section.opened b).add b = ⟨b.number, b.repeatCount, [b]⟩ := by
    simp [Section.opened, Section.add]
  rw [hadd]
  refine ⟨rfl, ?_, ?_⟩
  · intro c hc
    obtain rfl := List.mem_singleton.mp hc
    exact Int.le_refl _
  · simp

theorem Section.Gathers.add {blocks : List Block} {s : Section} (h : s.Gathers blocks)
    (b : Block) : (s.add b).Gathers (blocks ++ [b]) := by
  unfold Section.add
  split
  · rename_i hlt
    -- A lower number than all before takes the lead, so no block before has it.
    have hnone : blocks.find? (·.number == b.number) = none := by
      rw [List.find?_eq_none]
      intro c hc heq
      have hle := h.least c hc
      have := eq_of_beq heq
      omega
    refine ⟨by rw [h.blocks], ?_, ?_⟩
    · intro c hc
      rcases List.mem_append.mp hc with hc | hc
      · exact Int.le_trans (Int.le_of_lt hlt) (h.least c hc)
      · obtain rfl := List.mem_singleton.mp hc
        exact Int.le_refl _
    · simp [List.find?_append, hnone]
  · rename_i hge
    refine ⟨by rw [h.blocks], ?_, ?_⟩
    · intro c hc
      rcases List.mem_append.mp hc with hc | hc
      · exact h.least c hc
      · rw [List.mem_singleton.mp hc]
        exact Int.not_lt.mp hge
    · obtain ⟨leader, hfind, hleader⟩ := Option.map_eq_some_iff.mp h.repeatCount
      rw [List.find?_append, hfind, Option.some_or, Option.map_some, hleader]

theorem members_append_of_eq {b : Block} {sectionId : Int} (h : b.kind = .sectioned sectionId)
    (blocks : List Block) : members (blocks ++ [b]) sectionId = members blocks sectionId ++ [b] := by
  simp [members, h]

theorem members_append_of_ne {b : Block} {sectionId : Int} (h : b.kind ≠ .sectioned sectionId)
    (blocks : List Block) : members (blocks ++ [b]) sectionId = members blocks sectionId := by
  simp [members, h]

/-- A block of a section completes what was known of the section, if anything was. -/
theorem Walked.gathers_add {blocks : List Block} {sections : List (Int × Section)}
    (h : Walked blocks sections) (b : Block) (sectionId : Int) :
    (((sections.lookup sectionId).getD (.opened b)).add b).Gathers
      (members blocks sectionId ++ [b]) := by
  cases hlookup : sections.lookup sectionId with
  | none =>
    rw [h.absent sectionId hlookup]
    exact Section.gathers_opened b
  | some s => exact (h.gathers sectionId s hlookup).add b

theorem Walked.enter {blocks : List Block} {sections : List (Int × Section)}
    (h : Walked blocks sections) (b : Block) :
    Walked (blocks ++ [b]) (TrialTable.enter sections b) := by
  cases hkind : b.kind with
  | fixed =>
    have hmembers : ∀ sectionId, members (blocks ++ [b]) sectionId = members blocks sectionId :=
      fun sectionId => members_append_of_ne (by simp [hkind]) blocks
    simp only [TrialTable.enter, hkind]
    exact ⟨fun sectionId => hmembers sectionId ▸ h.absent sectionId,
      fun sectionId => hmembers sectionId ▸ h.gathers sectionId⟩
  | sectioned own =>
    simp only [TrialTable.enter, hkind]
    have hother : ∀ {sectionId}, sectionId ≠ own →
        members (blocks ++ [b]) sectionId = members blocks sectionId :=
      fun hne => members_append_of_ne (by simpa [hkind] using Ne.symm hne) blocks
    refine ⟨?_, ?_⟩
    · intro sectionId hlookup
      by_cases heq : sectionId = own
      · subst heq
        rw [List.lookup_cons_self] at hlookup
        cases hlookup
      · rw [List.lookup_cons, beq_false_of_ne heq] at hlookup
        rw [hother heq]
        exact h.absent sectionId hlookup
    · intro sectionId s hlookup
      by_cases heq : sectionId = own
      · subst heq
        rw [List.lookup_cons_self, Option.some.injEq] at hlookup
        rw [members_append_of_eq hkind, ← hlookup]
        exact h.gathers_add b sectionId
      · rw [List.lookup_cons, beq_false_of_ne heq] at hlookup
        rw [hother heq]
        exact h.gathers sectionId s hlookup

/-! ### All blocks -/

theorem Walked.foldl_enter {blocks : List Block} {sections : List (Int × Section)}
    (h : Walked blocks sections) (rest : List Block) :
    Walked (blocks ++ rest) (rest.foldl TrialTable.enter sections) := by
  induction rest generalizing blocks sections with
  | nil => exact (List.append_nil blocks).symm ▸ h
  | cons b rest ih => exact List.append_cons blocks b rest ▸ ih (h.enter b)

theorem walked_sections (t : TrialTable) : Walked t.blocks t.sections := by
  have hstart : Walked [] [] :=
    ⟨fun _ _ => rfl, fun _ _ h => nomatch h⟩
  exact hstart.foldl_enter t.blocks

end TimedTrials.TrialTable
