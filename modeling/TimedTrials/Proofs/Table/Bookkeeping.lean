/-
  TimedTrials/Proofs/Table/Bookkeeping.lean
  =========================================
  **A table builder keeps its blocks and its index in step.**

  Blocks that are added whole may use a number again, and building empties the builder for further
  use. What a builder holds depends on the calls since the last build only (`recent`). For these
  the index has the place of the last block with each number (`InStep`), and every call has gone
  to one block: it has opened it, or it is a push that went on with it (`TrialTable.Holds`). One
  call preserves both (`InStep.apply`, `holds_apply`), so that they hold after any calls
  (`recent_after`). `bookkeeping` puts together what this says of a builder and of the tables that
  it builds.
-/
import Mathlib.Data.List.Induction
import Mathlib.Data.List.Perm.Basic
import TimedTrials.Proofs.Sequence.Multiplicity
import TimedTrials.Proofs.Table.Grouping

namespace TimedTrials

open TrialTable (BuildCall)

/-! ### Calls -/

namespace TrialTable.BuildCall

def number : BuildCall → Int
  | .push spec _ => spec.block
  | .pushBlock block => block.number

def repeatCount : BuildCall → Nat
  | .push _ repeatCount => repeatCount
  | .pushBlock block => block.repeatCount

def trials : BuildCall → List TrialSpec
  | .push spec _ => [spec]
  | .pushBlock block => block.trials

def isPush : BuildCall → Bool
  | .push _ _ => true
  | .pushBlock _ => false

/-- The block that a call opens when it opens one. -/
def opened (call : BuildCall) : Block := ⟨call.number, call.repeatCount, call.trials⟩

end TrialTable.BuildCall

namespace TableBuilder

/-- A call of a builder: something is added, or the table is built. -/
inductive Call where
  | add (call : BuildCall)
  | build

def Call.apply (b : TableBuilder) : Call → TableBuilder
  | .add call => call.apply b
  | .build => b.build.2

def after (calls : List Call) : TableBuilder := calls.foldl Call.apply empty

def Call.recall (adds : List BuildCall) : Call → List BuildCall
  | .add call => adds ++ [call]
  | .build => []

/-- What some calls have added since the last build. -/
def recent (calls : List Call) : List BuildCall := calls.foldl Call.recall []

variable {adds : List BuildCall} {b : TableBuilder} {call : BuildCall} {spec : TrialSpec}
  {repeatCount : Nat} {number : Int} {numbers : List Int} {blocks : List Block} {i : Nat}

theorem after_concat (calls : List Call) (call : Call) :
    after (calls ++ [call]) = call.apply (after calls) := by
  rw [after, List.foldl_append]
  rfl

theorem recent_concat (calls : List Call) (call : Call) :
    recent (calls ++ [call]) = call.recall (recent calls) := by
  rw [recent, List.foldl_append]
  rfl

/-- **After a build the builder is a new one.** -/
theorem after_build (calls more : List Call) : after (calls ++ .build :: more) = after more := by
  rw [after, List.foldl_append]
  rfl

theorem recent_build (calls more : List Call) :
    recent (calls ++ .build :: more) = recent more := by
  rw [recent, List.foldl_append]
  rfl

/-- **What holds of an empty builder and is kept by adding holds after any calls**, of what has been
    added since the last build. -/
theorem recent_after {P : List BuildCall → TableBuilder → Prop} (hempty : P [] empty)
    (hadd : ∀ adds b call, P adds b → P (adds ++ [call]) (call.apply b)) (calls : List Call) :
    P (recent calls) (after calls) := by
  induction calls using List.reverseRecOn with
  | nil => exact hempty
  | append_singleton calls call ih =>
    rw [after_concat, recent_concat]
    cases call with
    | add call => exact hadd _ _ call ih
    | build => exact hempty

/-- The builder is what the calls since the last build make of an empty one. -/
theorem after_eq_foldl_recent (calls : List Call) :
    after calls = (recent calls).foldl BuildCall.apply empty := by
  refine recent_after (P := fun adds b => b = adds.foldl BuildCall.apply empty) rfl ?_ calls
  rintro adds b call rfl
  rw [List.foldl_concat]

/-- An adding call opens a block at the end, unless it is a push to a number in the index. -/
theorem apply_cases (b : TableBuilder) (call : BuildCall) :
    (∃ spec repeatCount i, call = .push spec repeatCount ∧ b.place? spec.block = some i ∧
      call.apply b = { b with blocks := b.blocks.modify i (·.append spec) }) ∨
    ((call.isPush = true → b.place? call.number = none) ∧
      call.apply b = b.pushBlock call.opened) := by
  cases call with
  | push spec repeatCount =>
    cases hplace : b.place? spec.block with
    | some i => exact .inl ⟨spec, repeatCount, i, rfl, hplace, push_of_place?_eq_some hplace⟩
    | none => exact .inr ⟨fun _ => hplace, push_of_place?_eq_none hplace⟩
  | pushBlock block => exact .inr ⟨fun hpush => absurd hpush Bool.false_ne_true, rfl⟩

/-! ### The index -/

/-- The last one of some numbers that is this one stands at a place. -/
def LastAt (numbers : List Int) (number : Int) (i : Nat) : Prop :=
  numbers[i]? = some number ∧ ∀ j, i < j → numbers[j]? ≠ some number

/-- A builder in step with what was added: its index has exactly the numbers that were, each with
    the place of the last block that has it. -/
structure InStep (adds : List BuildCall) (b : TableBuilder) : Prop where
  place : ∀ number i, b.place? number = some i ↔ LastAt b.numbers number i
  indexed : ∀ number, (b.place? number).isSome ↔ ∃ call ∈ adds, call.number = number

theorem lastAt_concat {last : Int} : LastAt (numbers ++ [last]) number i ↔
    if last = number then i = numbers.length else LastAt numbers number i := by
  simp only [LastAt, getElem?_concat_eq_some_iff, ne_eq, not_or, not_and]
  split
  · rename_i heq
    constructor
    · rintro ⟨hi | ⟨hi, -⟩, hlast⟩
      · -- the new last place would be behind it
        have hlt := (List.getElem?_eq_some_iff.mp hi).1
        exact absurd heq ((hlast _ hlt).2 rfl)
      · exact hi
    · rintro rfl
      refine ⟨.inr ⟨rfl, heq⟩, ?_⟩
      intro j hj
      have hnone : numbers[j]? = none := List.getElem?_eq_none (Nat.le_of_lt hj)
      exact ⟨by simp [hnone], fun hlast => absurd hlast (Nat.ne_of_gt hj)⟩
  · rename_i hne
    simp only [hne, and_false, or_false, not_false_eq_true, implies_true, and_true]

theorem exists_lastAt (h : number ∈ numbers) : ∃ i, LastAt numbers number i := by
  induction numbers using List.reverseRecOn with
  | nil => cases h
  | append_singleton numbers last ih =>
    by_cases heq : last = number
    · exact ⟨_, lastAt_concat.mpr (by rw [if_pos heq])⟩
    · have hold : number ∈ numbers := (List.mem_append.mp h).resolve_right fun hlast =>
        heq (List.mem_singleton.mp hlast).symm
      obtain ⟨i, hi⟩ := ih hold
      exact ⟨i, lastAt_concat.mpr (by rwa [if_neg heq])⟩

theorem numbers_pushBlock (b : TableBuilder) (block : Block) :
    (b.pushBlock block).numbers = b.numbers ++ [block.number] := by
  rw [numbers, pushBlock, List.map_append, List.map_singleton, ← numbers]

theorem place?_pushBlock (b : TableBuilder) (block : Block) (number : Int) :
    (b.pushBlock block).place? number =
      if block.number = number then some b.numbers.length else b.place? number := by
  rw [place?, pushBlock, List.lookup_cons, numbers, List.length_map]
  by_cases heq : block.number = number
  · rw [if_pos heq, beq_iff_eq.mpr heq.symm]
  · rw [if_neg heq, beq_false_of_ne (Ne.symm heq)]
    rfl

theorem exists_mem_concat_number : (∃ c ∈ adds ++ [call], c.number = number) ↔
    (∃ c ∈ adds, c.number = number) ∨ call.number = number := by
  simp only [List.mem_append, List.mem_singleton, or_and_right, exists_or, exists_eq_left]

theorem inStep_empty : InStep [] empty where
  place number i := by simp [place?, empty, LastAt, numbers]
  indexed number := by simp [place?, empty]

/-- **One call keeps the index in step.** A block at the end hides the older ones with its number;
    a push to a block changes no number. -/
theorem InStep.apply (h : InStep adds b) (call : BuildCall) :
    InStep (adds ++ [call]) (call.apply b) := by
  obtain ⟨spec, repeatCount, i, rfl, hplace, happly⟩ | ⟨-, happly⟩ := apply_cases b call
  · rw [happly]
    constructor
    · intro number j
      rw [numbers, numbers_modify]
      exact h.place number j
    · intro number
      -- the number of a push to a block is in the index already
      have hknown : spec.block = number → ∃ call ∈ adds, call.number = number := by
        rintro rfl
        exact (h.indexed spec.block).mp (hplace ▸ rfl)
      rw [exists_mem_concat_number]
      exact (h.indexed number).trans (or_iff_left_of_imp hknown).symm
  · rw [happly]
    constructor
    · intro number i
      rw [numbers_pushBlock, lastAt_concat, place?_pushBlock, BuildCall.opened]
      split
      · rw [Option.some.injEq, eq_comm]
      · exact h.place number i
    · intro number
      rw [exists_mem_concat_number, place?_pushBlock, BuildCall.opened]
      split
      · rename_i heq
        exact iff_of_true rfl (.inr heq)
      · rename_i hne
        rw [h.indexed, or_iff_left hne]

theorem inStep_after (calls : List Call) : InStep (recent calls) (after calls) :=
  recent_after inStep_empty (fun _ _ call h => h.apply call) calls

/-! ### One push -/

/-- What a push makes of the blocks: the last block with its number has one more trial at its end
    and all else stays, or there is no such block and one with the given repeat count is new at
    the end. -/
def Pushed (spec : TrialSpec) (repeatCount : Nat) (blocks blocks' : List Block) : Prop :=
  (∃ front block back, blocks = front ++ block :: back ∧ block.number = spec.block ∧
    (∀ later ∈ back, later.number ≠ spec.block) ∧
    blocks' = front ++ { block with trials := block.trials ++ [spec] } :: back) ∨
  ((∀ block ∈ blocks, block.number ≠ spec.block) ∧
    blocks' = blocks ++ [⟨spec.block, repeatCount, [spec]⟩])

/-- The last block with a number, between the blocks before and behind it. -/
theorem LastAt.exists_block (h : LastAt (blocks.map (·.number)) number i) :
    ∃ hi : i < blocks.length, blocks = blocks.take i ++ blocks[i] :: blocks.drop (i + 1) ∧
      blocks[i].number = number ∧ ∀ later ∈ blocks.drop (i + 1), later.number ≠ number := by
  obtain ⟨hi, hnumber⟩ := List.getElem?_eq_some_iff.mp h.1
  rw [List.length_map] at hi
  rw [List.getElem_map] at hnumber
  refine ⟨hi, ?_, hnumber, ?_⟩
  · rw [← List.drop_eq_getElem_cons hi, List.take_append_drop]
  · intro later hlater heq
    obtain ⟨k, hk⟩ := List.mem_iff_getElem?.mp hlater
    rw [List.getElem?_drop] at hk
    refine h.2 (i + 1 + k) (by omega) ?_
    rw [List.getElem?_map, hk, Option.map_some, heq]

/-- **A push changes the last block with its number only**, or opens one. -/
theorem InStep.pushed (h : InStep adds b) (spec : TrialSpec) (repeatCount : Nat) :
    Pushed spec repeatCount b.blocks (b.push spec repeatCount).blocks := by
  cases hplace : b.place? spec.block with
  | some i =>
    obtain ⟨hi, hparts, hnumber, hlater⟩ := ((h.place spec.block i).mp hplace).exists_block
    refine .inl ⟨_, _, _, hparts, hnumber, hlater, ?_⟩
    rw [push_of_place?_eq_some hplace]
    exact List.modify_eq_take_cons_drop hi
  | none =>
    refine .inr ⟨?_, ?_⟩
    · intro block hblock heq
      have hmem : spec.block ∈ b.numbers := heq ▸ List.mem_map_of_mem hblock
      obtain ⟨i, hi⟩ := exists_lastAt hmem
      rw [← h.place, hplace] at hi
      cases hi
    · rw [push_of_place?_eq_none hplace]
      rfl

/-! ### What became of the calls -/

def callsAt (entries : List (BuildCall × Nat)) (i : Nat) : List BuildCall :=
  (entries.filter (·.2 == i)).map (·.1)

end TableBuilder

/-- A block made by calls with its number: the first one opened it and set its repeat count, the
    others are pushes, and its trials are theirs in the order of the calls. -/
structure Block.MadeBy (opener : BuildCall) (more : List BuildCall) (block : Block) : Prop where
  number : ∀ call ∈ opener :: more, call.number = block.number
  repeatCount : opener.repeatCount = block.repeatCount
  pushes : ∀ call ∈ more, call.isPush = true
  trials : block.trials = (opener :: more).flatMap (·.trials)

/-- Calls, each with the place of the one block it went to, and blocks made by the calls that went
    to their places. -/
structure TableBuilder.Placed (entries : List (BuildCall × Nat)) (blocks : List Block) : Prop where
  inside : ∀ entry ∈ entries, entry.2 < blocks.length
  made : ∀ i block, blocks[i]? = some block →
    ∃ opener more, callsAt entries i = opener :: more ∧ block.MadeBy opener more

/-- A table that holds what calls have added: every call went to one block, and its trials are all
    that were added, each as often as it was. -/
structure TrialTable.Holds (adds : List BuildCall) (t : TrialTable) : Prop where
  placed : ∃ entries, entries.map (·.1) = adds ∧ TableBuilder.Placed entries t.blocks
  specs : t.specs.Perm (adds.flatMap (·.trials))

theorem Block.madeBy_opened (call : BuildCall) : call.opened.MadeBy call [] where
  number other hother := by rw [List.mem_singleton.mp hother]; rfl
  repeatCount := rfl
  pushes _ hother := absurd hother List.not_mem_nil
  trials := by rw [List.flatMap_singleton]; rfl

theorem Block.MadeBy.append {opener : BuildCall} {more : List BuildCall} {block : Block}
    {spec : TrialSpec} (h : block.MadeBy opener more) (hspec : spec.block = block.number)
    (repeatCount : Nat) :
    (block.append spec).MadeBy opener (more ++ [.push spec repeatCount]) where
  number := by
    rw [← List.cons_append, List.forall_mem_append, List.forall_mem_singleton]
    exact ⟨h.number, hspec⟩
  repeatCount := h.repeatCount
  pushes := by
    rw [List.forall_mem_append, List.forall_mem_singleton]
    exact ⟨h.pushes, rfl⟩
  trials := by
    rw [← List.cons_append, List.flatMap_append, ← h.trials]
    rfl

namespace TableBuilder

variable {adds : List BuildCall} {b : TableBuilder} {call : BuildCall} {spec : TrialSpec}
  {repeatCount : Nat} {blocks blocks' : List Block} {i : Nat} {entries : List (BuildCall × Nat)}

theorem callsAt_concat (entries : List (BuildCall × Nat)) (call : BuildCall) (j i : Nat) :
    callsAt (entries ++ [(call, j)]) i =
      if j = i then callsAt entries i ++ [call] else callsAt entries i := by
  by_cases heq : j = i <;> simp [callsAt, heq]

theorem placed_nil : Placed [] [] where
  inside _ hentry := absurd hentry List.not_mem_nil
  made i block hblock := by cases hblock

/-- A block that is opened is made by the one call. -/
theorem Placed.opened (h : Placed entries blocks) (call : BuildCall) :
    Placed (entries ++ [(call, blocks.length)]) (blocks ++ [call.opened]) where
  inside := by
    rw [List.forall_mem_append, List.forall_mem_singleton, List.length_append]
    exact ⟨fun entry hentry => Nat.lt_succ_of_lt (h.inside entry hentry), Nat.lt_succ_self _⟩
  made i block hblock := by
    rw [callsAt_concat]
    rcases getElem?_concat_eq_some_iff.mp hblock with hold | ⟨rfl, rfl⟩
    · have hi := (List.getElem?_eq_some_iff.mp hold).1
      rw [if_neg (Nat.ne_of_gt hi)]
      exact h.made i block hold
    · -- no call so far went behind the last block
      have hnone : callsAt entries blocks.length = [] := by
        rw [callsAt, List.map_eq_nil_iff, List.filter_eq_nil_iff]
        intro entry hentry
        simpa using Nat.ne_of_lt (h.inside entry hentry)
      rw [if_pos rfl, hnone]
      exact ⟨call, [], rfl, Block.madeBy_opened call⟩

/-- A push goes on with the block at its place. -/
theorem Placed.pushed (h : Placed entries blocks) {block : Block} (hblock : blocks[i]? = some block)
    (hspec : spec.block = block.number) (repeatCount : Nat) :
    Placed (entries ++ [(.push spec repeatCount, i)]) (blocks.modify i (·.append spec)) where
  inside := by
    rw [List.forall_mem_append, List.forall_mem_singleton, List.length_modify]
    exact ⟨h.inside, (List.getElem?_eq_some_iff.mp hblock).1⟩
  made j changed hchanged := by
    rw [List.getElem?_modify] at hchanged
    obtain ⟨old, hold, rfl⟩ := Option.map_eq_some_iff.mp hchanged
    obtain ⟨opener, more, hcalls, hmade⟩ := h.made j old hold
    rw [callsAt_concat]
    by_cases heq : i = j
    · subst heq
      obtain rfl := Option.some.inj (hblock.symm.trans hold)
      rw [if_pos rfl, if_pos rfl, hcalls]
      exact ⟨opener, _, List.cons_append .., hmade.append hspec repeatCount⟩
    · rw [if_neg heq, if_neg heq]
      exact ⟨opener, more, hcalls, hmade⟩

theorem Pushed.perm (h : Pushed spec repeatCount blocks blocks') :
    (blocks'.flatMap (·.trials)).Perm (blocks.flatMap (·.trials) ++ [spec]) := by
  obtain ⟨front, block, back, rfl, -, -, rfl⟩ | ⟨-, rfl⟩ := h
  · simp only [List.flatMap_append, List.flatMap_cons, List.append_assoc]
    exact .append_left _ (.append_left _ List.perm_append_comm)
  · rw [List.flatMap_append, List.flatMap_singleton]

theorem holds_empty : empty.build.1.Holds [] := ⟨⟨[], rfl, placed_nil⟩, .nil⟩

/-- **One call goes to one block**, and brings its trials to the table. -/
theorem holds_apply (h : b.build.1.Holds adds) (hstep : InStep adds b) (call : BuildCall) :
    (call.apply b).build.1.Holds (adds ++ [call]) := by
  obtain ⟨⟨entries, hentries, hplaced⟩, hspecs⟩ := h
  have hmap (i : Nat) : (entries ++ [(call, i)]).map (·.1) = adds ++ [call] := by
    rw [List.map_append, hentries]
    rfl
  have hbring : (b.build.1.specs ++ call.trials).Perm ((adds ++ [call]).flatMap (·.trials)) := by
    rw [List.flatMap_append, List.flatMap_singleton]
    exact hspecs.append_right _
  obtain ⟨spec, repeatCount, i, rfl, hplace, happly⟩ | ⟨-, happly⟩ := apply_cases b call
  · obtain ⟨hi, -, hnumber, -⟩ := ((hstep.place spec.block i).mp hplace).exists_block
    refine ⟨⟨_, hmap i, ?_⟩, (hstep.pushed spec repeatCount).perm.trans hbring⟩
    rw [happly]
    exact hplaced.pushed (List.getElem?_eq_getElem hi) hnumber.symm repeatCount
  · refine ⟨⟨_, hmap b.blocks.length, ?_⟩, ?_⟩
    · rw [happly]
      exact hplaced.opened call
    · have hspecs' : (call.apply b).build.1.specs = b.build.1.specs ++ call.trials := by
        rw [happly, TrialTable.specs, build, pushBlock, List.flatMap_append,
          List.flatMap_singleton]
        rfl
      rw [hspecs']
      exact hbring

theorem holds_after (calls : List Call) : (after calls).build.1.Holds (recent calls) := by
  refine (recent_after (P := fun adds b => InStep adds b ∧ b.build.1.Holds adds)
    ⟨inStep_empty, holds_empty⟩ ?_ calls).2
  rintro adds b call ⟨hstep, hholds⟩
  exact ⟨hstep.apply call, holds_apply hholds hstep call⟩

/-! ### Pushes alone -/

theorem exists_entries_of_pushes (h : ∀ call ∈ adds, call.isPush = true) :
    ∃ entries : List TableEntry, adds = entries.map fun entry => .push entry.1 entry.2 := by
  induction adds with
  | nil => exact ⟨[], rfl⟩
  | cons call adds ih =>
    rw [List.forall_mem_cons] at h
    obtain ⟨entries, rfl⟩ := ih h.2
    cases call with
    | push spec repeatCount => exact ⟨(spec, repeatCount) :: entries, rfl⟩
    | pushBlock block => exact absurd h.1 Bool.false_ne_true

/-- **With pushes alone**, no number is used twice and the blocks stand in the order in which their
    numbers first came up. -/
theorem numbers_of_pushes (calls : List Call) (h : ∀ call ∈ recent calls, call.isPush = true) :
    (after calls).numbers.Nodup ∧
      (after calls).numbers = ((recent calls).map (·.number)).eraseDups := by
  obtain ⟨entries, hentries⟩ := exists_entries_of_pushes h
  have hafter : after calls = entries.foldl (fun b entry => b.push entry.1 entry.2) empty := by
    rw [after_eq_foldl_recent, hentries, List.foldl_map]
    rfl
  rw [hafter, hentries, List.map_map, numbers_foldl_push]
  have hgrouped := grouped_empty.foldl_push entries
  rw [List.nil_append] at hgrouped
  exact ⟨numbers_foldl_push entries ▸ hgrouped.nodup, rfl⟩

/-! ### After any calls -/

/-- **The bookkeeping of a table builder**, after any calls in any order. Its index has exactly the
    numbers added since the last build, each with the place of the last block that has it. A push
    adds to this block and leaves everything else, or it opens a block at the end. The table that
    is built holds what was added since the last build, each call in one block and in the order of
    the calls there; and what comes behind the build is done as by a new builder. If only trials
    were pushed, the table uses no number twice and has the numbers in the order in which they
    first came up. -/
theorem bookkeeping (calls : List Call) :
    InStep (recent calls) (after calls) ∧
      (∀ spec repeatCount, Pushed spec repeatCount (after calls).blocks
        ((after calls).push spec repeatCount).blocks) ∧
      (after calls).build.1.Holds (recent calls) ∧
      (∀ more, after (calls ++ .build :: more) = after more ∧
        recent (calls ++ .build :: more) = recent more) ∧
      ((∀ call ∈ recent calls, call.isPush = true) →
        ((after calls).build.1.blocks.map (·.number)).Nodup ∧
          (after calls).build.1.blocks.map (·.number) =
            ((recent calls).map (·.number)).eraseDups) := by
  have hstep := inStep_after calls
  refine ⟨hstep, hstep.pushed, holds_after calls, ?_, numbers_of_pushes calls⟩
  intro more
  exact ⟨after_build calls more, recent_build calls more⟩

/-- A builder that is used again after a block has been added whole under a number in use. -/
def reused : List Call :=
  [.add (.push (.timed 1 5 "a" 100) 2), .add (.pushBlock ⟨5, 7, []⟩),
    .add (.push (.timed 2 5 "b" 100) 9), .build, .add (.push (.timed 3 7 "c" 100) 1),
    .add (.push (.timed 4 3 "d" 100) 4), .add (.push (.timed 5 7 "e" 100) 6)]

theorem bookkeeping_reused : (∀ call ∈ recent reused, call.isPush = true) ∧
    InStep (recent reused) (after reused) ∧
    ((after reused).build.1.blocks.map (·.number)).Nodup ∧
    (after reused).build.1.blocks.map (·.number) = [7, 3] := by
  have hpushes : ∀ call ∈ recent reused, call.isPush = true := by decide
  obtain ⟨hstep, -, -, -, halone⟩ := bookkeeping reused
  exact ⟨hpushes, hstep, halone hpushes⟩

/-- The block that was added whole hides the older one with its number. -/
example : (after (reused.take 3)).place? 5 = some 1 ∧ (after (reused.take 3)).build.1.blocks =
    [⟨5, 2, [.timed 1 5 "a" 100]⟩, ⟨5, 7, [.timed 2 5 "b" 100]⟩] := by decide

end TableBuilder

end TimedTrials
