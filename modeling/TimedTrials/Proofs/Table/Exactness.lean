/-
  TimedTrials/Proofs/Table/Exactness.lean
  =======================================
  **Validation accepts just what it should, and reports just what is wrong.**

  Whether a row opens its block can be said of the rows alone, without the state of the check
  (`opensBlock`). With that, what is known after some rows is a plain function of them: the
  problems are those of the rows one after the other (`stateAfter_problems`), and the blocks are
  built from the rows that pass (`stateAfter_builder`). `validate_exact` reads the verdict, the
  report and the table off these.
-/
import Mathlib.Data.List.Induction
import TimedTrials.Proofs.Table.Faults
import TimedTrials.Proofs.Table.Validation

namespace TimedTrials.Validation

/-! ### The first row of a block -/

/-- Whether a row opens its block after the rows before it: none of them has its number. -/
def opensBlock (before : List AuthoredRow) (raw : AuthoredRow) : Bool :=
  raw.block?.any fun number =>
    before.all fun other => other.isBlank || other.block? != some number

/-- Whether a numbered row opens its block among all the rows. -/
def opens (rows : List AuthoredRow) (p : NumberedRow) : Bool :=
  opensBlock (rows.take (p.1 - 1)) p.2

/-- The problems of one of the rows. -/
def problemsIn (options : ValidationOptions) (rows : List AuthoredRow) (p : NumberedRow) :
    List Problem :=
  p.2.problems options (opens rows p) p.1

/-- What one of the rows is pushed as, when it has no problem. -/
def pushed? (options : ValidationOptions) (rows : List AuthoredRow) (p : NumberedRow) :
    Option TableEntry :=
  (p.2.check options (opens rows p) p.1).toOption

/-- What is known after all rows. -/
def stateAfter (options : ValidationOptions) (rows : List AuthoredRow) : State :=
  (authored rows).foldl (fun s p => s.take options p.1 p.2) State.start

variable {options : ValidationOptions} {rows : List AuthoredRow} {raw : AuthoredRow} {s : State}

/-! ### One row more -/

theorem authored_append_singleton (rows : List AuthoredRow) (raw : AuthoredRow) :
    authored (rows ++ [raw]) =
      authored rows ++ if raw.isBlank then [] else [(rows.length + 1, raw)] := by
  unfold authored
  rw [List.mapIdx_append, List.filter_append]
  cases hblank : raw.isBlank with
  | true => simp [hblank]
  | false => simp [hblank]

/-- A row further down does not matter to the rows before it. -/
theorem opens_append_singleton {p : NumberedRow} (hp : p ∈ authored rows) :
    opens (rows ++ [raw]) p = opens rows p := by
  obtain ⟨i, hrow, hraw, _⟩ := mem_authored_iff.mp hp
  have hi : i < rows.length := (List.getElem?_eq_some_iff.mp hraw).1
  rw [opens, opens, List.take_append_of_le_length (by omega)]

theorem opens_last (rows : List AuthoredRow) (raw : AuthoredRow) :
    opens (rows ++ [raw]) (rows.length + 1, raw) = opensBlock rows raw := by
  simp [opens]

/-- The state of the check knows which row opens its block. -/
theorem isFirst_stateAfter : (stateAfter options rows).isFirst raw = opensBlock rows raw := by
  have hstart : Taken options [] State.start := taken_start
  have hseen : ∀ number, number ∈ (stateAfter options rows).seen ↔
      ∃ p ∈ authored rows, p.2.block? = some number :=
    (hstart.foldl_take (authored rows)).seen
  cases hblock : raw.block? with
  | none => simp only [State.isFirst, opensBlock, hblock, Option.any_none]
  | some number =>
    rw [Bool.eq_iff_iff, isFirst_of_block? hblock, hseen]
    simp only [opensBlock, hblock, Option.any_some, List.all_eq_true, Bool.or_eq_true,
      bne_iff_ne, ne_eq, not_exists, not_and]
    constructor
    · intro hnone other hother
      obtain ⟨i, hi, rfl⟩ := List.getElem_of_mem hother
      by_cases hblank : rows[i].isBlank = true
      · exact Or.inl hblank
      · right
        have hmem : (i + 1, rows[i]) ∈ authored rows :=
          mem_authored_iff.mpr ⟨i, rfl, List.getElem?_eq_getElem hi, by simpa using hblank⟩
        exact hnone (i + 1, rows[i]) hmem
    · intro hall p hp
      obtain ⟨i, _, hraw, hblank⟩ := mem_authored_iff.mp hp
      rcases hall p.2 (List.mem_of_getElem? hraw) with hother | hne
      · rw [hblank] at hother
        cases hother
      · exact hne

theorem take_problems (s : State) (row : Nat) (raw : AuthoredRow) :
    (s.take options row raw).problems =
      s.problems ++ raw.problems options (s.isFirst raw) row := by
  simp only [State.take, AuthoredRow.problems]
  cases raw.check options (s.isFirst raw) row with
  | ok pair => rw [List.append_nil]
  | error problems => rfl

theorem take_builder (s : State) (row : Nat) (raw : AuthoredRow) :
    (s.take options row raw).builder =
      (raw.check options (s.isFirst raw) row).toOption.toList.foldl
        (fun b entry => b.push entry.1 entry.2) s.builder := by
  simp only [State.take]
  cases raw.check options (s.isFirst raw) row with
  | ok pair => rfl
  | error problems => rfl

theorem stateAfter_append_singleton (rows : List AuthoredRow) (raw : AuthoredRow) :
    stateAfter options (rows ++ [raw]) =
      if raw.isBlank then stateAfter options rows
      else (stateAfter options rows).take options (rows.length + 1) raw := by
  unfold stateAfter
  rw [authored_append_singleton, List.foldl_append]
  cases raw.isBlank with
  | true => simp only [if_true, List.foldl_nil]
  | false => simp only [Bool.false_eq_true, if_false, List.foldl_cons, List.foldl_nil]

/-! ### All rows -/

/-- **The problems are those of the rows that carry a trial, one row after the other.** -/
theorem stateAfter_problems (options : ValidationOptions) (rows : List AuthoredRow) :
    (stateAfter options rows).problems = (authored rows).flatMap (problemsIn options rows) := by
  -- from the end, since a row is judged by the rows before it
  induction rows using List.reverseRecOn with
  | nil => rfl
  | append_singleton rows raw ih =>
    have hsame : (authored rows).flatMap (problemsIn options (rows ++ [raw])) =
        (authored rows).flatMap (problemsIn options rows) := by
      apply List.flatMap_congr
      intro p hp
      rw [problemsIn, problemsIn, opens_append_singleton hp]
    rw [stateAfter_append_singleton, authored_append_singleton, List.flatMap_append, hsame, ← ih]
    cases raw.isBlank with
    | true => simp
    | false => simp [take_problems, isFirst_stateAfter, problemsIn, opens_last]

/-- The blocks are built from the rows that pass their check. -/
theorem stateAfter_builder (options : ValidationOptions) (rows : List AuthoredRow) :
    (stateAfter options rows).builder =
      ((authored rows).filterMap (pushed? options rows)).foldl
        (fun b entry => b.push entry.1 entry.2) TableBuilder.empty := by
  induction rows using List.reverseRecOn with
  | nil => rfl
  | append_singleton rows raw ih =>
    have hsame : (authored rows).filterMap (pushed? options (rows ++ [raw])) =
        (authored rows).filterMap (pushed? options rows) := by
      apply List.filterMap_congr
      intro p hp
      rw [pushed?, pushed?, opens_append_singleton hp]
    rw [stateAfter_append_singleton, authored_append_singleton, List.filterMap_append, hsame,
      List.foldl_append, ← ih]
    cases raw.isBlank with
    | true => simp
    | false =>
      simp only [Bool.false_eq_true, if_false, take_builder, isFirst_stateAfter,
        List.filterMap_cons, List.filterMap_nil, pushed?, opens_last]
      cases raw.check options (opensBlock rows raw) (rows.length + 1) <;> rfl

/-! ### The verdict -/

/-- Either nothing is authored, or the verdict depends on whether there are problems. -/
theorem validate_cases (options : ValidationOptions) (rows : List AuthoredRow) :
    (authored rows = [] ∧ validate options rows = .error [.noTrials]) ∨
      (authored rows ≠ [] ∧ (stateAfter options rows).problems = [] ∧
        validate options rows = .ok (stateAfter options rows).builder.build.1) ∨
      (authored rows ≠ [] ∧ (stateAfter options rows).problems ≠ [] ∧
        validate options rows = .error (stateAfter options rows).problems) := by
  have hvalidate : validate options rows =
      if (authored rows).isEmpty then .error [.noTrials]
      else if (stateAfter options rows).problems.isEmpty then
        .ok (stateAfter options rows).builder.build.1
      else .error (stateAfter options rows).problems := rfl
  rw [hvalidate]
  by_cases hauthored : authored rows = []
  · left
    exact ⟨hauthored, if_pos (List.isEmpty_iff.mpr hauthored)⟩
  · right
    rw [if_neg (mt List.isEmpty_iff.mp hauthored)]
    by_cases hproblems : (stateAfter options rows).problems = []
    · left
      exact ⟨hauthored, hproblems, if_pos (List.isEmpty_iff.mpr hproblems)⟩
    · right
      exact ⟨hauthored, hproblems, if_neg (mt List.isEmpty_iff.mp hproblems)⟩

/-- Every row that carries a trial is sound. -/
def AllSound (options : ValidationOptions) (rows : List AuthoredRow) : Prop :=
  ∀ (i : Nat) (raw : AuthoredRow), rows[i]? = some raw → raw.isBlank = false →
    raw.Sound options (opensBlock (rows.take i) raw)

theorem allSound_iff : AllSound options rows ↔
    ∀ p ∈ authored rows, p.2.Sound options (opens rows p) := by
  constructor
  · intro h p hp
    obtain ⟨i, hrow, hraw, hblank⟩ := mem_authored_iff.mp hp
    rw [opens, hrow, Nat.add_sub_cancel]
    exact h i p.2 hraw hblank
  · intro h i raw hraw hblank
    exact h (i + 1, raw) (mem_authored_iff.mpr ⟨i, rfl, hraw, hblank⟩)

theorem stateAfter_problems_eq_nil_iff :
    (stateAfter options rows).problems = [] ↔ AllSound options rows := by
  rw [stateAfter_problems, List.flatMap_eq_nil_iff, allSound_iff]
  constructor
  · intro h p hp
    exact AuthoredRow.problems_eq_nil_iff.mp (h p hp)
  · intro h p hp
    exact AuthoredRow.problems_eq_nil_iff.mpr (h p hp)

theorem authored_eq_nil_iff : authored rows = [] ↔ ∀ raw ∈ rows, raw.isBlank = true := by
  rw [List.eq_nil_iff_forall_not_mem]
  constructor
  · intro h raw hraw
    obtain ⟨i, hi⟩ := List.mem_iff_getElem?.mp hraw
    by_contra hblank
    exact h (i + 1, raw) (mem_authored_iff.mpr ⟨i, rfl, hi, by simpa using hblank⟩)
  · intro h p hp
    obtain ⟨i, _, hraw, hblank⟩ := mem_authored_iff.mp hp
    rw [h p.2 (List.mem_of_getElem? hraw)] at hblank
    cases hblank

/-! ### The table -/

/-- A table that groups the rows with a trial by their block numbers: the blocks in the order in
    which their numbers first come up, in each the trials of its rows in row order, and the
    repeat count that the first of them asks for. No row is lost. -/
structure GroupsRows (rows : List AuthoredRow) (table : TrialTable) : Prop where
  distinct : (table.blocks.map (·.number)).Nodup
  firstSeen : table.blocks.map (·.number) = ((authored rows).filterMap (·.2.block?)).eraseDups
  nonempty : ∀ block ∈ table.blocks, block.trials ≠ []
  trials : ∀ block ∈ table.blocks, block.trials =
    ((authored rows).filter (NumberedRow.isIn block.number)).map fun p => p.2.cellsTrial p.1
  repeatCount : ∀ block ∈ table.blocks,
    ((authored rows).find? (NumberedRow.isIn block.number)).map (·.2.repeatsCell) =
      some block.repeatCount
  complete : table.specs.Perm ((authored rows).map fun p => p.2.cellsTrial p.1)

/-- Things sorted into bins by a key are all there. -/
theorem perm_flatMap_filter {α : Type} (key : Int → α → Bool) {keys : List Int}
    (hkeys : keys.Nodup) :
    ∀ xs : List α, (∀ x ∈ xs, ∃ k ∈ keys, ∀ k', key k' x = true ↔ k' = k) →
      (keys.flatMap fun k => xs.filter (key k)).Perm xs := by
  induction keys with
  | nil =>
    intro xs hxs
    cases xs with
    | nil => exact .nil
    | cons x xs =>
      obtain ⟨_, hk, _⟩ := hxs x List.mem_cons_self
      cases hk
  | cons k keys ih =>
    intro xs hxs
    obtain ⟨hnew, hrest⟩ := List.nodup_cons.mp hkeys
    -- what is not in the first bin goes into the others
    have hothers : ∀ k' ∈ keys, xs.filter (key k') =
        (xs.filter (fun x => !key k x)).filter (key k') := by
      intro k' hk'
      rw [List.filter_filter]
      apply List.filter_congr
      intro x hx
      obtain ⟨k₀, _, honly⟩ := hxs x hx
      cases hin : key k' x with
      | false => rfl
      | true =>
        have hne : ¬ key k x = true := by
          intro hboth
          obtain rfl := (honly k').mp hin
          exact hnew ((honly k).mp hboth ▸ hk')
        simp [hne]
    rw [List.flatMap_cons, List.flatMap_congr hothers]
    refine (List.Perm.append_left _ (ih hrest _ ?_)).trans (List.filter_append_perm _ xs)
    intro x hx
    obtain ⟨hx, hnot⟩ := List.mem_filter.mp hx
    obtain ⟨k₀, hmem, honly⟩ := hxs x hx
    refine ⟨k₀, ?_, honly⟩
    rcases List.mem_cons.mp hmem with rfl | hmem
    · rw [(honly k₀).mpr rfl] at hnot
      cases hnot
    · exact hmem

theorem eq_cellsTrial_of_makes {p : NumberedRow} {entry : TableEntry}
    (h : Makes options p entry) : entry.1 = p.2.cellsTrial p.1 := by
  obtain ⟨pair, hcheck, hspec⟩ := Option.map_eq_some_iff.mp h.spec
  obtain ⟨spec, repeats⟩ := pair
  have hok : p.2.check options false p.1 = .ok (spec, repeats) := by
    cases hread : p.2.check options false p.1 with
    | ok pair =>
      rw [hread] at hcheck
      exact congrArg Except.ok (Option.some.inj hcheck)
    | error problems =>
      rw [hread] at hcheck
      cases hcheck
  exact hspec ▸ AuthoredRow.eq_cellsTrial_of_check hok

/-- The entries of a block are the trials of its rows, in their order. -/
theorem filter_of_makes {numbered : List NumberedRow} {entries : List TableEntry}
    (h : List.Forall₂ (Makes options) numbered entries) (number : Int) :
    (entries.filter (TableEntry.isIn number)).map (·.1) =
      (numbered.filter (NumberedRow.isIn number)).map fun p => p.2.cellsTrial p.1 := by
  induction h with
  | nil => rfl
  | @cons p entry _ _ hmakes _ ih =>
    rw [List.filter_cons, List.filter_cons, hmakes.isIn]
    cases NumberedRow.isIn number p with
    | true => simp only [if_true, List.map_cons, ih, eq_cellsTrial_of_makes hmakes]
    | false => simpa using ih

/-- A sound row is pushed with the number that its cell says. -/
theorem pushed?_block {p : NumberedRow} (h : p.2.Sound options (opens rows p)) :
    (pushed? options rows p).map (·.1.block) = p.2.block? := by
  obtain ⟨repeats, hcheck⟩ := AuthoredRow.check_of_sound h p.1
  rw [pushed?, hcheck, AuthoredRow.block?_of_check hcheck]
  rfl

theorem stateAfter_numbers (h : AllSound options rows) :
    (stateAfter options rows).builder.numbers =
      ((authored rows).filterMap (·.2.block?)).eraseDups := by
  have hblocks : ((authored rows).filterMap fun p => (pushed? options rows p).map (·.1.block)) =
      (authored rows).filterMap (·.2.block?) := by
    apply List.filterMap_congr
    intro p hp
    exact pushed?_block (allSound_iff.mp h p hp)
  rw [stateAfter_builder, TableBuilder.numbers_foldl_push, List.map_filterMap, hblocks]

theorem stateAfter_of_validate {table : TrialTable} (h : validate options rows = .ok table) :
    AllSound options rows ∧ table = (stateAfter options rows).builder.build.1 := by
  rcases validate_cases options rows with ⟨_, herror⟩ | ⟨_, hproblems, hok⟩ | ⟨_, _, herror⟩
  · cases h.symm.trans herror
  · exact ⟨stateAfter_problems_eq_nil_iff.mp hproblems, Except.ok.inj (h.symm.trans hok)⟩
  · cases h.symm.trans herror

/-- A table that comes out of validation groups the rows. -/
theorem groupsRows_of_validate {table : TrialTable} (h : validate options rows = .ok table) :
    GroupsRows rows table := by
  obtain ⟨_, entries, haccepted, hgathers⟩ := accepted_of_validate h
  obtain ⟨hsound, htable⟩ := stateAfter_of_validate h
  have hnumbers : table.blocks.map (·.number) =
      ((authored rows).filterMap (·.2.block?)).eraseDups := by
    rw [htable]
    exact stateAfter_numbers hsound
  have htrials : ∀ block ∈ table.blocks, block.trials =
      ((authored rows).filter (NumberedRow.isIn block.number)).map
        fun p => p.2.cellsTrial p.1 := by
    intro block hblock
    rw [(hgathers.blocks block hblock).trials, filter_of_makes haccepted.makes]
  have hrepeats : ∀ block ∈ table.blocks,
      ((authored rows).find? (NumberedRow.isIn block.number)).map (·.2.repeatsCell) =
        some block.repeatCount := by
    intro block hblock
    have hfirst := (hgathers.blocks block hblock).repeatCount
    cases hfind : (authored rows).find? (NumberedRow.isIn block.number) with
    | none =>
      rw [find?_eq_none_of_makes haccepted.makes hfind] at hfirst
      cases hfirst
    | some p => exact (haccepted.repeats _ p hfind).symm.trans hfirst
  refine ⟨hgathers.distinct, hnumbers, ?_, htrials, hrepeats, ?_⟩
  · intro block hblock hnil
    obtain ⟨p, hfind, _⟩ := Option.map_eq_some_iff.mp (hrepeats block hblock)
    rw [htrials block hblock, List.map_eq_nil_iff, List.filter_eq_nil_iff] at hnil
    exact hnil p (List.mem_of_find?_eq_some hfind) (List.find?_some hfind)
  -- the blocks are bins, and every row has the number of just one of them
  · have hbins : ∀ p ∈ authored rows, ∃ number ∈ table.blocks.map (·.number),
        ∀ other, NumberedRow.isIn other p = true ↔ other = number := by
      intro p hp
      obtain ⟨number, hnumber⟩ := (allSound_iff.mp hsound p hp).block
      rw [← AuthoredRow.block?_eq] at hnumber
      refine ⟨number, ?_, ?_⟩
      · rw [hnumbers, List.mem_eraseDups, List.mem_filterMap]
        exact ⟨p, hp, hnumber⟩
      · intro other
        rw [NumberedRow.isIn, hnumber, Option.some_beq_some, beq_iff_eq, eq_comm]
    have hspecs : table.specs = ((table.blocks.map (·.number)).flatMap fun number =>
        (authored rows).filter (NumberedRow.isIn number)).map fun p => p.2.cellsTrial p.1 := by
      rw [TrialTable.specs, List.flatMap_congr htrials, List.map_flatMap, List.flatMap_map]
    rw [hspecs]
    exact (perm_flatMap_filter NumberedRow.isIn hgathers.distinct _ hbins).map _

/-- **Validation is exact.** It succeeds just when some row carries a trial and every row that
    does is sound. Otherwise it reports that there are no trials, or all problems of these rows
    in row order, each with the number of its row; and the problems of a row are its faults. A
    table that comes out groups the rows. -/
theorem validate_exact (options : ValidationOptions) (rows : List AuthoredRow) :
    ((∃ table, validate options rows = .ok table) ↔
      (∃ raw ∈ rows, raw.isBlank = false) ∧ AllSound options rows) ∧
      (∀ problems, validate options rows = .error problems → problems ≠ [] ∧
        ((∀ raw ∈ rows, raw.isBlank = true) ∧ problems = [.noTrials] ∨
          (∃ raw ∈ rows, raw.isBlank = false) ∧
            problems = (authored rows).flatMap (problemsIn options rows))) ∧
      (∀ p problem, problem ∈ problemsIn options rows p ↔
        p.2.Fault options (opens rows p) p.1 problem ∧ problem.row? = some p.1) ∧
      (∀ table, validate options rows = .ok table → GroupsRows rows table) := by
  have hsome : authored rows ≠ [] ↔ ∃ raw ∈ rows, raw.isBlank = false := by
    rw [ne_eq, authored_eq_nil_iff]
    simp
  refine ⟨?_, ?_, ?_, fun _ => groupsRows_of_validate⟩
  · rw [← hsome, ← stateAfter_problems_eq_nil_iff]
    rcases validate_cases options rows with ⟨hnil, hverdict⟩ | ⟨hne, hproblems, hverdict⟩ |
      ⟨hne, hproblems, hverdict⟩
    · simp [hverdict, hnil]
    · simp [hverdict, hne, hproblems]
    · simp [hverdict, hproblems]
  · intro problems h
    rcases validate_cases options rows with ⟨hnil, hverdict⟩ | ⟨_, _, hverdict⟩ |
      ⟨hne, hproblems, hverdict⟩
    · obtain rfl := Except.error.inj (h.symm.trans hverdict)
      exact ⟨List.cons_ne_nil _ _, Or.inl ⟨authored_eq_nil_iff.mp hnil, rfl⟩⟩
    · cases h.symm.trans hverdict
    · obtain rfl := Except.error.inj (h.symm.trans hverdict)
      exact ⟨hproblems, Or.inr ⟨hsome.mp hne, stateAfter_problems options rows⟩⟩
  · intro p problem
    rw [problemsIn, AuthoredRow.mem_problems_iff]
    constructor
    · exact fun hfault => ⟨hfault, hfault.row?_eq⟩
    · exact fun h => h.1

/-- Two rows of a block around a blank one; the repeats cell of the second is not read. -/
def unreadRepeatsRows : List AuthoredRow :=
  [.ofCells ["5", "2", "x", "f,j", "NA", "f"], .ofCells [], .ofCells ["1", "", "+", "NA", "100"],
    .ofCells ["5", "oops", "y", "NA", "100"]]

/-- The table of these rows. -/
def unreadRepeatsTable : TrialTable :=
  ⟨[⟨5, 2, [{ TrialSpec.timed 1 5 "x" 0 with
      response := .keys ["f", "j"], latencyMs := none, correctResponse := some "f" },
      .timed 4 5 "y" 100]⟩, ⟨1, 1, [.timed 3 1 "+" 100]⟩]⟩

/-- Put first, the repeats cell is read, and so is a wrong latency below it. -/
theorem validate_exact_unreadRepeatsRows :
    let options := ValidationOptions.standard fun _ => false
    let wrong : List AuthoredRow :=
      [.ofCells ["5", "oops", "y", "NA", "100"], .ofCells [],
        .ofCells ["5", "2", "x", "f,j", "soon"]]
    let problems : List Problem := [.invalidBlockRepeats 1 "oops", .invalidLatency 3 "soon"]
    (validate options unreadRepeatsRows = .ok unreadRepeatsTable ∧
      GroupsRows unreadRepeatsRows unreadRepeatsTable) ∧
      validate options wrong = .error problems ∧ problems ≠ [] ∧
      problems.map (·.row?) = [some 1, some 3] := by
  intro options wrong problems
  have hvalid : validate options unreadRepeatsRows = .ok unreadRepeatsTable := rfl
  have hwrong : validate options wrong = .error problems := rfl
  refine ⟨⟨hvalid, ?_⟩, hwrong, ?_, rfl⟩
  · exact (validate_exact options unreadRepeatsRows).2.2.2 _ hvalid
  · exact ((validate_exact options wrong).2.1 _ hwrong).1

end TimedTrials.Validation
