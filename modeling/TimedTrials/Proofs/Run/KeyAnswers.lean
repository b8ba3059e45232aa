/-
  TimedTrials/Proofs/Run/KeyAnswers.lean
  ======================================
  **Correct keys stay correct.**

  Keys are compared in three places. The check of a row looks for the correct response among the
  authored keys as they are written; a run compares normal forms, and judges a form that has been
  normalized before; a page is told the normal forms alone. These agree, since normal forms are
  stable: what the check lets pass is accepted and right, the page lists the keys that the run
  accepts, and the name under which a key was recorded does on the same trial just what the key
  did (`keys_stay_correct`).
-/
import TimedTrials.Proofs.Page.KeyList
import TimedTrials.Proofs.Run.Consistency
import TimedTrials.Proofs.Run.Deadlines
import TimedTrials.Proofs.Table.Exactness
import TimedTrials.Proofs.Trial.KeyNames

namespace TimedTrials

/-! ### Rows with a correct key -/

/-- A trial that takes keys, and the correct one is among them as it is authored. -/
structure TrialSpec.OffersCorrect (spec : TrialSpec) (tokens : List String) (correct : String) :
    Prop where
  keys : spec.response = .keys tokens
  judged : spec.correctResponse = some correct
  offered : correct ∈ tokens

namespace Validation

variable {options : ValidationOptions} {rows : List AuthoredRow} {table : TrialTable} {i : Nat}
  {raw : AuthoredRow}

theorem isBlank_eq_false_of_correct {correct : String}
    (h : AuthoredRow.nonEmpty? raw.correctResponse = some correct) : raw.isBlank = false := by
  obtain ⟨htrim, hne⟩ := AuthoredRow.nonEmpty?_eq_some_iff.mp h
  rw [← Bool.not_eq_true]
  intro hblank
  have hcell : Text.isBlankText raw.correctResponse = true :=
    List.all_eq_true.mp hblank _ (by simp [AuthoredRow.cells])
  exact hne (htrim.symm.trans (Text.trim_eq_empty hcell))

/-- Every row that carries a trial has it in the table. -/
theorem mem_specs_of_validate (hvalid : validate options rows = .ok table)
    (hrow : rows[i]? = some raw) (hcarries : raw.isBlank = false) :
    raw.cellsTrial (i + 1) ∈ table.specs := by
  rw [(groupsRows_of_validate hvalid).complete.mem_iff, List.mem_map]
  exact ⟨(i + 1, raw), mem_authored_iff.mpr ⟨i, rfl, hrow, hcarries⟩, rfl⟩

/-- What the check of the correct response is for. -/
theorem offersCorrect_of_validate (hvalid : validate options rows = .ok table)
    (hrow : rows[i]? = some raw) {tokens : List String}
    (hkeys : (Response.read raw.response).value = .keys tokens) {correct : String}
    (hcorrect : AuthoredRow.nonEmpty? raw.correctResponse = some correct) :
    (raw.cellsTrial (i + 1)).OffersCorrect tokens correct := by
  obtain ⟨hsound, _⟩ := stateAfter_of_validate hvalid
  have hrowSound := hsound i raw hrow (isBlank_eq_false_of_correct hcorrect)
  have hoffered : correct ∈ tokens := by
    obtain ⟨rfl, hne⟩ := AuthoredRow.nonEmpty?_eq_some_iff.mp hcorrect
    exact (hrowSound.correct tokens hkeys).resolve_left hne
  refine ⟨?_, ?_, hoffered⟩
  · simp only [AuthoredRow.cellsTrial, AuthoredRow.trial, hkeys]
  · simp only [AuthoredRow.cellsTrial, AuthoredRow.trial, hcorrect]

end Validation

/-! ### Keys of a run -/

namespace Run

variable {r : Run} {clock : Clock} {event : RunEvent} {live : LiveTrial} {trial : TrialInstance}
  {tokens : List String} {correct key : String}

/-- A trial is on screen and its keys are taken. -/
structure TakesKeys (r : Run) (clock : Clock) (live : LiveTrial) (trial : TrialInstance) :
    Prop where
  phase : r.phase = .presenting
  onScreen : r.live? = some (live, trial)
  isOpen : keysClosed live clock.now = false

theorem TakesKeys.accepted_iff (h : r.TakesKeys clock live trial) :
    (r.handle clock (.key key)).accepted = true ↔ trial.spec.response.acceptsKey key = true :=
  (key_accepted_iff h.phase h.onScreen).trans (and_iff_right h.isOpen)

/-- An event is accepted, and this is recorded of it. -/
structure Records (r : Run) (clock : Clock) (event : RunEvent) (entry : TrialRecord) : Prop where
  accepted : (r.handle clock event).accepted = true
  records : (r.handle clock event).run.records = r.records ++ [entry]

/-- A key that is accepted is recorded under its normal form. -/
theorem TakesKeys.records_key (h : r.TakesKeys clock live trial)
    (hkey : trial.spec.response.acceptsKey key = true) :
    r.Records clock (.key key) (record clock trial live.onset (.key (Key.normal key))) := by
  have hanswer : answerTo live trial clock.now (.key key) = .ok (.key (Key.normal key)) := by
    simp [answerTo, h.isOpen, hkey]
  refine ⟨h.accepted_iff.mpr hkey, ?_⟩
  simp only [handle, h.phase, h.onScreen, hanswer, resolve_records]

/-- Nothing but a key puts a response into the records of a trial that takes keys. -/
theorem TakesKeys.exists_key (h : r.TakesKeys clock live trial)
    (hkeys : trial.spec.response = .keys tokens) {entry : TrialRecord} {given : String}
    (hentry : r.Records clock event entry) (hgiven : entry.outcome.actualResponse = some given) :
    ∃ key, trial.spec.response.acceptsKey key = true ∧ given = Key.normal key ∧
      entry.outcome = outcome trial (.key (Key.normal key)) := by
  have haccepts := accepts_of_accepted hentry.accepted
  have hrecords := hentry.records
  generalize (r.handle clock event).run = r' at haccepts hrecords
  cases haccepts with
  | start hphase => cases hphase.symm.trans h.phase
  | elapsed hphase => cases hphase.symm.trans h.phase
  | answer hphase hlive hanswer =>
    obtain ⟨rfl, rfl⟩ := Prod.mk.inj (Option.some.inj (hlive.symm.trans h.onScreen))
    rw [resolve_records, List.append_cancel_left_eq, List.singleton_inj] at hrecords
    obtain rfl := hrecords
    cases answers_of_answerTo hanswer with
    | key _ hkey => exact ⟨_, hkey, (Option.some.inj hgiven).symm, rfl⟩
    | text htext =>
      rw [hkeys] at htext
      cases htext
    | timeout => cases hgiven

theorem isCorrect_of_key (h : trial.spec.OffersCorrect tokens correct) (key : String) :
    (outcome trial (.key (Key.normal key))).isCorrect =
      some (decide (Key.normal key = Key.normal correct)) := by
  have hjudge : judge trial.spec (some (Key.normal key)) =
      some (decide (Key.normal (Key.normal key) = Key.normal correct)) := judge_keys h.judged h.keys
  rwa [Key.normal_normal] at hjudge

/-- **Correct keys stay correct.** Take a row of an accepted table that takes keys and has a
    correct response, and any run, at any time, that has its trial on screen and takes keys.
    A key is accepted just when it has the normal form of an authored key, and just when every
    page that shows the trial lists its normal form. It is recorded under its normal form, and
    right just when this is the normal form of the correct response. The correct response itself
    is accepted and right. Whatever response is recorded is, taken for a key, accepted on the same
    trial at any other time, with the same response, judgement and feedback. -/
theorem keys_stay_correct {options : ValidationOptions} {rows : List AuthoredRow}
    {table : TrialTable} (hvalid : validate options rows = .ok table) {i : Nat}
    {raw : AuthoredRow} (hrow : rows[i]? = some raw)
    (hkeys : (Response.read raw.response).value = .keys tokens)
    (hcorrect : AuthoredRow.nonEmpty? raw.correctResponse = some correct) :
    raw.cellsTrial (i + 1) ∈ table.specs ∧
      ∀ r clock live trial, TakesKeys r clock live trial → trial.spec = raw.cellsTrial (i + 1) →
        (∀ key, (r.handle clock (.key key)).accepted = true ↔
          ∃ token ∈ tokens, Key.normal key = Key.normal token) ∧
        (∀ sequence settings payload position shown,
          Page.Payload.build sequence settings = .ok payload →
          sequence[position]? = some shown → shown.spec = raw.cellsTrial (i + 1) →
          ∀ key, (r.handle clock (.key key)).accepted = true ↔
            Key.normal key ∈ payload.keysAt position) ∧
        (∀ key, (r.handle clock (.key key)).accepted = true →
          ∃ entry, r.Records clock (.key key) entry ∧
            entry.outcome.actualResponse = some (Key.normal key) ∧
            entry.outcome.isCorrect = some (decide (Key.normal key = Key.normal correct))) ∧
        (∃ entry, r.Records clock (.key correct) entry ∧ entry.outcome.isCorrect = some true) ∧
        ∀ event entry given, r.Records clock event entry →
          entry.outcome.actualResponse = some given →
          ∀ r' clock' live' trial', TakesKeys r' clock' live' trial' →
            trial'.spec = raw.cellsTrial (i + 1) →
            ∃ entry', r'.Records clock' (.key given) entry' ∧
              entry'.outcome.actualResponse = some given ∧
              entry'.outcome.isCorrect = entry.outcome.isCorrect ∧
              entry'.outcome.feedbackShown = entry.outcome.feedbackShown := by
  have hoffers := Validation.offersCorrect_of_validate hvalid hrow hkeys hcorrect
  refine ⟨Validation.mem_specs_of_validate hvalid hrow
    (Validation.isBlank_eq_false_of_correct hcorrect), ?_⟩
  intro r clock live trial h hspec
  rw [← hspec] at hoffers ⊢
  have haccepted : ∀ key, (r.handle clock (.key key)).accepted = true ↔
      ∃ token ∈ tokens, Key.normal key = Key.normal token := by
    intro key
    rw [h.accepted_iff, Response.acceptsKey_iff, hoffers.keys]
    simp only [Response.keyOptions, eq_comm]
  have hcorrectAccepted : (r.handle clock (.key correct)).accepted = true :=
    (haccepted correct).mpr ⟨correct, hoffers.offered, rfl⟩
  refine ⟨haccepted, ?_, ?_, ?_, ?_⟩
  · intro sequence settings payload position shown hbuild hshown hsame key
    rw [Page.Payload.keysAt_of_build hbuild hshown (hsame ▸ hoffers.keys), haccepted]
    simp only [List.mem_map, eq_comm]
  · intro key hkey
    exact ⟨_, h.records_key (h.accepted_iff.mp hkey), rfl, isCorrect_of_key hoffers key⟩
  · refine ⟨_, h.records_key (h.accepted_iff.mp hcorrectAccepted), ?_⟩
    exact (isCorrect_of_key hoffers correct).trans (by simp)
  · intro event entry given hentry hgiven r' clock' live' trial' h' hspec'
    -- the recorded response is a normal form, which is accepted and judged as the key itself
    obtain ⟨key, hkey, rfl, houtcome⟩ := h.exists_key hoffers.keys hentry hgiven
    have hkey' : trial'.spec.response.acceptsKey (Key.normal key) = true := by
      rw [hspec', Response.acceptsKey_normal, hkey]
    refine ⟨_, h'.records_key hkey', ?_, ?_, ?_⟩
    · exact congrArg some (Key.normal_normal key)
    · rw [houtcome]
      simp only [record, outcome, Key.normal_normal, hspec']
    · rw [houtcome]
      simp only [record, outcome, Key.normal_normal, hspec']

/-- A timed trial whose keys are authored in odd ways: there is a sign for kelvin among them, which
    is lowered to a plain letter. -/
def oddKeyRow : AuthoredRow :=
  .ofCells ["1", "", "go", " SPACE , LShift,\u212a ", "900", "SPACE", "[correct] good"]

def oddKeyRows : List AuthoredRow := [.ofCells [], oddKeyRow]

def oddKeyTrial : TrialInstance :=
  ⟨{ TrialSpec.timed 2 1 "go" 900 with
      response := .keys ["SPACE", "LShift", "\u212a"]
      correctResponse := some "SPACE"
      feedback := some ⟨.whenCorrect, "good"⟩ }, 1, .fixed 1, 0⟩

def oddKeyTable : TrialTable := ⟨[⟨1, 1, [oddKeyTrial.spec]⟩]⟩

/-- The run of this trial, which has just come on screen. -/
def oddKeyRun : Run :=
  ((Session.start [oddKeyTrial] .standard ⟨0, 0⟩).after [.send .start]).run

theorem takesKeys_oddKeyRun :
    TakesKeys oddKeyRun ⟨0, 0⟩ (arm .standard oddKeyTrial ⟨0, 1⟩ 0) oddKeyTrial :=
  ⟨rfl, rfl, by decide +kernel⟩

theorem keys_stay_correct_oddKeyRows :
    validate (.standard fun _ => false) oddKeyRows = .ok oddKeyTable ∧
      oddKeyRows[1]? = some oddKeyRow ∧
      (Response.read oddKeyRow.response).value = .keys ["SPACE", "LShift", "\u212a"] ∧
      AuthoredRow.nonEmpty? oddKeyRow.correctResponse = some "SPACE" ∧
      oddKeyRow.cellsTrial 2 ∈ oddKeyTable.specs ∧
      TakesKeys oddKeyRun ⟨0, 0⟩ (arm .standard oddKeyTrial ⟨0, 1⟩ 0) oddKeyTrial ∧
      oddKeyTrial.spec = oddKeyRow.cellsTrial 2 ∧
      (∃ payload, Page.Payload.build [oddKeyTrial] .standard = .ok payload ∧
        "k" ∈ payload.keysAt 0) ∧
      (oddKeyRun.handle ⟨0, 0⟩ (.key "k")).accepted = true ∧
      (∃ entry, oddKeyRun.Records ⟨0, 0⟩ (.key "SPACE") entry ∧
        entry.outcome.isCorrect = some true) ∧
      ∃ entry, oddKeyRun.Records ⟨0, 0⟩ (.key "RShift") entry ∧
        entry.outcome.actualResponse = some "shift" ∧ entry.outcome.isCorrect = some false := by
  have hvalid : validate (.standard fun _ => false) oddKeyRows = .ok oddKeyTable := by rfl
  have hrow : oddKeyRows[1]? = some oddKeyRow := rfl
  have hkeys : (Response.read oddKeyRow.response).value =
      .keys ["SPACE", "LShift", "\u212a"] := by rfl
  have hcorrect : AuthoredRow.nonEmpty? oddKeyRow.correctResponse = some "SPACE" := by rfl
  obtain ⟨hmem, hall⟩ := keys_stay_correct hvalid hrow hkeys hcorrect
  have hspec : oddKeyTrial.spec = oddKeyRow.cellsTrial 2 := by rfl
  obtain ⟨haccepted, hlisted, hrecorded, hright, _⟩ := hall _ _ _ _ takesKeys_oddKeyRun hspec
  have hkelvin := (haccepted "k").mpr ⟨"\u212a", by simp, by decide +kernel⟩
  have hshift := (haccepted "RShift").mpr ⟨"LShift", by simp, by decide +kernel⟩
  obtain ⟨payload, hbuild⟩ : ∃ payload, Page.Payload.build [oddKeyTrial] .standard = .ok payload :=
    ⟨_, rfl⟩
  have hlistedKelvin := (hlisted _ _ _ 0 oddKeyTrial hbuild rfl hspec "k").mp hkelvin
  obtain ⟨entry, hentry, hgiven, hwrong⟩ := hrecorded "RShift" hshift
  have hnormal : Key.normal "RShift" = "shift" ∧ Key.normal "k" = "k" ∧
      Key.normal "SPACE" = " " := by decide +kernel
  rw [hnormal.1] at hgiven hwrong
  rw [hnormal.2.1] at hlistedKelvin
  rw [hnormal.2.2] at hwrong
  exact ⟨hvalid, hrow, hkeys, hcorrect, hmem, takesKeys_oddKeyRun, hspec,
    ⟨payload, hbuild, hlistedKelvin⟩, hkelvin, hright, entry, hentry, hgiven, hwrong⟩

end Run

end TimedTrials
