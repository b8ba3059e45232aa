/-
  TimedTrials/Proofs/Result/Delivery.lean
  =======================================
  **Handing over leaves exactly one artifact, or says why there is none.**

  What the server answers and what becomes of each file operation is left open. A server that takes
  the artifact ends the matter (`HandedOver`). Otherwise all hangs on the local half, which fails
  in one of three ways (`LocalFailure`) or writes one file (`saveOn_cases`); a failed server only
  adds its notice (`deliverOn_of_refuses_of_saved`). An identifier that is no part of a file name is
  found out before the disk is touched, and one that is makes the name of a file that stays in its
  directory (`isName_fileName`).
-/
import TimedTrials.Proofs.Storage.Files
import TimedTrials.Proofs.Stored.RoundTrip
import TimedTrials.Result.Delivery

namespace TimedTrials

/-! ### Identifiers -/

/-- An identifier of an experiment is `exp_` and one or more ASCII letters or digits. -/
def IsExperimentId (id : String) : Prop :=
  ∃ rest : String, id = "exp_" ++ rest ∧ rest ≠ "" ∧ ∀ c ∈ rest.toList, c.isAlphanum = true

theorem isValidExperimentId_iff {id : String} :
    isValidExperimentId id = true ↔ IsExperimentId id := by
  constructor
  · intro h
    rw [isValidExperimentId] at h
    split at h
    · rename_i rest hrest
      simp only [Bool.and_eq_true, Bool.not_eq_true', List.all_eq_true] at h
      refine ⟨String.ofList rest, ?_, ?_, ?_⟩
      · rw [← String.toList_inj, String.toList_append, Text.eq_append_of_dropHead? hrest]
        exact congrArg (idMark.toList ++ ·) String.toList_ofList.symm
      · simpa using h.1
      · rw [String.toList_ofList]
        exact h.2
    · cases h
  · rintro ⟨rest, rfl, hne, hrest⟩
    have hdrop : Text.dropHead? idMark.toList ("exp_" ++ rest).toList = some rest.toList := by
      rw [String.toList_append]
      exact Text.dropHead?_append _ _
    rw [isValidExperimentId, hdrop]
    simpa using ⟨hne, hrest⟩

namespace Artifact

/-- The file of an artifact with such an identifier has a name of its own, without a slash. -/
theorem isName_fileName {a : Artifact} (h : IsExperimentId a.experimentId) :
    Path.IsName a.fileName ∧ a.fileName ≠ "." ∧ a.fileName ≠ ".." := by
  obtain ⟨rest, hid, -, hrest⟩ := h
  have hname : a.fileName = "experiment_data_" ++ ("exp_" ++ rest) ++ ".json" :=
    congrArg artifactFileName hid
  have hslash : '/' ∉ rest.toList := fun hmem => absurd (hrest '/' hmem) (by decide)
  have hfirst : a.fileName.toList.head? = some 'e' := by simp [hname]
  have hother : ∀ name : String, name.toList.head? ≠ some 'e' → a.fileName ≠ name := by
    rintro name hne rfl
    exact hne hfirst
  refine ⟨⟨hother "" (by decide), ?_⟩, hother "." (by decide), hother ".." (by decide)⟩
  simp [hname, hslash]

/-! ### The two halves -/

/-- There is a server, and it takes the artifact. -/
def Accepts (remote : Option Remote) (a : Artifact) (delivery : Delivery) : Prop :=
  ∃ send, remote = some send ∧ send a = .ok delivery

/-- There is a server, and it fails. -/
def Refuses (remote : Option Remote) (a : Artifact) (e : DeliveryError) : Prop :=
  ∃ send, remote = some send ∧ send a = .error e

/-- How the local half fails, and the tree that it leaves. -/
inductive LocalFailure (disk : Disk) (s : Storage) (dir : String) (a : Artifact) :
    DeliveryError → Storage → Prop where
  | invalidId (hid : ¬ IsExperimentId a.experimentId) :
      LocalFailure disk s dir a (.invalidId a.experimentId) s
  | directories {cause : StorageError} {after : Storage} (hid : IsExperimentId a.experimentId)
      (hmake : disk.makeDirectories s dir = (.error cause, after)) :
      LocalFailure disk s dir a (.write (Path.join dir a.fileName) cause) after
  | file {made after : Storage} {cause : StorageError} (hid : IsExperimentId a.experimentId)
      (hmake : disk.makeDirectories s dir = (.ok (), made))
      (hwrite : disk.write made (Path.join dir a.fileName) a.text.toUTF8 = (.error cause, after)) :
      LocalFailure disk s dir a (.write (Path.join dir a.fileName) cause) after

variable {disk : Disk} {s : Storage} {remote : Option Remote} {dir : String} {a : Artifact}

/-- **What the local half does**: it fails in one of these ways, or has written the file. -/
theorem saveOn_cases (disk : Disk) (s : Storage) (dir : String) (a : Artifact) :
    (∃ e after, LocalFailure disk s dir a e after ∧ (a.saveOn disk s dir).outcome = .error e ∧
      (a.saveOn disk s dir).storage = after) ∨
    (IsExperimentId a.experimentId ∧
      (a.saveOn disk s dir).outcome = .ok (.saved (Path.join dir a.fileName) none) ∧
      ∃ made, s.makeDirectories dir = .ok made ∧
        made.write (Path.join dir a.fileName) a.text.toUTF8 =
          .ok (a.saveOn disk s dir).storage) := by
  cases hid : isValidExperimentId a.experimentId with
  | false =>
    have hnot : ¬ IsExperimentId a.experimentId := by
      rw [← isValidExperimentId_iff, hid]
      exact Bool.false_ne_true
    have hsave : a.saveOn disk s dir = ⟨.error (.invalidId a.experimentId), s, []⟩ := by
      simp only [saveOn, hid, Bool.not_false, if_true]
    rw [hsave]
    exact .inl ⟨_, _, .invalidId hnot, rfl, rfl⟩
  | true =>
    have hvalid := isValidExperimentId_iff.mp hid
    rcases hmake : disk.makeDirectories s dir with ⟨cause | u, made⟩
    · have hsave : a.saveOn disk s dir =
          ⟨.error (.write (Path.join dir a.fileName) cause), made, []⟩ := by
        simp only [saveOn, hid, hmake, Bool.not_true, Bool.false_eq_true, if_false]
      rw [hsave]
      exact .inl ⟨_, _, .directories hvalid hmake, rfl, rfl⟩
    · rcases hwrite : disk.write made (Path.join dir a.fileName) a.text.toUTF8 with
        ⟨cause | u, after⟩
      · have hsave : a.saveOn disk s dir =
            ⟨.error (.write (Path.join dir a.fileName) cause), after, []⟩ := by
          simp only [saveOn, hid, hmake, hwrite, Bool.not_true, Bool.false_eq_true, if_false]
        rw [hsave]
        exact .inl ⟨_, _, .file hvalid hmake hwrite, rfl, rfl⟩
      · have hsave : (a.saveOn disk s dir).outcome =
            .ok (.saved (Path.join dir a.fileName) none) ∧
              (a.saveOn disk s dir).storage = after := by
          simp only [saveOn, hid, hmake, hwrite, Bool.not_true, Bool.false_eq_true, if_false,
            and_self]
        rw [hsave.1, hsave.2]
        exact .inr ⟨hvalid, rfl, made, disk.of_makeDirectories hmake, disk.of_write hwrite⟩

/-! ### Both halves together -/

theorem deliverOn_of_accepts {delivery : Delivery} (h : Accepts remote a delivery) :
    a.deliverOn disk s remote dir = ⟨.ok delivery, s, []⟩ := by
  obtain ⟨send, rfl, hsend⟩ := h
  simp only [deliverOn, hsend]

/-- A failed server changes nothing about a failure of the local half. -/
theorem deliverOn_of_refuses_of_error {e e' : DeliveryError} (h : Refuses remote a e)
    (herror : (a.saveOn disk s dir).outcome = .error e') :
    (a.deliverOn disk s remote dir).outcome = .error e' ∧
      (a.deliverOn disk s remote dir).storage = (a.saveOn disk s dir).storage := by
  obtain ⟨send, rfl, hsend⟩ := h
  simp only [deliverOn, hsend, herror, and_self]

/-- What was saved after a failure of the server goes with a notice. -/
theorem deliverOn_of_refuses_of_saved {e : DeliveryError} {path : String} (h : Refuses remote a e)
    (hsaved : (a.saveOn disk s dir).outcome = .ok (.saved path none)) :
    (a.deliverOn disk s remote dir).outcome = .ok (.saved path (some (fallbackNotice e path))) ∧
      (a.deliverOn disk s remote dir).storage = (a.saveOn disk s dir).storage := by
  obtain ⟨send, rfl, hsend⟩ := h
  simp only [deliverOn, hsend, hsaved, and_self]

/-- Either the server takes the artifact, or it fails, or there is none. -/
theorem remote_cases (remote : Option Remote) (a : Artifact) :
    (∃ delivery, Accepts remote a delivery) ∨ (∃ e, Refuses remote a e) ∨ remote = none := by
  cases remote with
  | none => exact .inr (.inr rfl)
  | some send =>
    cases hsend : send a with
    | ok delivery => exact .inl ⟨delivery, send, rfl, hsend⟩
    | error e => exact .inr (.inl ⟨e, send, rfl, hsend⟩)

theorem not_accepts_of_refuses {e : DeliveryError} (h : Refuses remote a e) (delivery : Delivery) :
    ¬ Accepts remote a delivery := by
  obtain ⟨send, rfl, hsend⟩ := h
  rintro ⟨other, hother, haccepted⟩
  obtain rfl := Option.some.inj hother
  cases hsend.symm.trans haccepted

/-! ### Outcomes -/

/-- A text has another one in it. -/
def Mentions (text part : String) : Prop := ∃ before after, text = before ++ part ++ after

/-- The notice of what was saved under a path: there is one just when a server failed, and it names
    the error and the path. -/
structure NoticeFor (remote : Option Remote) (a : Artifact) (path : String)
    (notice : Option String) : Prop where
  isSome_iff : notice.isSome = true ↔ ∃ e, Refuses remote a e
  mentions : ∀ text ∈ notice, ∃ e, Refuses remote a e ∧ Mentions text e.message ∧
    Mentions text path

/-- A stored artifact is read as this one. -/
def ReadAs (content : ByteArray) (a : Artifact) : Prop :=
  ∃ text, String.fromUTF8? content = some text ∧ (Json.read? text).bind ofJson? = some a

/-- The server took the artifact; nothing was touched. -/
structure HandedOver (s : Storage) (remote : Option Remote) (a : Artifact) (d : Delivered) :
    Prop where
  accepted : ∃ delivery, Accepts remote a delivery ∧ d.outcome = .ok delivery
  untouched : d.storage = s

/-- The artifact was written into the directory, under the name that its identifier gives it. -/
structure Saved (s : Storage) (remote : Option Remote) (dir : String) (a : Artifact)
    (d : Delivered) : Prop where
  unaccepted : ∀ delivery, ¬ Accepts remote a delivery
  identified : IsExperimentId a.experimentId
  outcome : ∃ notice, d.outcome = .ok (.saved (Path.join dir a.fileName) notice) ∧
    NoticeFor remote a (Path.join dir a.fileName) notice
  written : ∃ content, s.OneFileWritten d.storage dir
      ("experiment_data_" ++ a.experimentId ++ ".json") content ∧ (a.Fits → ReadAs content a)

/-- There is no artifact: no server took it, and the local half failed. With an identifier that is
    no part of a file name nothing was touched. -/
structure Lost (disk : Disk) (s : Storage) (remote : Option Remote) (dir : String) (a : Artifact)
    (d : Delivered) : Prop where
  unaccepted : ∀ delivery, ¬ Accepts remote a delivery
  failed : ∃ e, d.outcome = .error e ∧ LocalFailure disk s dir a e d.storage
  untouched : ¬ IsExperimentId a.experimentId → d.storage = s

theorem mentions_fallbackNotice (e : DeliveryError) (path : String) :
    Mentions (fallbackNotice e path) e.message ∧ Mentions (fallbackNotice e path) path := by
  have hnotice : fallbackNotice e path = "Could not save results to the server (" ++ e.message ++
      "). They were saved to " ++ path ++ " instead." := rfl
  refine ⟨⟨"Could not save results to the server (",
    "). They were saved to " ++ path ++ " instead.", ?_⟩, ⟨_, _, hnotice⟩⟩
  rw [hnotice]
  simp only [String.append_assoc]

theorem noticeFor_refuses {e : DeliveryError} (h : Refuses remote a e) (path : String) :
    NoticeFor remote a path (some (fallbackNotice e path)) where
  isSome_iff := ⟨fun _ => ⟨e, h⟩, fun _ => rfl⟩
  mentions := by
    intro text htext
    obtain rfl := Option.some.inj htext
    exact ⟨e, h, mentions_fallbackNotice e path⟩

theorem noticeFor_none (a : Artifact) (path : String) : NoticeFor none a path none where
  isSome_iff := by
    refine ⟨fun h => absurd h Bool.false_ne_true, ?_⟩
    rintro ⟨e, send, hsend, -⟩
    cases hsend
  mentions text htext := absurd htext (Option.not_mem_none text)

theorem fromUTF8?_toUTF8 (text : String) : String.fromUTF8? text.toUTF8 = some text := by
  have hvalid : ByteArray.IsValidUTF8 text.toUTF8 := text.isValidUTF8
  rw [String.fromUTF8?, dif_pos hvalid]
  rfl

/-- What is written is read as the artifact. -/
theorem readAs_text (h : a.Fits) : ReadAs a.text.toUTF8 a :=
  ⟨a.text, fromUTF8?_toUTF8 a.text, (readBack_of_ofJson? a.writable h.ofJson?_toJson).pretty⟩

theorem LocalFailure.untouched {e : DeliveryError} {after : Storage}
    (h : LocalFailure disk s dir a e after) (hid : ¬ IsExperimentId a.experimentId) :
    after = s := by
  cases h with
  | invalidId => rfl
  | directories hvalid => exact absurd hvalid hid
  | file hvalid => exact absurd hvalid hid

/-- The local half decides when no server has taken the artifact. -/
theorem saved_or_lost {d : Delivered} (hremote : ∀ delivery, ¬ Accepts remote a delivery)
    (herror : ∀ e, (a.saveOn disk s dir).outcome = .error e →
      d.outcome = .error e ∧ d.storage = (a.saveOn disk s dir).storage)
    (hsaved : ∀ path, (a.saveOn disk s dir).outcome = .ok (.saved path none) →
      d.storage = (a.saveOn disk s dir).storage ∧
        ∃ notice, d.outcome = .ok (.saved path notice) ∧ NoticeFor remote a path notice) :
    Saved s remote dir a d ∨ Lost disk s remote dir a d := by
  rcases saveOn_cases disk s dir a with ⟨e, after, hfailure, houtcome, rfl⟩ |
    ⟨hid, houtcome, made, hmake, hwrite⟩
  · obtain ⟨hd, hstorage⟩ := herror e houtcome
    exact .inr ⟨hremote, ⟨e, hd, hstorage ▸ hfailure⟩, fun hid =>
      hstorage.trans (hfailure.untouched hid)⟩
  · obtain ⟨hstorage, hd⟩ := hsaved _ houtcome
    obtain ⟨hname, hhere, habove⟩ := isName_fileName hid
    have hwritten := Storage.oneFileWritten_of_write hname hhere habove hmake hwrite
    exact .inl ⟨hremote, hid, hd, a.text.toUTF8, hstorage ▸ hwritten, readAs_text⟩

theorem handedOver_or_saved_or_lost (disk : Disk) (s : Storage) (remote : Option Remote)
    (dir : String) (a : Artifact) :
    HandedOver s remote a (a.deliverOn disk s remote dir) ∨
      Saved s remote dir a (a.deliverOn disk s remote dir) ∨
      Lost disk s remote dir a (a.deliverOn disk s remote dir) := by
  rcases remote_cases remote a with ⟨delivery, haccepts⟩ | ⟨e, hrefuses⟩ | rfl
  · rw [deliverOn_of_accepts haccepts]
    exact .inl ⟨⟨delivery, haccepts, rfl⟩, rfl⟩
  · refine .inr (saved_or_lost (not_accepts_of_refuses hrefuses) ?_ ?_)
    · exact fun e' herror => deliverOn_of_refuses_of_error hrefuses herror
    · intro path hsaved
      obtain ⟨houtcome, hstorage⟩ := deliverOn_of_refuses_of_saved hrefuses hsaved
      exact ⟨hstorage, _, houtcome, noticeFor_refuses hrefuses path⟩
  · refine .inr (saved_or_lost ?_ ?_ ?_)
    · rintro delivery ⟨send, hsend, -⟩
      cases hsend
    · exact fun e herror => ⟨herror, rfl⟩
    · exact fun path hsaved => ⟨rfl, none, hsaved, noticeFor_none a path⟩

/-- **Handing over leaves exactly one artifact, or says why there is none**, whatever the server
    answers and whatever becomes of the file operations. Exactly one of three things holds: the
    server took the artifact and nothing was touched; no server took it, and it is read back from
    the one file that was written, a child of the directory named for its identifier; or no server
    took it and the local half failed, with nothing touched when the identifier is none. -/
theorem deliverOn_exactlyOne (disk : Disk) (s : Storage) (remote : Option Remote) (dir : String)
    (a : Artifact) :
    let d := a.deliverOn disk s remote dir
    (HandedOver s remote a d ∧ ¬ Saved s remote dir a d ∧ ¬ Lost disk s remote dir a d) ∨
    (¬ HandedOver s remote a d ∧ Saved s remote dir a d ∧ ¬ Lost disk s remote dir a d) ∨
    (¬ HandedOver s remote a d ∧ ¬ Saved s remote dir a d ∧ Lost disk s remote dir a d) := by
  intro d
  have hsaved : HandedOver s remote a d → ¬ Saved s remote dir a d := by
    rintro ⟨⟨delivery, haccepts, -⟩, -⟩ h
    exact h.unaccepted delivery haccepts
  have hlost : HandedOver s remote a d → ¬ Lost disk s remote dir a d := by
    rintro ⟨⟨delivery, haccepts, -⟩, -⟩ h
    exact h.unaccepted delivery haccepts
  have hone : Saved s remote dir a d → ¬ Lost disk s remote dir a d := by
    intro h h'
    obtain ⟨notice, houtcome, -⟩ := h.outcome
    obtain ⟨e, herror, -⟩ := h'.failed
    cases houtcome.symm.trans herror
  rcases handedOver_or_saved_or_lost disk s remote dir a with h | h | h
  · exact .inl ⟨h, hsaved h, hlost h⟩
  · exact .inr (.inl ⟨fun h' => hsaved h' h, h, hone h⟩)
  · exact .inr (.inr ⟨fun h' => hlost h' h, fun h' => hone h' h, h⟩)

/-- After a server has refused an artifact without results, it is saved with a notice, and on a
    disk without room it is lost. -/
theorem deliverOn_exactlyOne_refused :
    let a : Artifact :=
      { experimentId := "exp_lx0a1b2c", timestamp := "2024-05-01T10:05:00.000Z", startedAt := none
        environmentInfo := "console", randomized := true, repetitions := 3, trials := [] }
    let s := Storage.empty ["home"]
    let remote : Option Remote := some fun _ => .error (.rejected "http://localhost/save" 500 "full")
    let full : Disk :=
      { Disk.plain with
        write := fun s _ _ => (.error (.other "No space left on device (os error 28)"), s)
        of_write := by simp }
    a.Fits ∧ Saved s remote "results" a (a.deliverOn .plain s remote "results") ∧
      Lost full s remote "results" a (a.deliverOn full s remote "results") := by
  intro a s remote full
  have hrefuses : Refuses remote a (.rejected "http://localhost/save" 500 "full") :=
    ⟨_, rfl, rfl⟩
  have hfits : a.Fits := ⟨by decide, List.forall_mem_nil _⟩
  refine ⟨hfits, ?saved, ?lost⟩
  case saved =>
    have hok : (a.deliverOn .plain s remote "results").outcome.isOk = true := by decide
    rcases deliverOn_exactlyOne .plain s remote "results" a with ⟨h, -⟩ | ⟨-, h, -⟩ | ⟨-, -, h⟩
    · obtain ⟨delivery, haccepts, -⟩ := h.accepted
      exact absurd haccepts (not_accepts_of_refuses hrefuses delivery)
    · exact h
    · obtain ⟨e, herror, -⟩ := h.failed
      rw [herror] at hok
      cases hok
  case lost =>
    have hno : (a.deliverOn full s remote "results").outcome.isOk = false := by decide
    rcases deliverOn_exactlyOne full s remote "results" a with ⟨h, -⟩ | ⟨-, h, -⟩ | ⟨-, -, h⟩
    · obtain ⟨delivery, haccepts, -⟩ := h.accepted
      exact absurd haccepts (not_accepts_of_refuses hrefuses delivery)
    · obtain ⟨notice, houtcome, -⟩ := h.outcome
      rw [houtcome] at hno
      cases hno
    · exact h

end Artifact

end TimedTrials
