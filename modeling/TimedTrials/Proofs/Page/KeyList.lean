/-
  TimedTrials/Proofs/Page/KeyList.lean
  ====================================
  **The keys that a page takes.**

  A page compares keys by itself, with the list that its payload holds. The payload has a trial
  for each instance (`Payload.sources_of_build`), and where the instance takes keys, the list
  holds the normal forms of the authored ones, in their order (`Payload.keysAt_of_build`).
-/
import TimedTrials.Json.Access
import TimedTrials.Page.Payload

namespace TimedTrials.Page

/-- The keys that a payload lists for the trial at a position. -/
def Payload.keysAt (p : Payload) (position : Nat) : List String :=
  (((p.toJson.get "trials").item position).get "response").texts "keys"

theorem trialOf_source {base : String} {source : TrialInstance} {built : Trial × List String}
    (h : trialOf base source = .ok built) : built.1.source = source := by
  rw [trialOf] at h
  cases hread : Stimulus.read source.spec.stimulus with
  | error e =>
    rw [hread] at h
    cases h
  | ok s =>
    rw [hread] at h
    cases h
    rfl

theorem mapM_trialOf_source {base : String} {sequence : List TrialInstance}
    {built : List (Trial × List String)} (h : sequence.mapM (trialOf base) = .ok built) :
    built.map (·.1.source) = sequence := by
  induction sequence generalizing built with
  | nil =>
    cases h
    rfl
  | cons source sequence ih =>
    rw [List.mapM_cons] at h
    cases hfirst : trialOf base source with
    | error e =>
      rw [hfirst] at h
      cases h
    | ok first =>
      cases hrest : sequence.mapM (trialOf base) with
      | error e =>
        rw [hfirst, hrest] at h
        cases h
      | ok rest =>
        rw [hfirst, hrest] at h
        cases h
        rw [List.map_cons, trialOf_source hfirst, ih hrest]

/-- A payload has a trial for each instance, in their order. -/
theorem Payload.sources_of_build {sequence : List TrialInstance} {settings : Settings}
    {payload : Payload} (h : Payload.build sequence settings = .ok payload) :
    payload.trials.map (·.source) = sequence := by
  rw [Payload.build] at h
  cases hbuilt : sequence.mapM (trialOf settings.imageBase) with
  | error e =>
    rw [hbuilt] at h
    cases h
  | ok built =>
    rw [hbuilt] at h
    cases h
    rw [List.map_map]
    exact mapM_trialOf_source hbuilt

theorem Trial.get_response (t : Trial) :
    t.toJson.get "response" = responseJson t.source.spec.response := by
  cases hgrouping : t.source.grouping <;>
    simp [Trial.toJson, Json.get, Json.field?, hgrouping, Grouping.fields]

theorem texts_responseJson (tokens : List String) :
    (responseJson (.keys tokens)).texts "keys" = tokens.map Key.normal := by
  simp [responseJson, Json.texts, Json.itemsOf, Json.get, Json.field?, Json.list, Json.items,
    Function.comp_def, Json.asText, Json.str?]

/-- A payload lists the normal forms of the authored keys. -/
theorem Payload.keysAt_of_build {sequence : List TrialInstance} {settings : Settings}
    {payload : Payload} (h : Payload.build sequence settings = .ok payload) {position : Nat}
    {trial : TrialInstance} (htrial : sequence[position]? = some trial) {tokens : List String}
    (hkeys : trial.spec.response = .keys tokens) :
    payload.keysAt position = tokens.map Key.normal := by
  rw [← Payload.sources_of_build h, List.getElem?_map] at htrial
  obtain ⟨shown, hshown, rfl⟩ := Option.map_eq_some_iff.mp htrial
  have hitem : (payload.toJson.get "trials").item position = shown.toJson := by
    simp [Payload.toJson, Json.get, Json.field?, Json.item, Json.items, Json.list, hshown]
  rw [Payload.keysAt, hitem, Trial.get_response, hkeys, texts_responseJson]

end TimedTrials.Page
