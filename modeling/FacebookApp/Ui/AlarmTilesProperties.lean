import FacebookApp.Components.AlarmTileBottomSheet
import FacebookApp.Ui.AlarmAccountProperties

/-!
# The sentences of an alarm page

Neither loading nor reading changes what the tiles say. A tile or its sheet fails to be
built only for an entry that was already in the list when the page was opened and that
lacks its images.
-/

set_option autoImplicit false

namespace FacebookApp

open Dart

/-- The tile and its sheet are both built, with the same text. -/
def AlarmData.IsWritten (alarm : AlarmData) : Prop :=
  ∃ spans, AlarmTile.text alarm = .ok spans ∧ AlarmTileBottomSheet.text alarm = .ok spans

namespace AlarmData

theorem whatPosted_cases (alarm : AlarmData) :
    alarm.HasImages ∧ (∃ posted, alarm.whatPosted = .ok posted) ∨
      ¬ alarm.HasImages ∧ alarm.whatPosted = .error .nullCheckError := by
  unfold HasImages whatPosted
  cases alarm.postType with
  | image =>
      cases alarm.images with
      | none => exact .inr ⟨by simp, rfl⟩
      | some images => exact .inl ⟨by simp, _, rfl⟩
  | video | onlyText => exact .inl ⟨by simp, _, rfl⟩

theorem exists_text_iff (alarm : AlarmData) :
    (∃ spans, AlarmTile.text alarm = .ok spans) ↔ alarm.HasImages := by
  simp only [AlarmTile.text, AlarmTile.writeWhatPosted, sentence]
  rcases alarm.whatPosted_cases with ⟨hasImages, posted, written⟩ | ⟨lacksImages, thrown⟩
  · rw [written]
    exact iff_of_true ⟨_, rfl⟩ hasImages
  · rw [thrown]
    refine iff_of_false ?_ lacksImages
    rintro ⟨spans, built⟩
    cases built

/-- The sheet has the code of the tile once more. -/
theorem isWritten_iff (alarm : AlarmData) :
    alarm.IsWritten ↔ ∃ spans, AlarmTile.text alarm = .ok spans :=
  exists_congr fun _ => and_self_iff

end AlarmData

namespace AlarmPage

/-- What the tiles of a page say is what the entries it was opened with and the entries
loaded since say, and none fails to be built exactly if all entries it was opened with
have their images. -/
theorem tiles_are_written_iff (alarms : List AlarmData) (lists : Heap (List Bool))
    {events : List Event} {page : AlarmPage}
    (ran : system.run (opened alarms lists) events = some page) :
    page.store.alarms.map AlarmTile.text =
        (alarms ++ testTiles (loadedEntries (completedLoads events))).map AlarmTile.text ∧
      ((∀ alarm ∈ page.store.alarms, alarm.IsWritten) ↔
        ∀ alarm ∈ alarms, alarm.HasImages) := by
  have same : page.store.alarms.map AlarmTile.text =
      (alarms ++ testTiles (loadedEntries (completedLoads events))).map AlarmTile.text := by
    rw [(account_of_run ran).entries, map_markAll (fun _ => rfl)]
  refine ⟨same, ?_⟩
  have written (entries : List AlarmData) : (∀ alarm ∈ entries, alarm.IsWritten) ↔
      ∀ text ∈ entries.map AlarmTile.text, ∃ spans, text = .ok spans := by
    simp [AlarmData.isWritten_iff]
  rw [written, same, ← written]
  simp only [AlarmData.isWritten_iff, AlarmData.exists_text_iff, List.mem_append]
  constructor
  · exact fun all alarm member => all alarm (.inl member)
  · rintro all alarm (member | isTile)
    · exact all alarm member
    · obtain ⟨count, _, rfl⟩ := List.mem_map.mp isTile
      exact nofun

/-- An entry whose tile counts its images. -/
def albumAlarm : AlarmData where
  user := "Hardwell"
  userType := .individualPerson
  uid := "asdfqwer"
  postType := .image
  content := "New York City"
  images := some ["1", "2", "3"]
  timeStamp := 1663725600 * 1000
  isRead := false

theorem tiles_are_written_iff_initial :
    ∃ page, system.run (opened (albumAlarm :: initialAlarms) (.empty []))
        [.press 0, .readMore, .elapse 2000, .resume 0] = some page ∧
      ∀ alarm ∈ page.store.alarms, alarm.IsWritten := by
  have ran : system.run (opened (albumAlarm :: initialAlarms) (.empty []))
      [.press 0, .readMore, .elapse 2000, .resume 0] = some _ := rfl
  exact ⟨_, ran,
    (tiles_are_written_iff (albumAlarm :: initialAlarms) (.empty []) ran).2.mpr (by decide)⟩

end AlarmPage

end FacebookApp
