import FacebookApp.Ui.AlarmAccountProperties
import FacebookApp.Ui.AlarmSessions

/-!
# What one session leaves to the next

The first view of a new bloc after a history of sessions, and when two histories
cannot be told apart by it.
-/

set_option autoImplicit false

namespace FacebookApp

open Dart

namespace AlarmMemory

theorem firstView_eq (memory : AlarmMemory) :
    memory.firstView =
      (some memory.alarms.length, some (memory.alarms.map (·.isRead))) := by
  have account := AlarmPage.account_opened memory.alarms memory.lists
  have entries : (AlarmPage.opened memory.alarms memory.lists).store.alarms = memory.alarms := by
    simpa [AlarmPage.loadedEntries, AlarmPage.testTiles, AlarmPage.markAll] using account.entries
  have length := account.ready.alarmLength
  rw [firstView, length, account.ready.agree.publishedReads_eq, AlarmStore.flags, entries]

structure SessionEnded (memory after : AlarmMemory) (events : List AlarmPage.Event) :
    Prop where
  length : after.alarms.length = memory.alarms.length +
    AlarmPage.loadedEntries (AlarmPage.completedLoads events)
  read : ∀ index, (after.alarms.map (·.isRead))[index]? = some true ↔
    (memory.alarms.map (·.isRead))[index]? = some true ∨
      index ∈ AlarmPage.pressedTiles events

theorem sessionEnded_of_step {memory after : AlarmMemory} {events : List AlarmPage.Event}
    (stepped : system.step memory events = some after) : SessionEnded memory after events := by
  cases ran : AlarmPage.system.run (AlarmPage.opened memory.alarms memory.lists) events with
  | none => simp [system, session, ran] at stepped
  | some page =>
      simp only [system, session, ran, Option.ite_none_right_eq_some, Option.some.injEq] at stepped
      obtain ⟨_, rfl⟩ := stepped
      have account := AlarmPage.account_of_run ran
      have kept : (finalStore (AlarmBloc.dispose.run page.store)).alarms = page.store.alarms := rfl
      constructor
      · rw [kept, account.entries]
        simp [AlarmPage.testTiles]
      · intro index
        rw [kept]
        exact account.flag_iff index

theorem history_effect {memory after : AlarmMemory} {history : List (List AlarmPage.Event)}
    (ran : system.run memory history = some after) :
    after.alarms.length = memory.alarms.length + totalLoaded history ∧
      ∀ index, (after.alarms.map (·.isRead))[index]? = some true ↔
        MarkedRead memory history index := by
  refine EventSystem.run_induction (motive := fun history after =>
    after.alarms.length = memory.alarms.length + totalLoaded history ∧
      ∀ index, (after.alarms.map (·.isRead))[index]? = some true ↔
        MarkedRead memory history index) ?_ ?_ ran
  · simp [totalLoaded, MarkedRead]
  · rintro history middle events after _ ⟨length, read⟩ stepped
    have ended := sessionEnded_of_step stepped
    constructor
    · rw [ended.length, length]
      simp [totalLoaded, Nat.add_assoc]
    · intro index
      rw [ended.read, read]
      simp [MarkedRead, or_and_right, exists_or, or_assoc]

theorem eq_of_true_iff {left right : List Bool} (length : left.length = right.length)
    (same : ∀ index : Nat, left[index]? = some true ↔ right[index]? = some true) :
    left = right := by
  apply List.ext_getElem length
  intro index inLeft inRight
  have agree := same index
  simp only [List.getElem?_eq_getElem inLeft, List.getElem?_eq_getElem inRight,
    Option.some.injEq] at agree
  exact Bool.eq_iff_iff.mpr agree

/-- A new bloc shows the same after two histories exactly when they loaded equally
many entries and left the same entries marked as read. -/
theorem firstView_eq_iff (memory : AlarmMemory) {left right : List (List AlarmPage.Event)}
    {afterLeft afterRight : AlarmMemory}
    (ranLeft : system.run memory left = some afterLeft)
    (ranRight : system.run memory right = some afterRight) :
    afterLeft.firstView = afterRight.firstView ↔
      totalLoaded left = totalLoaded right ∧
        ∀ index, MarkedRead memory left index ↔ MarkedRead memory right index := by
  obtain ⟨lengthLeft, readLeft⟩ := history_effect ranLeft
  obtain ⟨lengthRight, readRight⟩ := history_effect ranRight
  rw [firstView_eq, firstView_eq, Prod.mk.injEq, Option.some.injEq, Option.some.injEq]
  constructor
  · rintro ⟨length, flags⟩
    refine ⟨by omega, ?_⟩
    intro index
    rw [← readLeft, ← readRight, flags]
  · rintro ⟨loaded, marked⟩
    have length : afterLeft.alarms.length = afterRight.alarms.length := by omega
    refine ⟨length, eq_of_true_iff (by simpa using length) ?_⟩
    intro index
    rw [readLeft, readRight]
    exact marked index

theorem firstView_eq_iff_reordered :
    ∃ afterLeft afterRight,
      system.run ⟨initialAlarms, Heap.empty []⟩ [[.press 0], [.press 3]] = some afterLeft ∧
      system.run ⟨initialAlarms, Heap.empty []⟩ [[.press 3, .build, .press 0]] =
        some afterRight ∧
      afterLeft.firstView = afterRight.firstView := by
  obtain ⟨afterLeft, ranLeft⟩ : ∃ after,
      system.run ⟨initialAlarms, Heap.empty []⟩ [[.press 0], [.press 3]] = some after :=
    Option.isSome_iff_exists.mp (by decide +kernel)
  obtain ⟨afterRight, ranRight⟩ : ∃ after,
      system.run ⟨initialAlarms, Heap.empty []⟩ [[.press 3, .build, .press 0]] = some after :=
    Option.isSome_iff_exists.mp (by decide +kernel)
  refine ⟨afterLeft, afterRight, ranLeft, ranRight,
    (firstView_eq_iff _ ranLeft ranRight).mpr ⟨rfl, ?_⟩⟩
  intro index
  simp [MarkedRead, AlarmPage.pressedTiles, AlarmPage.Event.pressed?, or_comm]

/-- A read mark and a load of an earlier session show in the next one. -/
theorem firstView_depends_on_history :
    ∃ afterNone afterOne,
      system.run ⟨initialAlarms, Heap.empty []⟩ [] = some afterNone ∧
      system.run ⟨initialAlarms, Heap.empty []⟩
        [[.press 0, .readMore, .elapse 2000, .resume 0]] = some afterOne ∧
      afterNone.firstView = (some 6, some [false, false, false, false, false, false]) ∧
      afterOne.firstView = (some 11, some [true, false, false, false, false, false,
        false, false, false, false, false]) := by
  have shown : ((system.run ⟨initialAlarms, Heap.empty []⟩
      [[.press 0, .readMore, .elapse 2000, .resume 0]]).map firstView) =
      some (some 11, some [true, false, false, false, false, false,
        false, false, false, false, false]) := by
    decide +kernel
  obtain ⟨afterOne, ran, view⟩ := Option.map_eq_some_iff.mp shown
  exact ⟨_, afterOne, rfl, ran, by decide +kernel, view⟩

end AlarmMemory

end FacebookApp
