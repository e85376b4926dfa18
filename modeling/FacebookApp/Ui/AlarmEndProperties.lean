import FacebookApp.Ui.AlarmAccountProperties

/-!
# The end of the alarm list

Once the end is announced there is nothing left to load: later calls of
`readMore` withdraw the announcement for the time of an empty load and change
neither the entries nor what was published of them.
-/

set_option autoImplicit false

namespace FacebookApp

open Dart

namespace AlarmPage

def markReads (reads : List Bool) (pressed : List Nat) : List Bool :=
  pressed.foldl (fun reads index => reads.set index true) reads

theorem flags_markAll (alarms : List AlarmData) (pressed : List Nat) :
    (markAll alarms pressed).map (·.isRead) = markReads (alarms.map (·.isRead)) pressed := by
  unfold markAll markReads
  induction pressed generalizing alarms with
  | nil => rfl
  | cons index pressed ih => simp only [List.foldl_cons, ih, flags_modify]

section Account

variable {alarms : List AlarmData} {loads : Nat} {tiles : List Nat} {page : AlarmPage}

theorem Account.isEnd_iff (account : Account alarms loads tiles page) :
    page.store.bloc.isEnd.value? = some true ↔ page.pending = [] ∧ 4 ≤ loads := by
  have pending := account.pending
  rw [account.isEnd, ← List.length_eq_zero_iff, pending]
  cases page.store.bloc.isLoading <;> simp

/-- After the fourth load a completed load adds nothing. -/
theorem Account.entries_of_end {further : Nat} {tiles' : List Nat} {later : AlarmPage}
    (account : Account alarms loads tiles page) (ended : 4 ≤ loads)
    (account' : Account alarms (loads + further) (tiles ++ tiles') later) :
    later.store.alarms = markAll page.store.alarms tiles' := by
  have same : loadedEntries (loads + further) = loadedEntries loads := by
    unfold loadedEntries
    omega
  rw [account'.entries, same, account.entries]
  simp only [markAll, List.foldl_append]

end Account

/-- In every state after the end was announced the entries, the published length
and the published flags are those of that moment, with the read marks of the
presses in between; and the end is announced unless a load is pending. -/
theorem end_is_final_unless_loading (alarms : List AlarmData) (lists : Heap (List Bool))
    {events rest : List Event} {page later : AlarmPage}
    (ran : system.run (opened alarms lists) events = some page)
    (ended : page.store.bloc.isEnd.value? = some true)
    (ranOn : system.run page rest = some later) :
    later.store.alarms = markAll page.store.alarms (pressedTiles rest) ∧
    later.store.bloc.alarmLength.value? = page.store.bloc.alarmLength.value? ∧
    later.store.publishedReads =
      page.store.publishedReads.map (markReads · (pressedTiles rest)) ∧
    (later.store.bloc.isEnd.value? = some true ↔ later.pending = []) := by
  have account := account_of_run ran
  have account' := account_of_run (EventSystem.run_append_iff.mpr ⟨page, ran, ranOn⟩)
  have loads : completedLoads (events ++ rest) = completedLoads events + completedLoads rest :=
    List.countP_append
  have tiles : pressedTiles (events ++ rest) = pressedTiles events ++ pressedTiles rest :=
    List.filterMap_append
  rw [loads, tiles] at account'
  have enough : 4 ≤ completedLoads events := (account.isEnd_iff.mp ended).2
  have entries := account.entries_of_end enough account'
  refine ⟨entries, ?_, ?_, ?_⟩
  · rw [account'.ready.alarmLength, account.ready.alarmLength, entries, length_markAll]
  · rw [account'.ready.agree.publishedReads_eq, account.ready.agree.publishedReads_eq,
      AlarmStore.flags, entries, flags_markAll]
    rfl
  · rw [account'.isEnd_iff]
    exact and_iff_left (by omega)

/-- Four loads in a row, the last of which finds nothing. -/
def loadsToEnd : List Event :=
  [.readMore, .elapse 2000, .resume 0, .readMore, .elapse 2000, .resume 1, .readMore,
    .elapse 2000, .resume 2, .readMore, .elapse 2000, .resume 3]

theorem end_is_final_unless_loading_pressed :
    ∃ page later, system.run (opened initialAlarms (Heap.empty [])) loadsToEnd = some page ∧
      system.run page [.readMore, .press 20, .elapse 2000, .resume 4] = some later ∧
      later.store.alarms = markAll page.store.alarms [20] ∧
      (later.store.bloc.isEnd.value? = some true ↔ later.pending = []) := by
  have reached : (system.run (opened initialAlarms (Heap.empty [])) loadsToEnd).bind
      (fun page => (system.run page [.readMore, .press 20, .elapse 2000, .resume 4]).map
        fun _ => page.store.bloc.isEnd.value?) = some (some true) := by
    decide +kernel
  obtain ⟨page, ran, ranOn⟩ := Option.bind_eq_some_iff.mp reached
  obtain ⟨later, ranOn, ended⟩ := Option.map_eq_some_iff.mp ranOn
  obtain ⟨entries, _, _, isEnd⟩ := end_is_final_unless_loading _ _ ran ended ranOn
  exact ⟨page, later, ran, ranOn, entries, isEnd⟩

/-- The next call of `readMore` publishes that the end is not reached. -/
theorem end_can_be_withdrawn :
    ¬ ∀ (events rest : List Event) (page later : AlarmPage),
      system.run (opened initialAlarms (Heap.empty [])) events = some page →
      page.store.bloc.isEnd.value? = some true → system.run page rest = some later →
      later.store.bloc.isEnd.value? = some true := by
  intro always
  have reached : (system.run (opened initialAlarms (Heap.empty [])) loadsToEnd).bind
      (fun page => (system.run page [.readMore]).map fun later =>
        (page.store.bloc.isEnd.value?, later.store.bloc.isEnd.value?)) =
      some (some true, some false) := by
    decide +kernel
  obtain ⟨page, ran, ranOn⟩ := Option.bind_eq_some_iff.mp reached
  obtain ⟨later, ranOn, observed⟩ := Option.map_eq_some_iff.mp ranOn
  simp only [Prod.mk.injEq] at observed
  have announced := always _ _ page later ran observed.1 ranOn
  rw [observed.2] at announced
  cases announced

end AlarmPage

end FacebookApp
