import FacebookApp.Bloc.AlarmBloc

/-!
# Properties of the alarm bloc

What the programs of an open bloc do to the store, and the agreement of the read
flags that they keep up.
-/

set_option autoImplicit false

namespace FacebookApp

open Dart

/-! ## Entries -/

theorem parseIsReadsToList_eq (temp : List Bool) (alarms : List AlarmData) :
    AlarmBloc.parseIsReadsToList temp alarms = temp ++ alarms.map (·.isRead) := by
  unfold AlarmBloc.parseIsReadsToList
  induction alarms generalizing temp with
  | nil => simp
  | cons alarm alarms ih => simp [ih]

@[simp] theorem isRead_testTile (count : Nat) : (testTile count).isRead = false := rfl

@[simp] theorem isRead_read (alarm : AlarmData) : alarm.read.isRead = true := rfl

namespace AlarmStore

def flags (store : AlarmStore) : List Bool := store.alarms.map (·.isRead)

@[simp] theorem length_flags (store : AlarmStore) :
    store.flags.length = store.alarms.length := by
  simp [flags]

@[simp] theorem tempList_assignTemp (elements : List Bool) (store : AlarmStore) :
    (store.assignTemp elements).tempList = elements := by
  simp [tempList, assignTemp]

@[simp] theorem flags_assignTemp (elements : List Bool) (store : AlarmStore) :
    (store.assignTemp elements).flags = store.flags := rfl

structure Open (store : AlarmStore) : Prop where
  scrollOffset : store.bloc.scrollOffset.isClosed = false
  alarmLength : store.bloc.alarmLength.isClosed = false
  isEnd : store.bloc.isEnd.isClosed = false
  isReads : store.bloc.isReads.isClosed = false

/-- Scratch list and published list both hold the read flags of the entries. -/
structure FlagsAgree (store : AlarmStore) : Prop where
  temp : store.tempList = store.flags
  tempAllocated : store.bloc.temp < store.lists.next
  published : ∃ list, store.bloc.isReads.value? = some list ∧ list < store.lists.next ∧
    store.lists.object list = store.flags

theorem FlagsAgree.publishedReads_eq {store : AlarmStore} (agree : store.FlagsAgree) :
    store.publishedReads = some store.flags := by
  obtain ⟨list, isList, _, contents⟩ := agree.published
  simp [publishedReads, isList, contents]

def republished (store : AlarmStore) : AlarmStore :=
  { store with
    lists := (store.lists.allocate []).allocate store.flags
    bloc := { store.bloc with
      temp := store.lists.next + 1
      isReads := store.bloc.isReads.emit (store.lists.next + 1) } }

def tileAdded (store : AlarmStore) : AlarmStore :=
  republished { store with
    alarms := store.alarms ++ [testTile store.bloc.count]
    bloc := { store.bloc with count := store.bloc.count + 1 } }

def branchTaken (store : AlarmStore) : AlarmStore :=
  let taken := { store with
    bloc := { store.bloc with readMoreCount := store.bloc.readMoreCount - 1 } }
  if store.bloc.readMoreCount > 0 then tileAdded^[5] taken
  else { taken with bloc := { taken.bloc with isEnd := taken.bloc.isEnd.emit true } }

def loaded (store : AlarmStore) : AlarmStore :=
  { store.branchTaken with
    bloc := { store.branchTaken.bloc with
      alarmLength :=
        store.branchTaken.bloc.alarmLength.emit store.branchTaken.alarms.length
      isLoading := false } }

def initialized (store : AlarmStore) : AlarmStore :=
  republished { store with
    bloc := { store.bloc with
      alarmLength := store.bloc.alarmLength.emit store.alarms.length
      isEnd := store.bloc.isEnd.emit false } }

def loading (store : AlarmStore) : AlarmStore :=
  { store with
    bloc := { store.bloc with
      isLoading := true
      isEnd := store.bloc.isEnd.emit false } }

theorem Open.tileAdded {store : AlarmStore} (isOpen : store.Open) : store.tileAdded.Open :=
  ⟨isOpen.1, isOpen.2, isOpen.3, isOpen.4⟩

theorem Open.loading {store : AlarmStore} (isOpen : store.Open) : store.loading.Open :=
  ⟨isOpen.1, isOpen.2, isOpen.3, isOpen.4⟩

theorem flagsAgree_republished (store : AlarmStore) : store.republished.FlagsAgree where
  temp := by simp [tempList, republished, flags, Heap.allocate]
  tempAllocated := by simp [republished]
  published := ⟨store.lists.next + 1, by simp [republished, flags, Heap.allocate]⟩

theorem flagsAgree_tileAdded (store : AlarmStore) : store.tileAdded.FlagsAgree :=
  flagsAgree_republished _

end AlarmStore

/-! ## Programs of an open bloc -/

namespace AlarmBloc

theorem run_updateScrollOffset (store : AlarmStore)
    (isOpen : store.bloc.scrollOffset.isClosed = false) (offset : ℚ) :
    (updateScrollOffset offset).run store = .ok () { store with
      bloc := { store.bloc with scrollOffset := store.bloc.scrollOffset.emit offset } } :=
  Cell.run_add_open scrollOffsetCell isOpen offset

theorem run_updateAlarmLength (store : AlarmStore)
    (isOpen : store.bloc.alarmLength.isClosed = false) (length : Nat) :
    (updateAlarmLength length).run store = .ok () { store with
      bloc := { store.bloc with alarmLength := store.bloc.alarmLength.emit length } } :=
  Cell.run_add_open alarmLengthCell isOpen length

theorem run_updateIsEnd (store : AlarmStore)
    (isOpen : store.bloc.isEnd.isClosed = false) (isEnd : Bool) :
    (updateIsEnd isEnd).run store = .ok () { store with
      bloc := { store.bloc with isEnd := store.bloc.isEnd.emit isEnd } } :=
  Cell.run_add_open isEndCell isOpen isEnd

theorem run_updateIsReads (store : AlarmStore)
    (isOpen : store.bloc.isReads.isClosed = false) (list : Reference) :
    (updateIsReads list).run store = .ok () { store with
      bloc := { store.bloc with isReads := store.bloc.isReads.emit list } } :=
  Cell.run_add_open isReadsCell isOpen list

theorem run_publishIsReads {store : AlarmStore}
    (isOpen : store.bloc.isReads.isClosed = false) :
    publishIsReads.run store = .ok () store.republished := by
  have assigned := run_updateIsReads ((store.assignTemp []).assignTemp store.flags) isOpen
    (store.lists.next + 1)
  simp only [publishIsReads, clearTemp, setTemp, EStateM.run_bind, EStateM.run_modify,
    EStateM.run_get, AlarmStore.tempList_assignTemp, parseIsReadsToList_eq, List.nil_append]
  exact assigned

theorem run_addTile {store : AlarmStore} (isOpen : store.bloc.isReads.isClosed = false) :
    addTile.run store = .ok () store.tileAdded := by
  simp only [addTile, EStateM.run_bind, EStateM.run_modify]
  exact run_publishIsReads isOpen

theorem run_addTiles (rounds : Nat) {store : AlarmStore}
    (isOpen : store.bloc.isReads.isClosed = false) :
    (addTiles rounds).run store = .ok () (AlarmStore.tileAdded^[rounds] store) := by
  induction rounds generalizing store with
  | zero => rfl
  | succ rounds ih =>
      simp only [addTiles, EStateM.run_bind, run_addTile isOpen, Function.iterate_succ_apply]
      exact ih isOpen

end AlarmBloc

/-! ## Loads -/

namespace AlarmStore

structure TilesAdded (rounds : Nat) (before after : AlarmStore) : Prop where
  alarms : after.alarms =
    before.alarms ++ (List.range rounds).map fun round => testTile (before.bloc.count + round)
  count : after.bloc.count = before.bloc.count + rounds
  readMoreCount : after.bloc.readMoreCount = before.bloc.readMoreCount
  isEnd : after.bloc.isEnd = before.bloc.isEnd
  alarmLength : after.bloc.alarmLength = before.bloc.alarmLength
  isOpen : before.Open → after.Open
  agree : before.FlagsAgree → after.FlagsAgree

theorem tilesAdded_iterate (rounds : Nat) (store : AlarmStore) :
    TilesAdded rounds store (tileAdded^[rounds] store) := by
  induction rounds with
  | zero => exact ⟨by simp, rfl, rfl, rfl, rfl, id, id⟩
  | succ rounds ih =>
      rw [Function.iterate_succ_apply']
      refine ⟨?_, ?_, ih.readMoreCount, ih.isEnd, ih.alarmLength, ?_, ?_⟩
      · simp [tileAdded, republished, ih.alarms, ih.count, List.range_succ]
      · simp [tileAdded, republished, ih.count, Nat.add_assoc]
      · exact fun isOpen => (ih.isOpen isOpen).tileAdded
      · exact fun _ => flagsAgree_tileAdded _

def nextTiles (store : AlarmStore) : List AlarmData :=
  if store.bloc.readMoreCount > 0 then
    (List.range 5).map fun round => testTile (store.bloc.count + round)
  else []

/-- What the completion of a load does. -/
structure LoadCompleted (before after : AlarmStore) : Prop where
  alarms : after.alarms = before.alarms ++ before.nextTiles
  count : after.bloc.count = before.bloc.count + before.nextTiles.length
  readMoreCount : after.bloc.readMoreCount = before.bloc.readMoreCount - 1
  isLoading : after.bloc.isLoading = false
  isEnd : after.bloc.isEnd.value? =
    if before.bloc.readMoreCount > 0 then before.bloc.isEnd.value? else some true
  alarmLength : after.bloc.alarmLength.value? = some after.alarms.length
  isOpen : before.Open → after.Open
  agree : before.FlagsAgree → after.FlagsAgree

theorem loadCompleted_loaded (store : AlarmStore) : LoadCompleted store store.loaded := by
  by_cases more : store.bloc.readMoreCount > 0
  · have added := tilesAdded_iterate 5 { store with
      bloc := { store.bloc with readMoreCount := store.bloc.readMoreCount - 1 } }
    have taken : store.branchTaken = tileAdded^[5] { store with
        bloc := { store.bloc with readMoreCount := store.bloc.readMoreCount - 1 } } := by
      simp only [branchTaken, if_pos more]
    rw [← taken] at added
    refine ⟨?_, ?_, added.readMoreCount, rfl, ?_, BehaviorSubject.value?_emit _ _, ?_, ?_⟩
    · simp only [loaded, nextTiles, if_pos more]
      exact added.alarms
    · simp only [loaded, nextTiles, if_pos more, List.length_map, List.length_range]
      exact added.count
    · simp [loaded, added.isEnd, more]
    · intro isOpen
      have stillOpen := added.isOpen ⟨isOpen.1, isOpen.2, isOpen.3, isOpen.4⟩
      exact ⟨stillOpen.1, stillOpen.2, stillOpen.3, stillOpen.4⟩
    · intro agree
      have agreeing := added.agree ⟨agree.temp, agree.tempAllocated, agree.published⟩
      exact ⟨agreeing.temp, agreeing.tempAllocated, agreeing.published⟩
  · have taken : store.branchTaken = { store with
        bloc := { store.bloc with
          readMoreCount := store.bloc.readMoreCount - 1
          isEnd := store.bloc.isEnd.emit true } } := by
      simp only [branchTaken, if_neg more]
    refine ⟨?_, ?_, ?_, rfl, ?_, BehaviorSubject.value?_emit _ _, ?_, ?_⟩ <;>
      simp only [loaded, taken]
    · simp [nextTiles, more]
    · simp [nextTiles, more]
    · simp [more]
    · exact fun isOpen => ⟨isOpen.1, isOpen.2, isOpen.3, isOpen.4⟩
    · exact fun agree => ⟨agree.temp, agree.tempAllocated, agree.published⟩

end AlarmStore

namespace AlarmBloc

open AlarmStore (Open)

theorem run_extendOrEnd {store : AlarmStore} (isOpen : store.Open) :
    extendOrEnd.run store = .ok () store.branchTaken := by
  simp only [extendOrEnd, EStateM.run_bind, EStateM.run_get, EStateM.run_modify]
  by_cases more : store.bloc.readMoreCount > 0
  · simp only [if_pos more, AlarmStore.branchTaken]
    exact run_addTiles 5 isOpen.isReads
  · simp only [if_neg more, AlarmStore.branchTaken]
    apply run_updateIsEnd
    exact isOpen.isEnd

theorem run_whenLoaded {store : AlarmStore} (isOpen : store.Open) :
    whenLoaded.run store = .ok () store.loaded := by
  have loadedOpen := (AlarmStore.loadCompleted_loaded store).isOpen isOpen
  have announced := run_updateAlarmLength store.branchTaken loadedOpen.alarmLength
    store.branchTaken.alarms.length
  simp only [whenLoaded, EStateM.run_bind, run_extendOrEnd isOpen, EStateM.run_get, announced]
  rfl

theorem run_init {store : AlarmStore} (isOpen : store.Open) :
    init.run store = .ok () store.initialized := by
  have announced := run_updateAlarmLength store isOpen.alarmLength store.alarms.length
  have begun := run_updateIsEnd { store with
    bloc := { store.bloc with
      alarmLength := store.bloc.alarmLength.emit store.alarms.length } } isOpen.isEnd false
  simp only [init, EStateM.run_bind, EStateM.run_get, announced, begun]
  apply run_publishIsReads
  exact isOpen.isReads

theorem run_readMore_idle {store : AlarmStore} (isOpen : store.Open)
    (idle : store.bloc.isLoading = false) :
    readMore.run store = .ok (some ((), 2000)) store.loading := by
  have ended := run_updateIsEnd { store with bloc := { store.bloc with isLoading := true } }
    isOpen.isEnd false
  simp only [readMore, EStateM.run_bind, EStateM.run_get, idle, Bool.not_false, if_true,
    EStateM.run_modify, ended]
  rfl

theorem run_readMore_busy {store : AlarmStore} (busy : store.bloc.isLoading = true) :
    readMore.run store = .ok none store := by
  simp [readMore, busy]

theorem run_resumeReadMore {store : AlarmStore} (isOpen : store.Open) :
    (resumeReadMore ()).run store = .ok none store.loaded := by
  simp only [resumeReadMore, EStateM.run_bind, run_whenLoaded isOpen]
  rfl

/-! ## Programs of a disposed bloc -/

structure ClosedAs (bloc : AlarmBloc) (closed : Bool) : Prop where
  scrollOffset : bloc.scrollOffset.isClosed = closed
  alarmLength : bloc.alarmLength.isClosed = closed
  isEnd : bloc.isEnd.isClosed = closed
  isReads : bloc.isReads.isClosed = closed

theorem run_updateIsReads_closed (store : AlarmStore)
    (closed : store.bloc.isReads.isClosed = true) (list : Reference) :
    (updateIsReads list).run store = .error .stateError store :=
  Cell.run_add_closed isReadsCell closed list

theorem run_updateIsEnd_closed (store : AlarmStore)
    (closed : store.bloc.isEnd.isClosed = true) (isEnd : Bool) :
    (updateIsEnd isEnd).run store = .error .stateError store :=
  Cell.run_add_closed isEndCell closed isEnd

theorem run_addTile_closed (store : AlarmStore)
    (closed : store.bloc.isReads.isClosed = true) :
    ∃ after, addTile.run store = .error .stateError after := by
  simp only [addTile, publishIsReads, clearTemp, setTemp, EStateM.run_bind, EStateM.run_modify,
    EStateM.run_get]
  refine ⟨_, run_updateIsReads_closed _ ?_ _⟩
  exact closed

/-- A load that completes after `dispose` throws, on either branch. -/
theorem run_resumeReadMore_closed (store : AlarmStore) (closed : store.bloc.ClosedAs true) :
    ∃ after, (resumeReadMore ()).run store = .error .stateError after := by
  have thrown : ∃ after, extendOrEnd.run store = .error .stateError after := by
    simp only [extendOrEnd, EStateM.run_bind, EStateM.run_get, EStateM.run_modify]
    split
    · obtain ⟨after, ran⟩ := run_addTile_closed { store with
        bloc := { store.bloc with readMoreCount := store.bloc.readMoreCount - 1 } }
        closed.isReads
      simp only [addTiles, EStateM.run_bind, ran]
      exact ⟨_, rfl⟩
    · refine ⟨_, run_updateIsEnd_closed _ ?_ true⟩
      exact closed.isEnd
  obtain ⟨after, ran⟩ := thrown
  refine ⟨after, ?_⟩
  simp only [resumeReadMore, whenLoaded, EStateM.run_bind, ran]

theorem run_readMore_closed {store : AlarmStore} (closed : store.bloc.ClosedAs true)
    (idle : store.bloc.isLoading = false) :
    readMore.run store = .error .stateError
      { store with bloc := { store.bloc with isLoading := true } } := by
  have thrown := run_updateIsEnd_closed
    { store with bloc := { store.bloc with isLoading := true } } closed.isEnd false
  simp only [readMore, EStateM.run_bind, EStateM.run_get, idle, Bool.not_false, if_true,
    EStateM.run_modify, thrown]

end AlarmBloc

end FacebookApp
