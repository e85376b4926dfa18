import FacebookApp.Ui.AlarmPageProperties

/-!
# The account of an alarm page

What the completed loads and the pressed tiles of a run say about the state it
ends in: the entries, the counters, the end flag, and the read marks.
-/

set_option autoImplicit false

namespace FacebookApp

open Dart

namespace AlarmPage

/-- The books of a page that was opened on `alarms`, completed `loads` loads and
had the tiles `pressed` pressed. -/
structure Account (alarms : List AlarmData) (loads : Nat) (pressed : List Nat)
    (page : AlarmPage) : Prop where
  ready : Ready page.store
  pending : page.pending.length = if page.store.bloc.isLoading then 1 else 0
  entries : page.store.alarms = markAll (alarms ++ testTiles (loadedEntries loads)) pressed
  bounded : ∀ index ∈ pressed, index < page.store.alarms.length
  count : page.store.bloc.count = loadedEntries loads
  readMoreCount : page.store.bloc.readMoreCount = 3 - loads
  isEnd : page.store.bloc.isEnd.value? =
    some (!page.store.bloc.isLoading && decide (4 ≤ loads))

/-! ## Steps keep the books -/

section Steps

variable {alarms : List AlarmData} {loads : Nat} {tiles : List Nat} {page next : AlarmPage}

theorem Account.called (account : Account alarms loads tiles page) (called : Called page next) :
    Account alarms loads tiles next := by
  cases called with
  | ignored busy =>
      exact { account with
        pending := by simpa [Isolate.pending, List.filterMap_cons] using account.pending }
  | started idle =>
      have before := account.pending
      rw [idle] at before
      have after : Isolate.pending { page with
          store := page.store.loading
          activations := page.activations ++ [.suspended () (page.now + 2000)] } = [()] := by
        simpa [Isolate.pending, List.filterMap_cons] using before
      exact { account with
        ready := ⟨account.ready.isOpen.loading, ⟨account.ready.agree.temp,
          account.ready.agree.tempAllocated, account.ready.agree.published⟩,
          account.ready.alarmLength⟩
        pending := by rw [after]; rfl
        isEnd := BehaviorSubject.value?_emit _ _ }

theorem Account.scrolled (account : Account alarms loads tiles page) (metrics : ScrollMetrics) :
    Account alarms loads tiles { page with store := scrolled metrics page.store } :=
  { account with
    ready := ⟨⟨account.ready.isOpen.1, account.ready.isOpen.2, account.ready.isOpen.3,
      account.ready.isOpen.4⟩, ⟨account.ready.agree.temp, account.ready.agree.tempAllocated,
      account.ready.agree.published⟩, account.ready.alarmLength⟩ }

theorem Account.built (account : Account alarms loads tiles page) :
    Account alarms loads tiles { page with store := built page.store } :=
  { account with
    ready := ⟨⟨account.ready.isOpen.1, account.ready.isOpen.2, account.ready.isOpen.3,
      account.ready.isOpen.4⟩, flagsAgree_built account.ready.agree,
      account.ready.alarmLength⟩ }

theorem Account.pressed (account : Account alarms loads tiles page) {index : Nat}
    (bound : index < page.store.alarms.length) :
    Account alarms loads (tiles ++ [index]) { page with store := pressed index page.store } :=
  { account with
    ready := ⟨⟨account.ready.isOpen.1, account.ready.isOpen.2, account.ready.isOpen.3,
      account.ready.isOpen.4⟩, flagsAgree_pressed account.ready.agree index, by
        simpa [AlarmPage.pressed] using account.ready.alarmLength⟩
    entries := by
      rw [markAll_concat, ← account.entries]
      rfl
    bounded := by
      intro other member
      simp only [AlarmPage.pressed, List.length_modify]
      rcases List.mem_append.mp member with earlier | last
      · exact account.bounded other earlier
      · rw [List.mem_singleton.mp last]
        exact bound }

theorem testTiles_succ {store : AlarmStore} (count : store.bloc.count = loadedEntries loads)
    (readMoreCount : store.bloc.readMoreCount = 3 - loads) :
    testTiles (loadedEntries (loads + 1)) =
      testTiles (loadedEntries loads) ++ store.nextTiles := by
  by_cases more : store.bloc.readMoreCount > 0
  · have next : loadedEntries (loads + 1) = loadedEntries loads + 5 := by
      simp only [loadedEntries]
      omega
    simp [AlarmStore.nextTiles, more, testTiles, next, List.range_add, count]
  · have same : loadedEntries (loads + 1) = loadedEntries loads := by
      simp only [loadedEntries]
      omega
    simp [AlarmStore.nextTiles, more, same]

theorem Account.loaded (account : Account alarms loads tiles page) {call due : Nat}
    (found : page.activations[call]? = some (.suspended () due)) :
    Account alarms (loads + 1) tiles { page with
      store := page.store.loaded
      activations := page.activations.set call .returned } := by
  have completed := AlarmStore.loadCompleted_loaded page.store
  have more := testTiles_succ account.count account.readMoreCount
  have fewer := Isolate.length_pending_set_over found Activation.frame?_returned
  have loading : page.store.bloc.isLoading = true := by
    cases loading : page.store.bloc.isLoading with
    | true => rfl
    | false =>
        have none := account.pending
        simp only [loading, Bool.false_eq_true, if_false] at none
        omega
  have wasEnd : page.store.bloc.isEnd.value? = some false := by
    simpa [loading] using account.isEnd
  have appended : page.store.loaded.alarms =
      markAll (alarms ++ testTiles (loadedEntries (loads + 1))) tiles := by
    rw [completed.alarms, more, ← List.append_assoc, markAll_append, ← account.entries]
    intro index member
    have bound := account.bounded index member
    rw [account.entries, length_markAll] at bound
    exact bound
  refine ⟨⟨completed.isOpen account.ready.isOpen, completed.agree account.ready.agree,
    completed.alarmLength⟩, ?_, appended, ?_, ?_, ?_, ?_⟩
  · have one := account.pending
    rw [loading, if_pos rfl] at one
    simp only [Isolate.pending, completed.isLoading, Bool.false_eq_true, if_false]
    omega
  · intro index member
    have bound := account.bounded index member
    simp only [completed.alarms, List.length_append]
    omega
  · have length := congrArg List.length more
    simp only [testTiles, List.length_append, List.length_map, List.length_range] at length
    simp only [completed.count, account.count]
    omega
  · simp only [completed.readMoreCount, account.readMoreCount]
    omega
  · have left := account.readMoreCount
    simp only [completed.isEnd, completed.isLoading, wasEnd]
    by_cases more : page.store.bloc.readMoreCount > 0
    · have few : ¬ 4 ≤ loads + 1 := by omega
      simp [more, few]
    · have many : 4 ≤ loads + 1 := by omega
      simp [more, many]

theorem AlarmStep.account {event : Event} (step : AlarmStep page event next)
    (account : Account alarms loads tiles page) :
    Account alarms (loads + if event.completesLoad then 1 else 0)
      (tiles ++ event.pressed?.toList) next := by
  cases step with
  | scrolled => simpa [Event.completesLoad, Event.pressed?] using account.scrolled _
  | scrolledToEnd called =>
      simpa [Event.completesLoad, Event.pressed?] using (account.scrolled _).called called
  | readMore called => simpa [Event.completesLoad, Event.pressed?] using account.called called
  | loaded found => simpa [Event.completesLoad, Event.pressed?] using account.loaded found
  | built => simpa [Event.completesLoad, Event.pressed?] using account.built
  | pressed bound => simpa [Event.completesLoad, Event.pressed?] using account.pressed bound
  | elapse =>
      simp only [Event.completesLoad, Event.pressed?, Bool.false_eq_true, if_false,
        Option.toList_none, List.append_nil]
      exact { account with }

end Steps

/-! ## Runs keep the books -/

theorem account_opened (alarms : List AlarmData) (lists : Heap (List Bool)) :
    Account alarms 0 [] (opened alarms lists) := by
  have isOpen : (AlarmBloc.create alarms lists).Open := ⟨rfl, rfl, rfl, rfl⟩
  have initialized : (opened alarms lists).store =
      (AlarmBloc.create alarms lists).initialized := by
    simp only [opened, AlarmBloc.run_init isOpen, finalStore_ok]
  have agree : (opened alarms lists).store.FlagsAgree := by
    rw [initialized]
    exact AlarmStore.flagsAgree_republished _
  have entries : (opened alarms lists).store.alarms = alarms := by
    rw [initialized]
    rfl
  refine ⟨⟨?_, agree, ?_⟩, rfl, ?_, by simp, ?_, ?_, ?_⟩
  · rw [initialized]
    exact ⟨rfl, rfl, rfl, rfl⟩
  · rw [initialized]
    rfl
  · simp [entries, markAll, testTiles, loadedEntries]
  · rw [initialized]
    rfl
  · rw [initialized]
    rfl
  · rw [initialized]
    rfl

theorem account_of_run {alarms : List AlarmData} {lists : Heap (List Bool)}
    {events : List Event} {page : AlarmPage}
    (ran : system.run (opened alarms lists) events = some page) :
    Account alarms (completedLoads events) (pressedTiles events) page := by
  refine EventSystem.run_induction (motive := fun events page =>
    Account alarms (completedLoads events) (pressedTiles events) page)
    (account_opened alarms lists) ?_ ran
  intro events page event next _ account stepped
  have step := alarmStep_of_step account.ready stepped
  have loads : completedLoads (events ++ [event]) =
      completedLoads events + if event.completesLoad then 1 else 0 := by
    simp [completedLoads, List.countP_append, List.countP_singleton]
  have tiles : pressedTiles (events ++ [event]) =
      pressedTiles events ++ event.pressed?.toList := by
    cases pressed : event.pressed? <;> simp [pressedTiles, pressed]
  rw [loads, tiles]
  exact step.account account

/-- The read entries are those that were read at first and those that were pressed. -/
theorem Account.flag_iff {alarms : List AlarmData} {loads : Nat} {tiles : List Nat}
    {page : AlarmPage} (account : Account alarms loads tiles page) (index : Nat) :
    page.store.flags[index]? = some true ↔
      (alarms.map (·.isRead))[index]? = some true ∨ index ∈ tiles := by
  have generated : ((testTiles (loadedEntries loads)).map (·.isRead))[index - alarms.length]? ≠
      some true := by
    simp [testTiles]
  have initially : ((alarms ++ testTiles (loadedEntries loads)).map (·.isRead))[index]? =
      some true ↔ (alarms.map (·.isRead))[index]? = some true := by
    rw [List.map_append, List.getElem?_append, List.length_map]
    split
    · rfl
    · rename_i outside
      simp only [generated, false_iff]
      simp [List.getElem?_eq_none (Nat.le_of_not_lt outside)]
  have bounded := account.bounded index
  rw [account.entries, length_markAll] at bounded
  rw [AlarmStore.flags, account.entries, flag_markAll_iff, initially]
  constructor
  · intro read
    rcases read with initial | ⟨_, pressed⟩
    · exact .inl initial
    · exact .inr pressed
  · intro read
    rcases read with initial | pressed
    · exact .inl initial
    · exact .inr ⟨bounded pressed, pressed⟩

/-- The generated entries carry consecutive labels. -/
theorem user_testTiles (number : Nat) :
    (testTiles number).map (·.user) =
      (List.range number).map fun k => "Test Tile " ++ toString k := by
  rw [testTiles, List.map_map]
  rfl

/-- After `n` completed loads, whatever else the run did and however the calls of
`readMore` fell: at most one load is pending, the entries are the initial ones
and the first `5 * min n 3` generated ones, labelled from `Test Tile 0` on, with
the read marks of the presses, and the end is announced exactly when nothing is
pending after the fourth load. -/
theorem paging_account (alarms : List AlarmData) (lists : Heap (List Bool))
    {events : List Event} {page : AlarmPage}
    (ran : system.run (opened alarms lists) events = some page) :
    page.pending.length ≤ 1 ∧
    (page.store.bloc.isLoading = true ↔ page.pending.length = 1) ∧
    page.store.alarms = markAll
      (alarms ++ testTiles (5 * min (completedLoads events) 3)) (pressedTiles events) ∧
    (pressedTiles events = [] →
      page.store.alarms = alarms ++ testTiles (5 * min (completedLoads events) 3)) ∧
    page.store.alarms.map (·.user) = alarms.map (·.user) ++
      (List.range (5 * min (completedLoads events) 3)).map
        (fun k => "Test Tile " ++ toString k) ∧
    page.store.bloc.count = 5 * min (completedLoads events) 3 ∧
    page.store.bloc.readMoreCount = 3 - completedLoads events ∧
    page.store.bloc.alarmLength.value? = some page.store.alarms.length ∧
    (page.store.bloc.isEnd.value? = some true ↔
      page.pending.length = 0 ∧ 4 ≤ completedLoads events) := by
  have account := account_of_run ran
  have pending := account.pending
  have isEnd := account.isEnd
  have unmarked : pressedTiles events = [] →
      page.store.alarms = alarms ++ testTiles (5 * min (completedLoads events) 3) := by
    intro untouched
    rw [account.entries, untouched]
    rfl
  have labels : page.store.alarms.map (·.user) = alarms.map (·.user) ++
      (List.range (5 * min (completedLoads events) 3)).map
        (fun k => "Test Tile " ++ toString k) := by
    rw [account.entries, map_markAll (fun _ => rfl), List.map_append, user_testTiles]
    rfl
  refine ⟨?_, ?_, account.entries, unmarked, labels, account.count, account.readMoreCount,
    account.ready.alarmLength, ?_⟩
  · rw [pending]
    split <;> omega
  · cases loading : page.store.bloc.isLoading <;> simp [loading] at pending <;> simp [pending]
  · cases loading : page.store.bloc.isLoading <;>
      simp [loading] at pending isEnd <;> simp [pending, isEnd]

theorem paging_account_overlapping :
    ∃ page, system.run (opened initialAlarms (Heap.empty []))
        [.readMore, .elapse 1000, .readMore, .readMore, .elapse 1000, .resume 0] = some page ∧
      page.store.alarms = initialAlarms ++ testTiles 5 ∧
      page.store.alarms.map (·.user) = initialAlarms.map (·.user) ++
        ["Test Tile 0", "Test Tile 1", "Test Tile 2", "Test Tile 3", "Test Tile 4"] ∧
      page.store.bloc.readMoreCount = 2 := by
  obtain ⟨page, ran⟩ : ∃ page, system.run (opened initialAlarms (Heap.empty []))
      [.readMore, .elapse 1000, .readMore, .readMore, .elapse 1000, .resume 0] = some page :=
    Option.isSome_iff_exists.mp (by decide +kernel)
  obtain ⟨_, _, _, entries, labels, _, readMoreCount, _⟩ := paging_account _ _ ran
  exact ⟨page, ran, entries rfl, labels, readMoreCount⟩

/-- In every state between two handlers the published length, the published
flags, the scratch list and the entries agree, the list builder and the presses
find everything they index, and read marks are never lost. -/
theorem read_states_agree (alarms : List AlarmData) (lists : Heap (List Bool))
    {events : List Event} {page : AlarmPage}
    (ran : system.run (opened alarms lists) events = some page) :
    (∃ reads, page.store.publishedReads = some reads ∧
      page.store.bloc.alarmLength.value? = some reads.length ∧
      reads.length = page.store.tempList.length ∧
      page.store.tempList.length = page.store.alarms.length ∧
      ∀ (index : Nat) (alarm : AlarmData), page.store.alarms[index]? = some alarm →
        reads[index]? = some alarm.isRead ∧
          page.store.tempList[index]? = some alarm.isRead) ∧
    (∃ store, buildAlarms.run page.store =
      .ok (page.store.alarms.map fun alarm => (alarm, alarm.isRead)) store) ∧
    (∀ index length, page.store.bloc.alarmLength.value? = some length → index < length →
      ∃ store, (pressTile index).run page.store = .ok () store) ∧
    (∀ index : Nat, .press index ∈ events → page.store.flags[index]? = some true) ∧
    (∀ (front : List Event) (middle : AlarmPage) (index : Nat), front <+: events →
      system.run (opened alarms lists) front = some middle →
      middle.store.flags[index]? = some true → page.store.flags[index]? = some true) := by
  have account := account_of_run ran
  have agree := account.ready.agree
  have sameLength := account.ready.alarmLength
  have pressed : ∀ index, .press index ∈ events → index ∈ pressedTiles events :=
    fun index member => List.mem_filterMap.mpr ⟨_, member, rfl⟩
  refine ⟨?_, ⟨_, run_buildAlarms agree sameLength⟩, ?_, ?_, ?_⟩
  · refine ⟨page.store.flags, agree.publishedReads_eq, by simpa using sameLength,
      by rw [agree.temp], by simp [agree.temp], ?_⟩
    intro index alarm found
    simp [agree.temp, AlarmStore.flags, found]
  · intro index length isLength bound
    cases isLength.symm.trans sameLength
    exact ⟨_, run_pressTile account.ready.isOpen (by simpa [agree.temp] using bound) bound⟩
  · intro index member
    exact (account.flag_iff index).mpr (.inr (pressed index member))
  · rintro front middle index ⟨back, rfl⟩ reached marked
    refine (account.flag_iff index).mpr ?_
    rcases ((account_of_run reached).flag_iff index).mp marked with initially | earlier
    · exact .inl initially
    · refine .inr ?_
      simp only [pressedTiles, List.filterMap_append, List.mem_append] at earlier ⊢
      exact .inl earlier

theorem read_states_agree_interleaved :
    ∃ page, system.run (opened initialAlarms (Heap.empty []))
        [.build, .readMore, .press 2, .elapse 2000, .resume 0, .press 9, .build] = some page ∧
      page.store.flags[2]? = some true ∧ page.store.flags[9]? = some true := by
  obtain ⟨page, ran⟩ : ∃ page, system.run (opened initialAlarms (Heap.empty []))
      [.build, .readMore, .press 2, .elapse 2000, .resume 0, .press 9, .build] = some page :=
    Option.isSome_iff_exists.mp (by decide +kernel)
  obtain ⟨_, _, _, marked, _⟩ := read_states_agree _ _ ran
  exact ⟨page, ran, marked 2 (by decide), marked 9 (by decide)⟩

end AlarmPage

end FacebookApp
