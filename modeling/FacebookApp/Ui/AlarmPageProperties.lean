import FacebookApp.Bloc.AlarmBlocProperties
import FacebookApp.Ui.AlarmPage

/-!
# Properties of the alarm page

The steps of a page whose bloc is open, and the account of loads, entries and
read marks that every run keeps.
-/

set_option autoImplicit false

namespace FacebookApp

open Dart

namespace AlarmPage

/-! ## Read marks -/

theorem flags_modify (alarms : List AlarmData) (index : Nat) :
    (alarms.modify index AlarmData.read).map (·.isRead) =
      (alarms.map (·.isRead)).set index true := by
  induction alarms generalizing index with
  | nil => simp
  | cons alarm alarms ih =>
      cases index with
      | zero => simp
      | succ index => simp [ih]

@[simp] theorem length_markAll (alarms : List AlarmData) (pressed : List Nat) :
    (markAll alarms pressed).length = alarms.length := by
  unfold markAll
  induction pressed generalizing alarms with
  | nil => rfl
  | cons index pressed ih => simp [ih]

theorem markAll_concat (alarms : List AlarmData) (pressed : List Nat) (index : Nat) :
    markAll alarms (pressed ++ [index]) = (markAll alarms pressed).modify index AlarmData.read := by
  simp [markAll]

theorem modify_append_of_lt (alarms added : List AlarmData) {index : Nat}
    (bound : index < alarms.length) :
    (alarms ++ added).modify index AlarmData.read =
      alarms.modify index AlarmData.read ++ added := by
  induction alarms generalizing index with
  | nil => cases bound
  | cons alarm alarms ih =>
      cases index with
      | zero => rfl
      | succ index => simp [ih (Nat.lt_of_succ_lt_succ bound)]

theorem markAll_append (alarms added : List AlarmData) (pressed : List Nat)
    (bounded : ∀ index ∈ pressed, index < alarms.length) :
    markAll (alarms ++ added) pressed = markAll alarms pressed ++ added := by
  induction pressed using List.reverseRecOn with
  | nil => rfl
  | append_singleton pressed last ih =>
      have bound : last < (markAll alarms pressed).length := by
        simpa using bounded last (List.mem_append_right _ List.mem_cons_self)
      rw [markAll_concat, markAll_concat,
        ih fun index member => bounded index (List.mem_append_left _ member),
        modify_append_of_lt _ _ bound]

/-- Read marks change nothing that does not depend on them. -/
theorem map_markAll {Field : Type} {field : AlarmData → Field}
    (unmarked : ∀ alarm, field alarm.read = field alarm) (alarms : List AlarmData)
    (pressed : List Nat) : (markAll alarms pressed).map field = alarms.map field := by
  induction pressed generalizing alarms with
  | nil => rfl
  | cons index pressed ih =>
      have once : (alarms.modify index AlarmData.read).map field = alarms.map field := by
        apply List.ext_getElem?
        intro other
        simp only [List.getElem?_map, List.getElem?_modify]
        cases alarms[other]? with
        | none => rfl
        | some alarm =>
            simp only [Option.map_some]
            split <;> simp [unmarked]
      exact (ih _).trans once

theorem flag_markAll_iff (alarms : List AlarmData) (pressed : List Nat) (index : Nat) :
    ((markAll alarms pressed).map (·.isRead))[index]? = some true ↔
      (alarms.map (·.isRead))[index]? = some true ∨
        index < alarms.length ∧ index ∈ pressed := by
  induction pressed using List.reverseRecOn with
  | nil => simp [markAll]
  | append_singleton pressed last ih =>
      rw [markAll_concat, flags_modify, List.getElem?_set]
      by_cases same : last = index
      · by_cases bound : index < alarms.length
        · simp [same, bound]
        · simp [same, bound]
      · have other : index ≠ last := fun equal => same equal.symm
        simp only [if_neg same, ih, List.mem_append, List.mem_singleton, other, or_false]

/-! ## Handlers of an open page -/

def pressed (index : Nat) (store : AlarmStore) : AlarmStore where
  alarms := store.alarms.modify index AlarmData.read
  lists := store.lists.write store.bloc.temp (store.tempList.set index true)
  bloc := { store.bloc with isReads := store.bloc.isReads.emit store.bloc.temp }

def built (store : AlarmStore) : AlarmStore :=
  (store.assignTemp []).assignTemp store.flags

theorem run_pressTile {store : AlarmStore} (isOpen : store.Open) {index : Nat}
    (inTemp : index < store.tempList.length) (inAlarms : index < store.alarms.length) :
    (pressTile index).run store = .ok () (pressed index store) := by
  have published := AlarmBloc.run_updateIsReads { store with
    lists := store.lists.write store.bloc.temp (store.tempList.set index true) }
    isOpen.isReads store.bloc.temp
  have marked : (AlarmBloc.setTempElementAt index true).run store = .ok () { store with
      lists := store.lists.write store.bloc.temp (store.tempList.set index true) } := by
    simp only [AlarmBloc.setTempElementAt, EStateM.run_bind, EStateM.run_get, if_pos inTemp]
    rfl
  simp only [pressTile, EStateM.run_bind, marked, EStateM.run_get, published, markRead,
    if_pos inAlarms]
  rfl

theorem run_buildTiles {store : AlarmStore} (agree : store.tempList = store.flags)
    (number index : Nat) (bound : index + number = store.alarms.length) :
    (buildTiles (List.range' index number)).run store =
      .ok ((store.alarms.drop index).map fun alarm => (alarm, alarm.isRead)) store := by
  induction number generalizing index with
  | zero =>
      have all : store.alarms.drop index = [] := List.drop_eq_nil_of_le (by omega)
      simp [buildTiles, all]
  | succ number ih =>
      have inRange : index < store.alarms.length := by omega
      have first : (buildTile index).run store =
          .ok (store.alarms[index], store.alarms[index].isRead) store := by
        simp [buildTile, agree, AlarmStore.flags, inRange]
      have rest := ih (index + 1) (by omega)
      rw [List.range'_succ, List.drop_eq_getElem_cons inRange]
      simp only [buildTiles, EStateM.run_bind, first, rest]
      rfl

theorem run_buildAlarms {store : AlarmStore} (agree : store.FlagsAgree)
    (length : store.bloc.alarmLength.value? = some store.alarms.length) :
    buildAlarms.run store =
      .ok (store.alarms.map fun alarm => (alarm, alarm.isRead)) (built store) := by
  obtain ⟨list, isList, _, contents⟩ := agree.published
  have agreeing : (built store).tempList = (built store).flags := by simp [built]
  have tiles := run_buildTiles agreeing store.alarms.length 0 (Nat.zero_add _)
  simp only [buildAlarms, EStateM.run_bind, EStateM.run_get, length, isList, contents,
    AlarmBloc.clearTemp, AlarmBloc.setTemp, EStateM.run_modify, List.range_eq_range']
  exact tiles

theorem flagsAgree_pressed {store : AlarmStore} (agree : store.FlagsAgree) (index : Nat) :
    (pressed index store).FlagsAgree := by
  have flags : (pressed index store).flags = store.flags.set index true :=
    flags_modify store.alarms index
  have marked : (pressed index store).lists.object store.bloc.temp =
      (pressed index store).flags := by
    rw [flags, ← agree.temp]
    exact Heap.object_write_same _ _ _
  exact ⟨marked, agree.tempAllocated, store.bloc.temp, BehaviorSubject.value?_emit _ _,
    agree.tempAllocated, marked⟩

theorem flagsAgree_built {store : AlarmStore} (agree : store.FlagsAgree) :
    (built store).FlagsAgree := by
  obtain ⟨list, isList, allocated, contents⟩ := agree.published
  refine ⟨?_, ?_, list, isList, ?_, ?_⟩
  · simp [built]
  · exact Nat.lt_succ_self _
  · exact Nat.lt_succ_of_lt (Nat.lt_succ_of_lt allocated)
  · have kept := Heap.object_allocate_of_lt (store.lists.allocate []) store.flags
      (Nat.lt_succ_of_lt allocated)
    exact (kept.trans (Heap.object_allocate_of_lt _ _ allocated)).trans contents

/-! ## Steps -/

/-- What the handlers of a mounted page find in its store. -/
structure Ready (store : AlarmStore) : Prop where
  isOpen : store.Open
  agree : store.FlagsAgree
  alarmLength : store.bloc.alarmLength.value? = some store.alarms.length

def scrolled (metrics : ScrollMetrics) (store : AlarmStore) : AlarmStore :=
  { store with
    bloc := { store.bloc with scrollOffset := store.bloc.scrollOffset.emit metrics.offset } }

inductive Called (page : AlarmPage) : AlarmPage → Prop where
  | ignored (busy : page.store.bloc.isLoading = true) :
      Called page { page with activations := page.activations ++ [.returned] }
  | started (idle : page.store.bloc.isLoading = false) :
      Called page { page with
        store := page.store.loading
        activations := page.activations ++ [.suspended () (page.now + 2000)] }

inductive AlarmStep (page : AlarmPage) : Event → AlarmPage → Prop where
  | scrolled {metrics : ScrollMetrics} :
      AlarmStep page (.scroll metrics) { page with store := scrolled metrics page.store }
  | scrolledToEnd {metrics : ScrollMetrics} {next : AlarmPage}
      (called : Called { page with store := AlarmPage.scrolled metrics page.store } next) :
      AlarmStep page (.scroll metrics) next
  | readMore {next : AlarmPage} (called : Called page next) : AlarmStep page .readMore next
  | loaded {call due : Nat} (found : page.activations[call]? = some (.suspended () due)) :
      AlarmStep page (.resume call) { page with
        store := page.store.loaded
        activations := page.activations.set call .returned }
  | built : AlarmStep page .build { page with store := built page.store }
  | pressed {index : Nat} (bound : index < page.store.alarms.length) :
      AlarmStep page (.press index) { page with store := pressed index page.store }
  | elapse {milliseconds : Nat} :
      AlarmStep page (.elapse milliseconds) (page.elapse milliseconds)

theorem called_of_open {page : AlarmPage} (isOpen : page.store.Open) :
    Called page (page.call AlarmBloc.readMore) := by
  cases loading : page.store.bloc.isLoading with
  | false =>
      have ran := AlarmBloc.run_readMore_idle isOpen loading
      simp only [Isolate.call, ran]
      exact .started loading
  | true =>
      have ran := AlarmBloc.run_readMore_busy loading
      simp only [Isolate.call, ran]
      exact .ignored loading

theorem alarmStep_of_scroll {page : AlarmPage} (isOpen : page.store.Open)
    (metrics : ScrollMetrics) :
    AlarmStep page (.scroll metrics)
      (page.performThenCall (listener metrics) AlarmBloc.readMore) := by
  have published := AlarmBloc.run_updateScrollOffset page.store isOpen.scrollOffset
    metrics.offset
  have ran : ∃ reached, (listener metrics).run page.store =
      .ok reached (scrolled metrics page.store) := by
    simp only [listener, EStateM.run_bind, published, EStateM.run_get]
    exact ⟨_, rfl⟩
  obtain ⟨reached, ran⟩ := ran
  cases reached with
  | false =>
      simp only [Isolate.performThenCall, ran]
      exact .scrolled
  | true =>
      simp only [Isolate.performThenCall, ran]
      apply AlarmStep.scrolledToEnd
      apply called_of_open
      exact ⟨isOpen.1, isOpen.2, isOpen.3, isOpen.4⟩

theorem alarmStep_of_step {page next : AlarmPage} {event : Event} (ready : Ready page.store)
    (stepped : system.step page event = some next) : AlarmStep page event next := by
  cases event with
  | scroll metrics =>
      cases stepped
      exact alarmStep_of_scroll ready.isOpen metrics
  | readMore =>
      cases stepped
      exact .readMore (called_of_open ready.isOpen)
  | resume call =>
      obtain ⟨⟨⟩, due, found, _, rfl⟩ := Isolate.resume_eq_some_iff.mp stepped
      have ran := AlarmBloc.run_resumeReadMore ready.isOpen
      simp only [ran]
      exact .loaded found
  | build =>
      cases stepped
      have ran := run_buildAlarms ready.agree ready.alarmLength
      simp only [Isolate.perform, ran]
      exact .built
  | press index =>
      simp only [system, step, ready.alarmLength, Option.ite_none_right_eq_some,
        Option.some.injEq] at stepped
      obtain ⟨bound, rfl⟩ := stepped
      have inTemp : index < page.store.tempList.length := by simpa [ready.agree.temp] using bound
      have ran := run_pressTile ready.isOpen inTemp bound
      simp only [Isolate.perform, ran]
      exact .pressed bound
  | elapse milliseconds =>
      cases stepped
      exact .elapse

end AlarmPage

end FacebookApp
