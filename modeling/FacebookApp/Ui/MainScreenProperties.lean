import FacebookApp.Ui.AlarmAccountProperties
import FacebookApp.Ui.MainPageProperties
import FacebookApp.Ui.MainScreen

/-!
# Properties of the main screen

The pages of the screen run as they do by themselves. The Watch tab shows the entry of
the tile that asked for the last page transition, in the third frame in view at the
latest, and nothing of another transition before.
-/

set_option autoImplicit false

namespace FacebookApp

open Dart Flutter

namespace MainPage

open MainBloc (Live)

/-! ## What a page transition tells the Watch tab -/

/-- The flag, the entry and the target that the bloc published last. -/
structure Watching (bloc : MainBloc) (data : Option AlarmData) (target : Int) : Prop where
  alarmToWatch : bloc.alarmToWatch.value? = some data.isSome
  data : ∀ shown, data = some shown → bloc.data.value? = some shown
  target : bloc.target.value? = some target

theorem Watching.afterRound {bloc : MainBloc} {data : Option AlarmData} {target : Int}
    (watching : Watching bloc data target) (frame : IndicatorFrame) :
    Watching (bloc.afterRound frame) data target := by
  unfold MainBloc.afterRound
  split
  · exact ⟨watching.alarmToWatch, watching.data, watching.target⟩
  · exact watching

theorem run_announceTransition {bloc : MainBloc} (live : Live bloc) (index : Int)
    (data : Option AlarmData) :
    ∃ store, (announceTransition index data.isSome data).run bloc = .ok index store ∧
      Live store ∧ Watching store data index := by
  obtain ⟨current, shown⟩ := live.index_present
  have finish : ∀ {told : MainBloc}, Live told → told.index.value? = some current →
      told.alarmToWatch.value? = some data.isSome →
      (∀ shown, data = some shown → told.data.value? = some shown) →
      ∃ store, (do
          MainBloc.updateTarget index
          MainBloc.updateDelay (← MainBloc.calDelay index)
          MainBloc.currentTarget).run told = .ok index store ∧
        Live store ∧ Watching store data index := by
    intro told live shown flag entry
    have targetLive := live.emit_target index
    have delayed := MainBloc.run_calDelay { told with target := told.target.emit index }
      shown index
    have updated := targetLive.run_updateDelay (MainBloc.delayFor (index - current).natAbs)
    refine ⟨{ told with
      target := told.target.emit index
      delay := told.delay.emit (MainBloc.delayFor (index - current).natAbs) }, ?_,
      targetLive.emit_delay _, flag, entry, BehaviorSubject.value?_emit _ _⟩
    simp only [EStateM.run_bind, live.run_updateTarget, delayed, updated]
    exact Cell.run_value MainBloc.targetCell (BehaviorSubject.value?_emit _ _)
  cases data with
  | none =>
      obtain ⟨store, ran, live', watching⟩ := finish (live.emit_alarmToWatch false) shown
        (BehaviorSubject.value?_emit _ _) (by simp)
      refine ⟨store, ?_, live', watching⟩
      simpa [announceTransition, live.run_updateAlarmToWatch] using ran
  | some data =>
      obtain ⟨store, ran, live', watching⟩ := finish
        ((live.emit_data data).emit_alarmToWatch true) shown
        (BehaviorSubject.value?_emit _ _) (by simp)
      refine ⟨store, ?_, live', watching⟩
      simpa [announceTransition, live.run_updateData, (live.emit_data data).run_updateAlarmToWatch]
        using ran

theorem watching_pageTransition {page : MainPage} (live : Live page.bloc.store) (index : Int)
    (data : Option AlarmData) :
    Live (page.pageTransition index data.isSome data).bloc.store ∧
      Watching (page.pageTransition index data.isSome data).bloc.store data index := by
  obtain ⟨store, ran, live', watching⟩ := run_announceTransition live index data
  obtain ⟨current, shown⟩ := live'.index_present
  have called := live'.call_animateIndicator { page.bloc with store := store } shown index
  simp only [pageTransition, ran, called]
  exact ⟨live'.afterRound _, watching.afterRound _⟩

end MainPage

namespace AlarmPage

/-! ## Entries that were read -/

theorem read_of_isRead {alarm : AlarmData} (isRead : alarm.isRead = true) :
    alarm.read = alarm := by
  cases alarm
  simp_all [AlarmData.read]

/-- No step of the page changes an entry that is read. -/
theorem AlarmStep.entry {page next : AlarmPage} {event : Event}
    (alarmStep : AlarmStep page event next) {index : Nat} {alarm : AlarmData}
    (entry : page.store.alarms[index]? = some alarm) (isRead : alarm.isRead = true) :
    next.store.alarms[index]? = some alarm := by
  cases alarmStep with
  | scrolled | built | elapse => exact entry
  | scrolledToEnd called | readMore called =>
      cases called with
      | ignored | started => exact entry
  | loaded found =>
      have bound : index < page.store.alarms.length := by
        obtain ⟨bound, _⟩ := List.getElem?_eq_some_iff.mp entry
        exact bound
      rw [(AlarmStore.loadCompleted_loaded page.store).alarms, List.getElem?_append_left bound]
      exact entry
  | @pressed other bound =>
      simp only [AlarmPage.pressed, List.getElem?_modify, entry, Option.map_eq_map, Option.map_some]
      split
      · rw [read_of_isRead isRead]
      · rfl

theorem ready_of_reachable {alarms : List AlarmData} {lists : Heap (List Bool)}
    {page : AlarmPage} (reachable : system.Reachable (opened alarms lists) page) :
    Ready page.store := by
  obtain ⟨events, ran⟩ := reachable
  exact (account_of_run ran).ready

end AlarmPage

namespace MainScreen

open MainPage (Watching)
open MainBloc (Live)

/-! ## The screen and its pages -/

variable {snapshots : Snapshots} {alarms : List AlarmData} {lists : Heap (List Bool)}
  {events : List Event} {screen next : MainScreen}

/-- What the bloc holds after page transitions of which this was the last one. -/
def Shows (screen : MainScreen) : Option (Option Nat) → Prop
  | some (some index) => ∃ page alarm, screen.alarmPage = some page ∧
      page.store.alarms[index]? = some alarm ∧ alarm.isRead = true ∧
      Watching screen.main.bloc.store (some alarm) 1
  | some none | none => ∃ target, Watching screen.main.bloc.store none target

/-- The pages of a screen are in states that they reach by themselves. -/
structure Joined (alarms : List AlarmData) (lists : Heap (List Bool)) (screen : MainScreen) :
    Prop where
  main : MainPage.system.Reachable .initial screen.main
  alarmPage : ∀ page, screen.alarmPage = some page →
    AlarmPage.system.Reachable (AlarmPage.opened alarms lists) page
  live : Live screen.main.bloc.store

theorem joined_initial (alarms : List AlarmData) (lists : Heap (List Bool)) :
    Joined alarms lists {} where
  main := .refl _ _
  alarmPage := nofun
  live := MainBloc.live_initial

theorem Joined.transition (joined : Joined alarms lists screen) {index : Int}
    (data : Option AlarmData)
    (moved : screen.transition index data.isSome data = some next) :
    Joined alarms lists next ∧ Watching next.main.bloc.store data index ∧
      next.alarmPage = screen.alarmPage := by
  simp only [MainScreen.transition, Option.map_eq_some_iff] at moved
  obtain ⟨main, stepped, rfl⟩ := moved
  have reachable := joined.main.of_step stepped
  simp only [MainPage.system, MainPage.step, Option.ite_none_right_eq_some,
    Option.some.injEq] at stepped
  obtain ⟨_, rfl⟩ := stepped
  obtain ⟨live, watching⟩ := MainPage.watching_pageTransition joined.live index data
  exact ⟨⟨reachable, joined.alarmPage, live⟩, watching, rfl⟩

/-- Nothing that leaves the main bloc alone changes what was asked for. -/
theorem Shows.kept {last : Option (Option Nat)} (shows : screen.Shows last)
    (same : next.main.bloc.store = screen.main.bloc.store)
    (pages : ∀ page, screen.alarmPage = some page → ∃ page', next.alarmPage = some page' ∧
      ∀ (index : Nat) (alarm : AlarmData), page.store.alarms[index]? = some alarm →
        alarm.isRead = true → page'.store.alarms[index]? = some alarm) : next.Shows last := by
  rcases last with _ | _ | index
  · obtain ⟨target, watching⟩ := shows
    exact ⟨target, same ▸ watching⟩
  · obtain ⟨target, watching⟩ := shows
    exact ⟨target, same ▸ watching⟩
  · obtain ⟨page, alarm, isPage, entry, isRead, watching⟩ := shows
    obtain ⟨page', isPage', keeps⟩ := pages page isPage
    exact ⟨page', alarm, isPage', keeps index alarm entry isRead, isRead, same ▸ watching⟩

theorem Joined.alarmStep (joined : Joined alarms lists screen) {page after : AlarmPage}
    {event : AlarmPage.Event} (isPage : screen.alarmPage = some page)
    (stepped : AlarmPage.system.step page event = some after) :
    Joined alarms lists { screen with alarmPage := some after } ∧
      ∀ {last : Option (Option Nat)}, screen.Shows last →
        Shows { screen with alarmPage := some after } last := by
  have reachable := joined.alarmPage page isPage
  have step := AlarmPage.alarmStep_of_step (AlarmPage.ready_of_reachable reachable) stepped
  refine ⟨⟨joined.main, ?_, joined.live⟩, ?_⟩
  · intro other isOther
    cases isOther
    exact reachable.of_step stepped
  · intro last shows
    refine shows.kept rfl fun other isOther => ⟨after, rfl, ?_⟩
    cases isPage.symm.trans isOther
    exact fun index alarm entry isRead => step.entry entry isRead

theorem Joined.onAlarmPage (joined : Joined alarms lists screen) {last : Option (Option Nat)}
    (shows : screen.Shows last) {event : AlarmPage.Event}
    (stepped : screen.onAlarmPage event = some next) :
    Joined alarms lists next ∧ next.Shows last := by
  simp only [MainScreen.onAlarmPage, Option.bind_eq_bind, Option.bind_eq_some_iff,
    Option.pure_def, Option.some.injEq] at stepped
  obtain ⟨page, isPage, after, steppedPage, rfl⟩ := stepped
  obtain ⟨joined', keeps⟩ := joined.alarmStep isPage steppedPage
  exact ⟨joined', keeps shows⟩

/-- A tile marks its entry, and sends the entry as it is marked to the Watch tab if the
list is long enough. -/
theorem Joined.pressTile (joined : Joined alarms lists screen) {last : Option (Option Nat)}
    (shows : screen.Shows last) {page : AlarmPage} {index : Nat}
    (isPage : screen.alarmPage = some page)
    (stepped : MainScreen.pressTile index page screen = some next) :
    Joined alarms lists next ∧
      next.Shows (if opensWatch page then some (some index) else last) := by
  have ready := AlarmPage.ready_of_reachable (joined.alarmPage page isPage)
  unfold MainScreen.pressTile at stepped
  split at stepped
  · cases stepped
  · rename_i pressed press
    obtain ⟨marked, keeps⟩ := joined.alarmStep isPage press
    have bound : index < page.store.alarms.length := by
      simp only [AlarmPage.system, AlarmPage.step, ready.alarmLength,
        Option.ite_none_right_eq_some] at press
      exact press.1
    have inTemp : index < page.store.tempList.length := by
      simpa [ready.agree.temp] using bound
    have ran := AlarmPage.run_pressTile ready.isOpen inTemp bound
    have isPressed : pressed = { page with store := AlarmPage.pressed index page.store } := by
      simp only [AlarmPage.system, AlarmPage.step, ready.alarmLength, bound, if_true,
        Option.some.injEq] at press
      rw [← press]
      simp only [Isolate.perform, ran, finalStore_ok]
    simp only [ran] at stepped
    split at stepped
    · rename_i opens
      have entry : (AlarmPage.pressed index page.store).alarms[index]? =
          some page.store.alarms[index].read := by
        simp [AlarmPage.pressed, bound]
      rw [entry] at stepped
      obtain ⟨joined', watching, same⟩ := marked.transition (some _) stepped
      refine ⟨joined', ?_⟩
      rw [if_pos opens]
      exact ⟨pressed, _, same, by rw [isPressed]; exact entry, rfl, watching⟩
    · rename_i closed
      cases stepped
      rw [if_neg closed]
      exact ⟨marked, keeps shows⟩

/-- What a step makes of the last page transition. -/
theorem joined_of_step (joined : Joined alarms lists screen) {last : Option (Option Nat)}
    (shows : screen.Shows last) {event : Event}
    (stepped : (system snapshots alarms lists).step screen event = some next) :
    Joined alarms lists next ∧
      next.Shows ((transitionObserver screen event next).getLast?.or last) := by
  cases event with
  | frame inView =>
      cases stepped
      exact ⟨⟨joined.main, joined.alarmPage, joined.live⟩,
        shows.kept rfl fun page isPage => ⟨page, isPage, fun _ _ entry _ => entry⟩⟩
  | tab index =>
      obtain ⟨joined', watching, _⟩ := joined.transition none stepped
      exact ⟨joined', _, watching⟩
  | openProfile =>
      obtain ⟨joined', watching, _⟩ := joined.transition none stepped
      exact ⟨joined', _, watching⟩
  | goBack =>
      simp only [system, step, MainScreen.goBack] at stepped
      split at stepped
      · obtain ⟨joined', watching, _⟩ := joined.transition none stepped
        exact ⟨joined', _, watching⟩
      all_goals cases stepped
  | buildAlarmPage =>
      simp only [system, step] at stepped
      split at stepped
      · rename_i missing
        cases stepped
        refine ⟨⟨joined.main, ?_, joined.live⟩, shows.kept rfl ?_⟩
        · intro page isPage
          cases isPage
          exact .refl _ _
        · intro page isPage
          cases missing.symm.trans isPage
      · cases stepped
  | pressTile index =>
      simp only [system, step, Option.bind_eq_some_iff] at stepped
      obtain ⟨page, isPage, pressed⟩ := stepped
      obtain ⟨joined', shows'⟩ := joined.pressTile shows isPage pressed
      refine ⟨joined', ?_⟩
      simp only [transitionObserver, isPage, Option.any_some]
      cases opens : opensWatch page <;> simpa [opens] using shows'
  | scroll metrics => exact joined.onAlarmPage shows stepped
  | buildAlarms => exact joined.onAlarmPage shows stepped
  | resumeLoad call => exact joined.onAlarmPage shows stepped
  | resumeIndicator call =>
      simp only [system, step, Option.map_eq_some_iff] at stepped
      obtain ⟨main, moved, rfl⟩ := stepped
      have reachable := joined.main.of_step moved
      simp only [MainPage.system, MainPage.step, Option.map_eq_some_iff] at moved
      obtain ⟨bloc, resumed, rfl⟩ := moved
      obtain ⟨frame, due, _, _, rfl⟩ :=
        (joined.live.resume_eq_some_iff screen.main.bloc).mp resumed
      refine ⟨⟨reachable, joined.alarmPage, joined.live.afterRound _⟩, ?_⟩
      rcases last with _ | _ | index
      · obtain ⟨target, watching⟩ := shows
        exact ⟨target, watching.afterRound _⟩
      · obtain ⟨target, watching⟩ := shows
        exact ⟨target, watching.afterRound _⟩
      · obtain ⟨page, alarm, isPage, entry, isRead, watching⟩ := shows
        exact ⟨page, alarm, isPage, entry, isRead, watching.afterRound _⟩
  | elapse milliseconds =>
      cases stepped
      have elapsed : MainPage.system.step screen.main (.elapse milliseconds) =
          some { screen.main with bloc := screen.main.bloc.elapse milliseconds } := rfl
      refine ⟨⟨joined.main.of_step elapsed, ?_, joined.live⟩,
        shows.kept rfl fun page isPage => ⟨page.elapse milliseconds, by simp [isPage],
          fun _ _ entry _ => entry⟩⟩
      intro page isPage
      obtain ⟨before, isBefore, rfl⟩ := Option.map_eq_some_iff.mp isPage
      have elapsed' : AlarmPage.system.step before (.elapse milliseconds) =
          some (before.elapse milliseconds) := rfl
      exact (joined.alarmPage before isBefore).of_step elapsed'

theorem joined_of_run (ran : (system snapshots alarms lists).run {} events = some screen) :
    Joined alarms lists screen ∧ screen.Shows
      ((system snapshots alarms lists).observe transitionObserver {} events).getLast? := by
  refine EventSystem.run_induction (motive := fun events screen =>
    Joined alarms lists screen ∧ screen.Shows
      ((system snapshots alarms lists).observe transitionObserver {} events).getLast?)
    ⟨joined_initial alarms lists, 0, rfl, by simp, rfl⟩ ?_ ran
  rintro events state event next reached ⟨joined, shows⟩ stepped
  rw [EventSystem.observe_concat reached stepped, List.getLast?_append]
  exact joined_of_step joined shows stepped

/-! ## Frames of the Watch tab -/

/-- What the last page transition asks the Watch tab to show. -/
def Asked (screen : MainScreen) (last : Option (Option Nat)) (content : WatchContent) : Prop :=
  match last with
  | some (some index) => ∃ page alarm, screen.alarmPage = some page ∧
      page.store.alarms[index]? = some alarm ∧ alarm.isRead = true ∧
      content = .watchPageWithData alarm ∧ screen.main.bloc.store.target.value? = some 1
  | some none | none => content = .watchPage

/-- What a tab has of what the bloc holds after some frames in view. -/
structure CaughtUp (frames : Nat) (screen : MainScreen) : Prop where
  mounted : 1 ≤ frames → ∃ tab, screen.watchTab = some tab
  alarmToWatch : 2 ≤ frames → ∀ tab, screen.watchTab = some tab →
    tab.alarmToWatch = screen.main.bloc.store.alarmToWatch.value?
  data : 3 ≤ frames → ∀ data, screen.watchTab = some (.watching data) →
    data = screen.main.bloc.store.data.value?

theorem alarmToWatch_build (snapshots : Snapshots) (bloc : MainBloc) (mounted : Option WatchTab) :
    (WatchTab.build snapshots bloc mounted).alarmToWatch =
      snapshots.next bloc.alarmToWatch (mounted.map WatchTab.alarmToWatch) := by
  unfold WatchTab.build
  split <;> simp_all [WatchTab.alarmToWatch]

theorem CaughtUp.frame {frames : Nat} (caughtUp : CaughtUp frames screen)
    (laws : snapshots.Laws) : CaughtUp (frames + 1) (screen.frame snapshots true) where
  mounted := fun _ => ⟨_, rfl⟩
  alarmToWatch := by
    rintro more tab ⟨⟩
    obtain ⟨mounted, isMounted⟩ := caughtUp.mounted (Nat.le_of_succ_le_succ more)
    rw [alarmToWatch_build, isMounted, Option.map_some, laws.next_mounted]
    rfl
  data := by
    intro more data drawn
    obtain ⟨mounted, isMounted⟩ := caughtUp.mounted (by omega)
    have flag := caughtUp.alarmToWatch (Nat.le_of_succ_le_succ more) mounted isMounted
    simp only [MainScreen.frame, if_true, Option.some.injEq, WatchTab.build, isMounted,
      Option.map_some, laws.next_mounted, ← flag] at drawn
    -- The flag was true in the frame before, which mounted the builder of the data.
    cases mounted with
    | waiting | plain => cases drawn
    | watching last =>
        simp only [WatchTab.alarmToWatch, WatchTab.data, Option.bind_some, laws.next_mounted,
          WatchTab.watching.injEq] at drawn
        exact drawn.symm

theorem CaughtUp.kept {frames : Nat} (caughtUp : CaughtUp frames screen)
    (sameTab : next.watchTab = screen.watchTab)
    (sameFlag : next.main.bloc.store.alarmToWatch = screen.main.bloc.store.alarmToWatch)
    (sameData : next.main.bloc.store.data = screen.main.bloc.store.data) :
    CaughtUp frames next := by
  refine ⟨?_, ?_, ?_⟩
  · rw [sameTab]
    exact caughtUp.mounted
  · rw [sameTab, sameFlag]
    exact caughtUp.alarmToWatch
  · rw [sameTab, sameData]
    exact caughtUp.data

theorem onAlarmPage_kept {event : AlarmPage.Event}
    (stepped : screen.onAlarmPage event = some next) :
    next.watchTab = screen.watchTab ∧ next.main = screen.main := by
  simp only [MainScreen.onAlarmPage, Option.bind_eq_bind, Option.bind_eq_some_iff,
    Option.pure_def, Option.some.injEq] at stepped
  obtain ⟨page, _, after, _, rfl⟩ := stepped
  exact ⟨rfl, rfl⟩

/-- A tile of a short list tells the Watch tab nothing. -/
theorem pressTile_kept {page : AlarmPage} {index : Nat} (short : opensWatch page = false)
    (stepped : MainScreen.pressTile index page screen = some next) :
    next.watchTab = screen.watchTab ∧ next.main = screen.main := by
  unfold MainScreen.pressTile at stepped
  split at stepped
  · cases stepped
  · simp only [short, Bool.false_eq_true, if_false] at stepped
    split at stepped <;>
      · cases stepped
        exact ⟨rfl, rfl⟩

/-- A step that is no page transition and does not take the tab out of view. -/
theorem CaughtUp.step {frames : Nat} (caughtUp : CaughtUp frames screen)
    (laws : snapshots.Laws) (joined : Joined alarms lists screen) {event : Event}
    (stepped : (system snapshots alarms lists).step screen event = some next)
    (staying : transitionObserver screen event next = []) (inView : event ≠ .frame false) :
    CaughtUp (frames + [event].count (.frame true)) next := by
  have kept (same : next.watchTab = screen.watchTab ∧ next.main = screen.main) :
      CaughtUp frames next :=
    caughtUp.kept same.1 (by rw [same.2]) (by rw [same.2])
  cases event with
  | frame inside =>
      cases stepped
      cases inside with
      | false => exact absurd rfl inView
      | true => exact caughtUp.frame laws
  | tab index => cases staying
  | openProfile => cases staying
  | goBack => cases staying
  | buildAlarmPage =>
      simp only [system, MainScreen.step] at stepped
      split at stepped <;> cases stepped
      exact kept ⟨rfl, rfl⟩
  | pressTile index =>
      simp only [system, MainScreen.step, Option.bind_eq_some_iff] at stepped
      obtain ⟨page, isPage, pressed⟩ := stepped
      have short : opensWatch page = false := by
        cases opens : opensWatch page with
        | false => rfl
        | true => simp [transitionObserver, isPage, opens] at staying
      exact kept (pressTile_kept short pressed)
  | scroll metrics => exact kept (onAlarmPage_kept stepped)
  | buildAlarms => exact kept (onAlarmPage_kept stepped)
  | resumeLoad call => exact kept (onAlarmPage_kept stepped)
  | resumeIndicator call =>
      simp only [system, MainScreen.step, MainPage.system, MainPage.step,
        Option.map_eq_some_iff] at stepped
      obtain ⟨main, ⟨bloc, resumed, rfl⟩, rfl⟩ := stepped
      obtain ⟨frame, due, _, _, rfl⟩ :=
        (joined.live.resume_eq_some_iff screen.main.bloc).mp resumed
      refine caughtUp.kept rfl ?_ ?_ <;>
        · simp only [MainBloc.afterRound]
          split <;> rfl
  | elapse milliseconds =>
      cases stepped
      exact caughtUp.kept rfl rfl rfl

theorem caughtUp_of_run {before after : List Event} {state : MainScreen} (laws : snapshots.Laws)
    (reached : (system snapshots alarms lists).run {} before = some state)
    (ran : (system snapshots alarms lists).run state after = some screen)
    (staying : (system snapshots alarms lists).observe transitionObserver state after = [])
    (inView : .frame false ∉ after) : CaughtUp (after.count (.frame true)) screen := by
  revert staying inView
  refine EventSystem.run_induction (motive := fun after screen =>
    (system snapshots alarms lists).observe transitionObserver state after = [] →
    .frame false ∉ after → CaughtUp (after.count (.frame true)) screen)
    (fun _ _ => ⟨by simp, by simp, by simp⟩) ?_ ran
  intro events screen event next ran' ih stepped staying inView
  rw [EventSystem.observe_concat ran' stepped, List.append_eq_nil_iff] at staying
  simp only [List.mem_append, List.mem_singleton, not_or] at inView
  have joined := (joined_of_run (EventSystem.run_append_iff.mpr ⟨state, reached, ran'⟩)).1
  rw [List.count_append]
  exact (ih staying.1 inView.1).step laws joined stepped staying.2 (Ne.symm inView.2)

/-- What a frame in view shows is asked for by the last transition before it, or one of
the two widgets for missing data. -/
theorem content_build (laws : snapshots.Laws) {last : Option (Option Nat)}
    (shows : screen.Shows last) (mounted : Option WatchTab) :
    let content := (WatchTab.build snapshots screen.main.bloc.store mounted).content
    content = .emptyPage ∨ content = .indicator ∨ screen.Asked last content := by
  have flag := laws.next_cases screen.main.bloc.store.alarmToWatch
    (mounted.map WatchTab.alarmToWatch)
  have data := laws.next_cases screen.main.bloc.store.data (mounted.bind WatchTab.data)
  rcases flag with without | present
  · exact .inl (by simp only [WatchTab.build, without, WatchTab.content])
  · refine .inr ?_
    rcases last with _ | _ | index
    · obtain ⟨target, watching⟩ := shows
      have isPlain := present.trans watching.alarmToWatch
      exact .inr (by simp [WatchTab.build, isPlain, WatchTab.content, Asked])
    · obtain ⟨target, watching⟩ := shows
      have isPlain := present.trans watching.alarmToWatch
      exact .inr (by simp [WatchTab.build, isPlain, WatchTab.content, Asked])
    · obtain ⟨page, alarm, isPage, entry, isRead, watching⟩ := shows
      have isWatching := present.trans watching.alarmToWatch
      rcases data with missing | delivered
      · exact .inl (by simp [WatchTab.build, isWatching, missing, WatchTab.content])
      · have shown := delivered.trans (watching.data alarm rfl)
        exact .inr ⟨page, alarm, isPage, entry, isRead,
          by simp [WatchTab.build, isWatching, shown, WatchTab.content], watching.target⟩

theorem CaughtUp.asked (caughtUp : CaughtUp 3 screen) {last : Option (Option Nat)}
    (shows : screen.Shows last) {tab : WatchTab} (drawn : screen.watchTab = some tab) :
    screen.Asked last tab.content := by
  have flag := caughtUp.alarmToWatch (by decide) tab drawn
  rcases last with _ | _ | index
  · obtain ⟨target, watching⟩ := shows
    rw [watching.alarmToWatch] at flag
    cases tab <;> cases flag
    rfl
  · obtain ⟨target, watching⟩ := shows
    rw [watching.alarmToWatch] at flag
    cases tab <;> cases flag
    rfl
  · obtain ⟨page, alarm, isPage, entry, isRead, watching⟩ := shows
    rw [watching.alarmToWatch] at flag
    cases tab with
    | waiting | plain => cases flag
    | watching data =>
        have shown := caughtUp.data (by decide) data drawn
        rw [watching.data alarm rfl] at shown
        subst shown
        exact ⟨page, alarm, isPage, entry, isRead, rfl, watching.target⟩

theorem CaughtUp.mono {frames fewer : Nat} (caughtUp : CaughtUp frames screen)
    (le : fewer ≤ frames) : CaughtUp fewer screen :=
  ⟨fun more => caughtUp.mounted (more.trans le), fun more => caughtUp.alarmToWatch (more.trans le),
    fun more => caughtUp.data (more.trans le)⟩

/-- In every frame in view the Watch tab shows what the last page transition before the
frame asks for, if not one of the two widgets for missing data: the entry of the tile
that asked for it as it is in the list by now, marked as read, the tab being the target,
or nothing of the list. From the third frame in view on, without a page transition
between them, it shows exactly that. -/
theorem watch_tab_shows_last_pressed_entry (laws : snapshots.Laws)
    (ran : (system snapshots alarms lists).run {} (events ++ [.frame true]) = some screen) :
    ∃ tab, screen.watchTab = some tab ∧
      (tab.content = .emptyPage ∨ tab.content = .indicator ∨ screen.Asked
        ((system snapshots alarms lists).observe transitionObserver {} events).getLast?
        tab.content) ∧
      ∀ before after state, events = before ++ after →
        (system snapshots alarms lists).run {} before = some state →
        (system snapshots alarms lists).observe transitionObserver state after = [] →
        .frame false ∉ after → 2 ≤ after.count (.frame true) →
        screen.Asked
          ((system snapshots alarms lists).observe transitionObserver {} events).getLast?
          tab.content := by
  obtain ⟨last, reached, stepped⟩ := EventSystem.run_concat_iff.mp ran
  have shows := (joined_of_run reached).2
  cases stepped
  refine ⟨_, rfl, content_build laws shows last.watchTab, ?_⟩
  rintro before after state rfl reachedBefore staying inView enough
  obtain ⟨state', reached', ranOn⟩ := EventSystem.run_append_iff.mp reached
  cases reachedBefore.symm.trans reached'
  have caughtUp := (caughtUp_of_run laws reachedBefore ranOn staying inView).frame laws
  exact (caughtUp.mono (Nat.succ_le_succ enough)).asked shows rfl

/-- The third tile is pressed, and the tab comes into view for three frames. -/
def pressedThirdTile : List Event := [.buildAlarmPage, .buildAlarms, .tab 4, .pressTile 2]

theorem watch_tab_shows_third_entry : ∃ screen page alarm,
    (system .delivered initialAlarms (.empty [])).run {}
      (pressedThirdTile ++ [.frame true, .frame true] ++ [.frame true]) = some screen ∧
      screen.alarmPage = some page ∧ page.store.alarms[2]? = some alarm ∧
      screen.watchTab.map WatchTab.content = some (.watchPageWithData alarm) := by
  obtain ⟨screen, ran⟩ : ∃ screen, (system .delivered initialAlarms (.empty [])).run {}
      (pressedThirdTile ++ [.frame true, .frame true] ++ [.frame true]) = some screen :=
    Option.isSome_iff_exists.mp (by decide +kernel)
  obtain ⟨state, reached⟩ : ∃ state, (system .delivered initialAlarms (.empty [])).run {}
      pressedThirdTile = some state := Option.isSome_iff_exists.mp (by decide +kernel)
  have lastTransition : ((system .delivered initialAlarms (.empty [])).observe transitionObserver {}
      (pressedThirdTile ++ [.frame true, .frame true])).getLast? = some (some 2) := by
    decide +kernel
  obtain ⟨tab, drawn, _, exactly⟩ := watch_tab_shows_last_pressed_entry
    Snapshots.delivered_laws ran
  have asked := exactly pressedThirdTile [.frame true, .frame true] state rfl reached rfl
    (by decide) (by decide)
  rw [lastTransition] at asked
  obtain ⟨page, alarm, isPage, entry, _, content, _⟩ := asked
  exact ⟨screen, page, alarm, ran, isPage, entry, by rw [drawn, Option.map_some, content]⟩

end MainScreen

end FacebookApp
