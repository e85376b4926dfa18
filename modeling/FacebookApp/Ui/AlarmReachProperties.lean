import FacebookApp.Ui.AlarmAccountProperties

/-!
# Reaching the end of the alarm list

Scrolling is all a user can do to make the list longer, and the scroll listener loads
nothing into a list of fewer than six entries. With six entries or more, whoever keeps
scrolling to the bottom comes to the end.
-/

set_option autoImplicit false

namespace FacebookApp

open Dart

/-- The loading tiles at the end of the list come into sight. -/
def ScrollMetrics.atBottom (metrics : ScrollMetrics) : Bool :=
  metrics.maxScrollExtent - AlarmPage.loadingTileHeight metrics.appHeight * 2 < metrics.offset

namespace AlarmPage

theorem run_listener {store : AlarmStore} (isOpen : store.Open) (metrics : ScrollMetrics) :
    (listener metrics).run store =
      .ok (metrics.atBottom && decide (store.alarms.length ≥ 6)) (scrolled metrics store) := by
  have published := AlarmBloc.run_updateScrollOffset store isOpen.scrollOffset metrics.offset
  simp only [listener, EStateM.run_bind, published, EStateM.run_get]
  rfl

variable {alarms : List AlarmData} {page next : AlarmPage}

theorem Account.length_le {loads : Nat} {tiles : List Nat}
    (account : Account alarms loads tiles page) : alarms.length ≤ page.store.alarms.length := by
  rw [account.entries, length_markAll, List.length_append]
  exact Nat.le_add_right _ _

/-! ## Short lists -/

/-- Nothing was loaded and no load is under way. -/
structure Dormant (alarms : List AlarmData) (page : AlarmPage) : Prop where
  account : ∃ tiles, Account alarms 0 tiles page
  quiet : page.pending = []

theorem Dormant.isEnd (dormant : Dormant alarms page) :
    page.store.bloc.isEnd.value? = some false := by
  obtain ⟨tiles, account⟩ := dormant.account
  simpa using account.isEnd

theorem dormant_opened (alarms : List AlarmData) (lists : Heap (List Bool)) :
    Dormant alarms (opened alarms lists) :=
  ⟨⟨[], account_opened alarms lists⟩, rfl⟩

theorem Dormant.step (dormant : Dormant alarms page) (few : alarms.length < 6) {event : Event}
    (notCalled : event ≠ .readMore) (stepped : system.step page event = some next) :
    Dormant alarms next := by
  obtain ⟨tiles, account⟩ := dormant.account
  have short : page.store.alarms.length = alarms.length := by
    rw [account.entries, length_markAll]
    simp [loadedEntries, testTiles]
  have kept := (alarmStep_of_step account.ready stepped).account account
  cases event with
  | scroll metrics =>
      have ran := run_listener account.ready.isOpen metrics
      have unreached : ¬ page.store.alarms.length ≥ 6 := by omega
      simp only [unreached, decide_false, Bool.and_false] at ran
      simp only [system, AlarmPage.step, Isolate.performThenCall, ran, Option.some.injEq] at stepped
      subst stepped
      exact ⟨⟨_, kept⟩, dormant.quiet⟩
  | readMore => exact absurd rfl notCalled
  | resume call =>
      obtain ⟨frame, due, found, _⟩ := Isolate.resume_eq_some_iff.mp stepped
      have pending : frame ∈ page.pending := Isolate.mem_pending_iff.mpr ⟨call, due, found⟩
      rw [dormant.quiet] at pending
      cases pending
  | press index =>
      have same : next.activations = page.activations := by
        cases alarmStep_of_step account.ready stepped
        rfl
      exact ⟨⟨_, kept⟩, by rw [Isolate.pending, same]; exact dormant.quiet⟩
  | build | elapse _ =>
      cases stepped
      exact ⟨⟨_, kept⟩, dormant.quiet⟩

theorem dormant_of_run {lists : Heap (List Bool)} (few : alarms.length < 6) {events : List Event}
    (notCalled : .readMore ∉ events)
    (ran : system.run (opened alarms lists) events = some page) : Dormant alarms page := by
  revert notCalled
  refine EventSystem.run_induction
    (motive := fun events page => .readMore ∉ events → Dormant alarms page)
    (fun _ => dormant_opened alarms lists) ?_ ran
  intro events page event next _ ih stepped notCalled
  simp only [List.mem_append, List.mem_singleton, not_or] at notCalled
  exact (ih notCalled.1).step few (fun called => notCalled.2 called.symm) stepped

/-! ## Long lists -/

/-- What a user does who waits at the bottom of the list. -/
def waits (metrics : ScrollMetrics) (event : Event) : Prop :=
  event = .scroll metrics ∨ (∃ milliseconds, event = .elapse milliseconds) ∨
    ∃ call, event = .resume call

/-- The list of a page that completed all but `remaining` of its loads. -/
def Left (alarms : List AlarmData) (tiles : List Nat) (remaining : Nat) (page : AlarmPage) :
    Prop :=
  ∃ loads, Account alarms loads tiles page ∧ 4 ≤ loads + remaining ∧
    (remaining = 0 → page.store.bloc.isLoading = false)

theorem Account.exists_loading {metrics : ScrollMetrics} (bottom : metrics.atBottom = true)
    {loads : Nat} {tiles : List Nat} (account : Account alarms loads tiles page)
    (enough : 6 ≤ alarms.length) :
    ∃ front middle, (∀ event ∈ front, waits metrics event) ∧
      system.run page front = some middle ∧ Account alarms loads tiles middle ∧
      middle.store.bloc.isLoading = true := by
  cases loading : page.store.bloc.isLoading with
  | true => exact ⟨[], page, by simp, rfl, account, loading⟩
  | false =>
      have ran := run_listener account.ready.isOpen metrics
      have long : page.store.alarms.length ≥ 6 := enough.trans account.length_le
      simp only [bottom, long, decide_true, Bool.and_true] at ran
      have idle : (AlarmPage.scrolled metrics page.store).bloc.isLoading = false := loading
      have isOpen : (AlarmPage.scrolled metrics page.store).Open :=
        (account.scrolled metrics).ready.isOpen
      have stepped : system.step page (.scroll metrics) = some { page with
          store := (AlarmPage.scrolled metrics page.store).loading
          activations := page.activations ++ [.suspended () (page.now + 2000)] } := by
        simp only [system, AlarmPage.step, Isolate.performThenCall, ran, Isolate.call,
          AlarmBloc.run_readMore_idle isOpen idle]
        rfl
      have kept := (account.scrolled metrics).called (.started idle)
      exact ⟨[.scroll metrics], _, by simp [waits],
        EventSystem.run_cons_iff.mpr ⟨_, stepped, rfl⟩, kept, rfl⟩

theorem Account.exists_loaded {loads : Nat} {tiles : List Nat}
    (account : Account alarms loads tiles page) (loading : page.store.bloc.isLoading = true) :
    ∃ due call next, system.run page [.elapse due, .resume call] = some next ∧
      Account alarms (loads + 1) tiles next ∧ next.store.bloc.isLoading = false := by
  have one : page.pending.length = 1 := by rw [account.pending, loading, if_pos rfl]
  obtain ⟨frame, isPending⟩ := List.exists_mem_of_length_pos (one ▸ Nat.one_pos)
  obtain ⟨call, due, found⟩ := Isolate.mem_pending_iff.mp isPending
  -- Waiting as long as the clock would show when the load is due is always enough.
  have isDue : due ≤ (page.elapse due).now := Nat.le_add_left _ _
  obtain ⟨next, resumed⟩ : ∃ next, system.step (page.elapse due) (.resume call) = some next :=
    ⟨_, Isolate.resume_eq_some_iff.mpr ⟨frame, due, found, isDue, rfl⟩⟩
  have later : Account alarms loads tiles (page.elapse due) := { account with }
  have step := alarmStep_of_step later.ready resumed
  have kept := step.account later
  simp only [Event.completesLoad, if_true, Event.pressed?, Option.toList_none,
    List.append_nil] at kept
  refine ⟨due, call, next, EventSystem.run_cons_iff.mpr ⟨_, rfl,
    EventSystem.run_cons_iff.mpr ⟨_, resumed, rfl⟩⟩, kept, ?_⟩
  cases step
  exact (AlarmStore.loadCompleted_loaded page.store).isLoading

theorem Left.progress {metrics : ScrollMetrics} (bottom : metrics.atBottom = true)
    (enough : 6 ≤ alarms.length) {tiles : List Nat} {remaining : Nat}
    (left : Left alarms tiles (remaining + 1) page) :
    ∃ front next, (∀ event ∈ front, waits metrics event) ∧
      system.run page front = some next ∧ Left alarms tiles remaining next := by
  obtain ⟨loads, account, enoughLeft, _⟩ := left
  obtain ⟨front, middle, waited, ran, kept, loading⟩ := account.exists_loading bottom enough
  obtain ⟨due, call, next, ranOn, loaded, idle⟩ := kept.exists_loaded loading
  refine ⟨front ++ [.elapse due, .resume call], next, ?_,
    EventSystem.run_append_iff.mpr ⟨middle, ran, ranOn⟩, loads + 1, loaded, by omega,
    fun _ => idle⟩
  intro event member
  rcases List.mem_append.mp member with early | late
  · exact waited event early
  · simp only [List.mem_cons, List.not_mem_nil, or_false] at late
    rcases late with rfl | rfl
    · exact .inr (.inl ⟨due, rfl⟩)
    · exact .inr (.inr ⟨call, rfl⟩)

/-- Whatever happened before, the end of the list can be scrolled to exactly when the list
had six entries when the page was opened. -/
theorem end_is_reachable_iff (alarms : List AlarmData) (lists : Heap (List Bool))
    {events : List Event} {page : AlarmPage}
    (ran : system.run (opened alarms lists) events = some page) (notCalled : .readMore ∉ events)
    {metrics : ScrollMetrics} (bottom : metrics.atBottom = true) :
    (∃ rest last, (∀ event ∈ rest, waits metrics event) ∧ system.run page rest = some last ∧
      last.store.bloc.isEnd.value? = some true ∧
      last.store.alarms = markAll (alarms ++ testTiles 15) (pressedTiles events)) ↔
      6 ≤ alarms.length := by
  constructor
  · rintro ⟨rest, last, waited, ranOn, isEnd, _⟩
    by_contra few
    have all : .readMore ∉ events ++ rest := by
      intro called
      rcases List.mem_append.mp called with before | after
      · exact notCalled before
      · rcases waited _ after with scrolls | ⟨_, elapses⟩ | ⟨_, resumes⟩
        · cases scrolls
        · cases elapses
        · cases resumes
    have dormant := dormant_of_run (Nat.lt_of_not_le few) all
      (EventSystem.run_append_iff.mpr ⟨page, ran, ranOn⟩)
    rw [dormant.isEnd] at isEnd
    cases isEnd
  · intro enough
    have account := account_of_run ran
    have start : Left alarms (pressedTiles events) 5 page :=
      ⟨completedLoads events, account, by omega, nofun⟩
    obtain ⟨rest, last, waited, ranOn, loads, finished, many, idle⟩ :=
      EventSystem.exists_run_of_progress
        (fun remaining _ page => Left alarms (pressedTiles events) remaining page)
        (fun _ _ _ left => left.progress bottom enough) events start
    have isIdle := idle rfl
    have isEnd := finished.isEnd
    have entries := finished.entries
    have all : loadedEntries loads = 15 := by
      simp only [loadedEntries]
      omega
    have enoughLoads : 4 ≤ loads := by omega
    rw [isIdle] at isEnd
    rw [all] at entries
    exact ⟨rest, last, waited, ranOn, by simpa [enoughLoads] using isEnd, entries⟩

/-- From the moment when the user has just marked the third entry of a new process. -/
theorem end_is_reachable_iff_marked : ∃ rest last,
    system.run (opened initialAlarms (.empty [])) ([.press 2] ++ rest) = some last ∧
      last.store.bloc.isEnd.value? = some true ∧ last.store.alarms.length = 21 := by
  have bottom : (⟨768, 0, 0⟩ : ScrollMetrics).atBottom = true := by decide +kernel
  have ran : system.run (opened initialAlarms (.empty [])) [.press 2] = some _ := rfl
  obtain ⟨rest, last, _, ranOn, isEnd, entries⟩ :=
    (end_is_reachable_iff initialAlarms (.empty []) ran (by simp) bottom).mpr (by decide)
  refine ⟨rest, last, EventSystem.run_append_iff.mpr ⟨_, ran, ranOn⟩, isEnd, ?_⟩
  rw [entries, length_markAll]
  rfl

end AlarmPage

end FacebookApp
