import FacebookApp.Bloc.IndicatorCourseProperties
import FacebookApp.Ui.MainPage

/-!
# Properties of the main page

What a page transition publishes before its loop starts, what each step of a mounted
page does, and that a run of the page is a run of its bloc which calls
`animateIndicator` for tabs only.
-/

set_option autoImplicit false

namespace FacebookApp

open Dart

namespace MainPage

open MainBloc (Live LiveStep)

/-! ## Page transitions -/

structure Announced (index : Int) (bloc store : MainBloc) : Prop where
  live : Live store
  sameIndex : store.index = bloc.index
  target : store.target.value? = some index
  delay : ∀ current, bloc.index.value? = some current →
    store.delay.value? = some (MainBloc.delayFor (index - current).natAbs)

def IsUpdate (move : MainBloc.Event) : Prop :=
  move ≠ .dispose ∧ ∀ index, move ≠ .animateIndicator index

theorem run_announceTarget {bloc : MainBloc} (live : Live bloc) (index : Int) :
    ∃ store, (do
        MainBloc.updateTarget index
        MainBloc.updateDelay (← MainBloc.calDelay index)
        MainBloc.currentTarget).run bloc = .ok index store ∧
      Announced index bloc store ∧
      ∀ state : MainBloc.State, state.store = bloc →
        ∃ delay, MainBloc.system.run state [.updateTarget index, .updateDelay delay] =
          some { state with store := store } := by
  obtain ⟨current, shown⟩ := live.index_present
  have targetLive := live.emit_target index
  have delayed := MainBloc.run_calDelay { bloc with target := bloc.target.emit index }
    shown index
  have updated := targetLive.run_updateDelay (MainBloc.delayFor (index - current).natAbs)
  refine ⟨{ bloc with
    target := bloc.target.emit index
    delay := bloc.delay.emit (MainBloc.delayFor (index - current).natAbs) }, ?_,
    ⟨targetLive.emit_delay _, rfl, BehaviorSubject.value?_emit _ _, ?_⟩, ?_⟩
  · simp only [EStateM.run_bind, live.run_updateTarget, delayed, updated]
    exact Cell.run_value MainBloc.targetCell (BehaviorSubject.value?_emit _ _)
  · intro other shownOther
    cases shown.symm.trans shownOther
    exact BehaviorSubject.value?_emit _ _
  · rintro state rfl
    refine ⟨MainBloc.delayFor (index - current).natAbs, ?_⟩
    simp [EventSystem.run, MainBloc.system, MainBloc.step, Isolate.perform,
      live.run_updateTarget, updated]

/-- An announcement throws before it published anything, for want of the data to
watch, or it goes through. -/
theorem announceTransition_cases {bloc : MainBloc} (live : Live bloc) (index : Int)
    (alarmToWatch : Bool) (data : Option AlarmData) :
    alarmToWatch = true ∧ data = none ∧
      (announceTransition index alarmToWatch data).run bloc = .error .nullCheckError bloc ∨
    ∃ store, (announceTransition index alarmToWatch data).run bloc = .ok index store ∧
      Announced index bloc store ∧
      ∀ state : MainBloc.State, state.store = bloc →
        ∃ moves, MainBloc.system.run state moves = some { state with store := store } ∧
          ∀ move ∈ moves, IsUpdate move := by
  cases alarmToWatch with
  | false =>
      have updated := live.run_updateAlarmToWatch false
      obtain ⟨store, ran, announced, simulated⟩ :=
        run_announceTarget (live.emit_alarmToWatch false) index
      refine .inr ⟨store, ?_,
        ⟨announced.live, announced.sameIndex, announced.target, announced.delay⟩, ?_⟩
      · simpa [announceTransition, updated] using ran
      · rintro state rfl
        obtain ⟨delay, moved⟩ := simulated { state with
          store := { state.store with
            alarmToWatch := state.store.alarmToWatch.emit false } } rfl
        refine ⟨[.updateAlarmToWatch false, .updateTarget index, .updateDelay delay], ?_,
          by simp [IsUpdate]⟩
        simpa [EventSystem.run, MainBloc.system, MainBloc.step, Isolate.perform, updated]
          using moved
  | true =>
      cases data with
      | none => exact .inl ⟨rfl, rfl, rfl⟩
      | some data =>
          have updated := live.run_updateData data
          have watched := (live.emit_data data).run_updateAlarmToWatch true
          obtain ⟨store, ran, announced, simulated⟩ :=
            run_announceTarget ((live.emit_data data).emit_alarmToWatch true) index
          refine .inr ⟨store, ?_,
            ⟨announced.live, announced.sameIndex, announced.target, announced.delay⟩, ?_⟩
          · simpa [announceTransition, updated, watched] using ran
          · rintro state rfl
            obtain ⟨delay, moved⟩ := simulated { state with
              store := { state.store with
                data := state.store.data.emit data
                alarmToWatch := state.store.alarmToWatch.emit true } } rfl
            refine ⟨[.updateData data, .updateAlarmToWatch true, .updateTarget index,
              .updateDelay delay], ?_, by simp [IsUpdate]⟩
            simpa [EventSystem.run, MainBloc.system, MainBloc.step, Isolate.perform, updated,
              watched] using moved

/-! ## Steps -/

def transitioned (page : MainPage) (store : MainBloc) (current index : Int) : MainPage :=
  let frame := MainBloc.startFrame current index
  { page with
    page := index
    bloc := { page.bloc with
      store := store.afterRound frame
      activations := page.bloc.activations ++
        [MainBloc.roundActivation frame { page.bloc with store := store }] } }

def resumed (page : MainPage) (call : Nat) (frame : IndicatorFrame) : MainPage :=
  { page with
    bloc := { page.bloc with
      store := page.bloc.store.afterRound frame.advance
      activations := page.bloc.activations.set call
        (MainBloc.roundActivation frame.advance page.bloc) } }

theorem pageTransition_cases {page : MainPage} (live : Live page.bloc.store) {current : Int}
    (shown : page.bloc.store.index.value? = some current) (index : Int) (alarmToWatch : Bool)
    (data : Option AlarmData) :
    alarmToWatch = true ∧ data = none ∧
      page.pageTransition index alarmToWatch data = page ∨
    ∃ store, Announced index page.bloc.store store ∧
      (∃ moves, MainBloc.system.run page.bloc moves = some { page.bloc with store := store } ∧
        ∀ move ∈ moves, IsUpdate move) ∧
      page.pageTransition index alarmToWatch data = page.transitioned store current index := by
  rcases announceTransition_cases live index alarmToWatch data with
    ⟨watching, missing, thrown⟩ | ⟨store, ran, announced, simulated⟩
  · exact .inl ⟨watching, missing, by simp only [pageTransition, thrown]⟩
  · have shown' : store.index.value? = some current := announced.sameIndex ▸ shown
    have called := announced.live.call_animateIndicator
      { page.bloc with store := store } shown' index
    refine .inr ⟨store, announced, simulated page.bloc rfl, ?_⟩
    simp only [pageTransition, ran, called]
    rfl

inductive PageStep (page : MainPage) : Event → MainPage → Prop where
  | refused {index : Int} {alarmToWatch : Bool} {data : Option AlarmData} :
      PageStep page (.pageTransition index alarmToWatch data) page
  | transition {index current : Int} {alarmToWatch : Bool} {data : Option AlarmData}
      {store : MainBloc} (isTab : 0 ≤ index ∧ index < navigationData.length)
      (announced : Announced index page.bloc.store store)
      (shown : page.bloc.store.index.value? = some current)
      (simulated : ∃ moves,
        MainBloc.system.run page.bloc moves = some { page.bloc with store := store } ∧
          ∀ move ∈ moves, IsUpdate move) :
      PageStep page (.pageTransition index alarmToWatch data)
        (page.transitioned store current index)
  | resume {call : Nat} {frame : IndicatorFrame} {due : Nat}
      (found : page.bloc.activations[call]? = some (.suspended frame due))
      (isDue : due ≤ page.bloc.now) :
      PageStep page (.resume call) (page.resumed call frame)
  | elapse {milliseconds : Nat} :
      PageStep page (.elapse milliseconds)
        { page with bloc := page.bloc.elapse milliseconds }

theorem pageStep_of_step {page next : MainPage} {event : Event}
    (live : Live page.bloc.store) (notDisposing : event ≠ .dispose)
    (stepped : system.step page event = some next) : PageStep page event next := by
  cases event with
  | pageTransition index alarmToWatch data =>
      simp only [system, step, Option.ite_none_right_eq_some, Option.some.injEq] at stepped
      obtain ⟨⟨_, isTab⟩, rfl⟩ := stepped
      obtain ⟨current, shown⟩ := live.index_present
      rcases pageTransition_cases live shown index alarmToWatch data with
        ⟨_, _, same⟩ | ⟨store, announced, simulated, same⟩
      · rw [same]
        exact .refused
      · rw [same]
        exact .transition isTab announced shown simulated
  | resume call =>
      simp only [system, step, Option.map_eq_some_iff] at stepped
      obtain ⟨bloc, moved, rfl⟩ := stepped
      obtain ⟨frame, due, found, isDue, rfl⟩ := (live.resume_eq_some_iff page.bloc).mp moved
      exact .resume found isDue
  | elapse milliseconds =>
      cases stepped
      exact .elapse
  | dispose => exact absurd rfl notDisposing

/-! ## A run of the page is a run of its bloc -/

def IsPageMove (move : MainBloc.Event) : Prop :=
  move ≠ .dispose ∧
    ∀ index, move = .animateIndicator index → 0 ≤ index ∧ index < navigationData.length

theorem IsUpdate.isPageMove {move : MainBloc.Event} (isUpdate : IsUpdate move) :
    IsPageMove move :=
  ⟨isUpdate.1, fun index calling => absurd calling (isUpdate.2 index)⟩

theorem PageStep.simulated {page next : MainPage} {event : Event}
    (live : Live page.bloc.store) (pageStep : PageStep page event next) :
    ∃ moves, MainBloc.system.run page.bloc moves = some next.bloc ∧
      (∀ move ∈ moves, IsPageMove move) ∧ Live next.bloc.store := by
  cases pageStep with
  | refused => exact ⟨[], rfl, by simp, live⟩
  | @transition index current alarmToWatch data store isTab announced shown simulated =>
      obtain ⟨moves, moved, updates⟩ := simulated
      refine ⟨moves ++ [.animateIndicator index], ?_, ?_, announced.live.afterRound _⟩
      · have shown' : store.index.value? = some current := announced.sameIndex ▸ shown
        have called := announced.live.call_animateIndicator
          { page.bloc with store := store } shown' index
        refine EventSystem.run_append_iff.mpr ⟨_, moved, ?_⟩
        simp only [EventSystem.run, MainBloc.system, MainBloc.step, called]
        rfl
      · intro move member
        rcases List.mem_append.mp member with update | last
        · exact (updates move update).isPageMove
        · rw [List.mem_singleton] at last
          subst last
          exact ⟨by simp, fun other same => by cases same; exact isTab⟩
  | @resume call frame due found isDue =>
      refine ⟨[.resume call], ?_, by simp [IsPageMove], live.afterRound _⟩
      exact EventSystem.run_cons_iff.mpr ⟨_, (live.resume_eq_some_iff page.bloc).mpr
        ⟨frame, due, found, isDue, rfl⟩, rfl⟩
  | @elapse milliseconds =>
      exact ⟨[.elapse milliseconds], rfl, by simp [IsPageMove], live⟩

/-- Every run of the page before its disposal is a run of its bloc that calls
`animateIndicator` for tabs only. -/
theorem exists_blocRun {events : List Event} {page : MainPage}
    (ran : system.run initial events = some page) (notDisposed : .dispose ∉ events) :
    ∃ moves, MainBloc.system.run MainBloc.initial moves = some page.bloc ∧
      ∀ move ∈ moves, IsPageMove move := by
  obtain ⟨moves, state, moved, admitted, rfl, _⟩ :=
    EventSystem.run_simulated MainBloc.system
      (fun page state => state = page.bloc ∧ Live page.bloc.store) (· ≠ .dispose) IsPageMove
      (by
        rintro page event next state ⟨rfl, live⟩ notDisposing stepped
        obtain ⟨moves, moved, admitted, live'⟩ :=
          (pageStep_of_step live notDisposing stepped).simulated live
        exact ⟨moves, next.bloc, moved, admitted, rfl, live'⟩)
      (show MainBloc.initial = initial.bloc ∧ Live initial.bloc.store from
        ⟨rfl, MainBloc.live_initial⟩) ran
      (fun event member same => notDisposed (same ▸ member))
  exact ⟨moves, moved, admitted⟩

end MainPage

end FacebookApp
