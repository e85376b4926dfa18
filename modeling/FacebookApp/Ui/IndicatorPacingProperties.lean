import FacebookApp.Ui.MainPageProperties

/-!
# The pace of the latest transition

Only a page transition writes the delay. From the latest transition on every loop
awaits the delay that was computed for it, so its own loop takes as many of these
delays as it has values to publish.
-/

set_option autoImplicit false

namespace FacebookApp

open Dart

namespace MainBloc

theorem delayFor_nonneg (distance : Nat) : 0 ≤ delayFor distance := by
  unfold delayFor
  split
  · decide
  · exact Double.le_roundHalfAway (by unfold duration; positivity)

theorem delayFor_of_pos {distance : Nat} (positive : 1 ≤ distance) :
    delayFor distance = Double.roundHalfAway (100 / distance) := by
  unfold delayFor duration
  rw [if_neg (by omega)]
  norm_num

/-- All delays of a call together miss the duration of the page view by half a
millisecond for each. -/
theorem total_delay_near {distance : Nat} (positive : 1 ≤ distance) :
    2 * |distance * delayFor distance - 100| ≤ distance := by
  have near := Double.abs_mul_roundHalfAway_div_sub_le 100
    (show (0 : ℤ) < distance by exact_mod_cast positive)
  rw [delayFor_of_pos positive]
  push_cast at near
  exact near

end MainBloc

namespace MainPage

open MainBloc (Live OnCourse course courseFrame)

/-! ## Pages with any number of tabs -/

def IsTransition : Event → Prop
  | .pageTransition _ _ _ => True
  | _ => False

theorem stepAmong_eq_step {tabs : Nat} {page : MainPage} {event : Event}
    (notTransition : ¬ IsTransition event) : stepAmong tabs page event = step page event := by
  cases event with
  | pageTransition index alarmToWatch data => exact absurd trivial notTransition
  | resume call => rfl
  | elapse milliseconds => rfl
  | dispose => rfl

/-- Without a transition, a step resumes a loop or lets time pass. -/
inductive LoopStep (page : MainPage) : Event → MainPage → Prop where
  | resume {call : Nat} {frame : IndicatorFrame} {due : Nat}
      (found : page.bloc.activations[call]? = some (.suspended frame due)) :
      LoopStep page (.resume call) (page.resumed call frame)
  | elapse {milliseconds : Nat} :
      LoopStep page (.elapse milliseconds)
        { page with bloc := page.bloc.elapse milliseconds }

theorem loopStep_of_step {tabs : Nat} {page next : MainPage} {event : Event}
    (live : Live page.bloc.store) (notDisposing : event ≠ .dispose)
    (notTransition : ¬ IsTransition event)
    (stepped : (systemAmong tabs).step page event = some next) : LoopStep page event next := by
  have stepped' : system.step page event = some next :=
    (stepAmong_eq_step notTransition).symm.trans stepped
  cases pageStep_of_step live notDisposing stepped' with
  | refused => exact absurd trivial notTransition
  | transition => exact absurd trivial notTransition
  | resume found isDue => exact .resume found
  | elapse => exact .elapse

theorem live_of_run {tabs : Nat} {events : List Event} {page : MainPage}
    (ran : (systemAmong tabs).run initial events = some page) (notDisposed : .dispose ∉ events) :
    Live page.bloc.store := by
  revert notDisposed
  refine EventSystem.run_induction (motive := fun events page =>
    .dispose ∉ events → Live page.bloc.store) (fun _ => MainBloc.live_initial) ?_ ran
  intro events page event next _ ih stepped notDisposed
  simp only [List.mem_append, List.mem_singleton, not_or] at notDisposed
  have live := ih notDisposed.1
  by_cases transition : IsTransition event
  · cases event with
    | pageTransition index alarmToWatch data =>
        simp only [systemAmong, stepAmong, Option.ite_none_right_eq_some,
          Option.some.injEq] at stepped
        obtain ⟨_, rfl⟩ := stepped
        obtain ⟨current, shown⟩ := live.index_present
        rcases pageTransition_cases live shown index alarmToWatch data with
          ⟨_, _, same⟩ | ⟨store, announced, _, same⟩
        · rw [same]
          exact live
        · rw [same]
          exact announced.live.afterRound _
    | resume call => cases transition
    | elapse milliseconds => cases transition
    | dispose => cases transition
  · cases loopStep_of_step live (Ne.symm notDisposed.2) transition stepped with
    | resume found => exact live.afterRound _
    | elapse => exact live

/-! ## The loop of the latest transition -/

/-- The loop of call number `call` was resumed `rounds` times, and every delay it
awaited was the one of its transition, which still stands. -/
structure Paced (start target delay : Int) (call rounds : Nat) (delays : List Nat)
    (page : MainPage) : Prop where
  live : Live page.bloc.store
  standing : page.bloc.store.delay.value? = some delay
  onCourse : OnCourse start target ((course start target).take (rounds + 1)) rounds
    page.bloc.activations[call]?
  awaited : delays = List.replicate (min (rounds + 1) (target - start).natAbs) delay.toNat

theorem delay_afterRound (frame : IndicatorFrame) (bloc : MainBloc) :
    (bloc.afterRound frame).delay = bloc.delay := by
  unfold MainBloc.afterRound
  split <;> rfl

theorem replicate_min_succ {Entry : Type} (entry : Entry) (rounds distance : Nat) :
    List.replicate (min rounds distance) entry ++ (if rounds < distance then [entry] else []) =
      List.replicate (min (rounds + 1) distance) entry := by
  split
  · rename_i within
    rw [Nat.min_eq_left (Nat.le_of_lt within), Nat.min_eq_left within, List.replicate_succ']
  · rename_i beyond
    rw [Nat.min_eq_right (by omega), Nat.min_eq_right (by omega), List.append_nil]

/-- One round of the loop awaits the standing delay if it publishes a value. -/
theorem Paced.of_round {start target delay : Int} {call rounds : Nat} {delays : List Nat}
    (state : MainBloc.State) {event : Event} {page next : MainPage}
    (live : Live next.bloc.store) (standing : next.bloc.store.delay.value? = some delay)
    (sameDelay : state.store.delay.value? = some delay)
    (inTime : rounds ≤ (target - start).natAbs)
    (before : delays = List.replicate (min rounds (target - start).natAbs) delay.toNat)
    (runs : event.runsCall page call = true) (sameNow : next.bloc.now = state.now)
    (result : next.bloc.activations[call]? =
      some (MainBloc.roundActivation (courseFrame start target rounds) state)) :
    Paced start target delay call rounds
      (delays ++ awaitedObserver call page event next) next := by
  have awaited : awaitedObserver call page event next =
      if rounds < (target - start).natAbs then [delay.toNat] else [] := by
    simp only [awaitedObserver, runs, if_true, result, MainBloc.roundActivation_courseFrame]
    by_cases within : rounds < (target - start).natAbs
    · simp [within, sameNow, MainBloc.awaitedDelay, sameDelay]
    · simp [within]
  refine ⟨live, standing, ?_, ?_⟩
  · rw [result, MainBloc.take_course_succ]
    exact OnCourse.of_round state rfl inTime
  · rw [awaited, before, replicate_min_succ]

theorem Paced.step {tabs : Nat} {start target delay : Int} {call rounds : Nat}
    {delays : List Nat} {event : Event} {page next : MainPage}
    (paced : Paced start target delay call rounds delays page)
    (notDisposing : event ≠ .dispose) (notTransition : ¬ IsTransition event)
    (stepped : (systemAmong tabs).step page event = some next) :
    Paced start target delay call (rounds + if event = .resume call then 1 else 0)
      (delays ++ awaitedObserver call page event next) next := by
  cases loopStep_of_step paced.live notDisposing notTransition stepped with
  | @resume other frame due found =>
      by_cases own : other = call
      · subst own
        have onCourse := paced.onCourse
        rw [found] at onCourse
        obtain ⟨within, rfl⟩ := onCourse.frame_eq
        have bound := (List.getElem?_eq_some_iff.mp found).1
        rw [if_pos rfl]
        refine Paced.of_round page.bloc (paced.live.afterRound _) ?_ paced.standing within
          paced.awaited (by simp [Event.runsCall]) rfl ?_
        · rw [MainPage.resumed, delay_afterRound]
          exact paced.standing
        · rw [← MainBloc.advance_courseFrame]
          exact List.getElem?_set_self bound
      · have notOwn : ¬ Event.resume other = .resume call := by simpa using own
        have nothing : awaitedObserver call page (.resume other) (page.resumed other frame) = [] := by
          simp [awaitedObserver, Event.runsCall, own]
        rw [if_neg notOwn, nothing, List.append_nil]
        refine ⟨paced.live.afterRound _, ?_, ?_, paced.awaited⟩
        · rw [MainPage.resumed, delay_afterRound]
          exact paced.standing
        · rw [MainPage.resumed, List.getElem?_set_ne own]
          exact paced.onCourse
  | elapse =>
      simp only [awaitedObserver, Event.runsCall, Bool.false_eq_true, if_false, List.append_nil,
        reduceCtorEq, Nat.add_zero]
      exact ⟨paced.live, paced.standing, paced.onCourse, paced.awaited⟩

theorem paced_of_run {tabs : Nat} {start target delay : Int} {call rounds : Nat}
    {delays : List Nat} {page finish : MainPage} {rest : List Event}
    (paced : Paced start target delay call rounds delays page)
    (ran : (systemAmong tabs).run page rest = some finish) (notDisposed : .dispose ∉ rest)
    (noTransition : ∀ event ∈ rest, ¬ IsTransition event) :
    Paced start target delay call (rounds + rest.count (.resume call))
      (delays ++ (systemAmong tabs).observe (awaitedObserver call) page rest) finish := by
  revert notDisposed noTransition
  refine EventSystem.run_induction (motive := fun rest finish => .dispose ∉ rest →
    (∀ event ∈ rest, ¬ IsTransition event) →
    Paced start target delay call (rounds + rest.count (.resume call))
      (delays ++ (systemAmong tabs).observe (awaitedObserver call) page rest) finish) ?_ ?_ ran
  · intro _ _
    simpa using paced
  · intro rest state event next ran ih stepped notDisposed noTransition
    simp only [List.mem_append, List.mem_singleton, not_or] at notDisposed noTransition
    have before := ih notDisposed.1 fun other member => noTransition other (.inl member)
    have after := before.step (Ne.symm notDisposed.2) (noTransition event (.inr rfl)) stepped
    have counted : (rest ++ [event]).count (.resume call) =
        rest.count (.resume call) + if event = .resume call then 1 else 0 := by
      simp [List.count_append, List.count_singleton]
    rw [counted, ← Nat.add_assoc, EventSystem.observe_concat ran stepped, ← List.append_assoc]
    exact after

theorem Paced.exists_round (tabs : Nat) {start target delay : Int} {call rounds : Nat}
    {delays : List Nat} {page : MainPage}
    (paced : Paced start target delay call rounds delays page)
    (within : rounds < (target - start).natAbs) :
    ∃ front next delays', (∀ event ∈ front, event = .resume call ∨ ∃ ms, event = .elapse ms) ∧
      (systemAmong tabs).run page front = some next ∧
      Paced start target delay call (rounds + 1) delays' next := by
  obtain ⟨due, found⟩ := paced.onCourse.suspended within
  -- Wait until the awaited delay is over, then resume the call once.
  let waited : MainPage := { page with bloc := page.bloc.elapse due }
  have elapsed : (systemAmong tabs).step page (.elapse due) = some waited := rfl
  obtain ⟨bloc, moved⟩ : ∃ bloc,
      waited.bloc.resume MainBloc.resumeIndicator call = some bloc :=
    ⟨_, Isolate.resume_eq_some_iff.mpr
      ⟨_, due, found, Nat.le_add_left due page.bloc.now, rfl⟩⟩
  have stepped : (systemAmong tabs).step waited (.resume call) =
      some { waited with bloc := bloc } := by
    simp only [systemAmong, stepAmong, MainPage.step, moved, Option.map_some]
  have pacedWaiting := paced.step (by simp) (by simp [IsTransition]) elapsed
  have pacedOn := pacedWaiting.step (by simp) (by simp [IsTransition]) stepped
  simp only [reduceCtorEq, if_false, if_true, Nat.add_zero] at pacedOn
  exact ⟨[.elapse due, .resume call], _, _, by simp,
    EventSystem.run_cons_iff.mpr ⟨waited, elapsed,
      EventSystem.run_cons_iff.mpr ⟨_, stepped, rfl⟩⟩, pacedOn⟩

theorem Paced.exists_finish (tabs : Nat) {start target delay : Int} {call rounds : Nat}
    {delays : List Nat} {page : MainPage}
    (paced : Paced start target delay call rounds delays page)
    (inTime : rounds ≤ (target - start).natAbs) :
    ∃ more last, (∀ event ∈ more, event = .resume call ∨ ∃ ms, event = .elapse ms) ∧
      (systemAmong tabs).run page more = some last ∧
      last.bloc.activations[call]? = some .returned := by
  obtain ⟨more, last, onlyCall, finished, rounds', _, done, paced'⟩ :=
    EventSystem.exists_run_of_progress
      (fun remaining _ page => ∃ rounds delays, rounds + remaining = (target - start).natAbs ∧
        Paced start target delay call rounds delays page)
      (by
        rintro remaining events page ⟨rounds, delays, left, before⟩
        obtain ⟨front, next, delays', onlyCall, stepped, after⟩ :=
          before.exists_round tabs (by omega)
        exact ⟨front, next, onlyCall, stepped, rounds + 1, delays', by omega, after⟩)
      [] ⟨rounds, delays, Nat.add_sub_of_le inTime, paced⟩
  exact ⟨more, last, onlyCall, finished, paced'.onCourse.returned done⟩

theorem paced_transition {page : MainPage} {start target : Int} {alarmToWatch : Bool}
    {data : Option AlarmData} (live : Live page.bloc.store)
    (shown : page.bloc.store.index.value? = some start)
    (hasData : alarmToWatch = true → data.isSome = true) :
    Paced start target (MainBloc.delayFor (target - start).natAbs) page.bloc.activations.length 0
      (awaitedObserver page.bloc.activations.length page
        (.pageTransition target alarmToWatch data)
        (page.pageTransition target alarmToWatch data))
      (page.pageTransition target alarmToWatch data) := by
  rcases pageTransition_cases live shown target alarmToWatch data with
    ⟨watching, missing, _⟩ | ⟨store, announced, _, same⟩
  · have present := hasData watching
    simp [missing] at present
  · have standing := announced.delay start shown
    have none : ([] : List Nat) = List.replicate (min 0 (target - start).natAbs)
        (MainBloc.delayFor (target - start).natAbs).toNat := by simp
    rw [same]
    refine Paced.of_round { page.bloc with store := store } (announced.live.afterRound _) ?_
      standing (Nat.zero_le _) none (by simp [Event.runsCall]) rfl ?_
    · rw [transitioned, delay_afterRound]
      exact standing
    · rw [transitioned, List.getElem?_concat_length, MainBloc.startFrame_eq]

/-- For any number of tabs and whatever loops earlier transitions left behind:
`calDelay` does not throw, the delays that the loop of the latest transition awaits
add up to one rounded delay for each step of the way, and the loop can always be run
to its end. -/
theorem latest_transition_is_paced (tabs : Nat) {front rest : List Event}
    {page finish : MainPage} {start target : Int} {alarmToWatch : Bool}
    {data : Option AlarmData}
    (reached : (systemAmong tabs).run initial front = some page)
    (shown : page.bloc.store.index.value? = some start)
    (hasData : alarmToWatch = true → data.isSome = true)
    (ran : (systemAmong tabs).run page (.pageTransition target alarmToWatch data :: rest) =
      some finish)
    (notDisposed : .dispose ∉ front ++ rest)
    (latest : ∀ event ∈ rest, ¬ IsTransition event) :
    let distance := (target - start).natAbs
    let call := page.bloc.activations.length
    let delays := (systemAmong tabs).observe (awaitedObserver call) page
      (.pageTransition target alarmToWatch data :: rest)
    (∀ bloc : MainBloc, bloc.index.value? = some start → ∃ delay,
      (MainBloc.calDelay target).run bloc = .ok delay bloc ∧ 0 ≤ delay) ∧
    (finish.bloc.activations[call]? = some .returned →
      (delays.sum : Int) =
        (if distance = 0 then 0 else distance * Double.roundHalfAway (100 / distance)) ∧
      (1 ≤ distance → 2 * |(delays.sum : Int) - 100| ≤ distance)) ∧
    ∃ more last, (∀ event ∈ more, event = .resume call ∨ ∃ ms, event = .elapse ms) ∧
      (systemAmong tabs).run finish more = some last ∧
      last.bloc.activations[call]? = some .returned := by
  intro distance call delays
  simp only [List.mem_append, not_or] at notDisposed
  have live := live_of_run reached notDisposed.1
  obtain ⟨next, stepped, ranOn⟩ := EventSystem.run_cons_iff.mp ran
  have pressed := stepped
  simp only [systemAmong, stepAmong, Option.ite_none_right_eq_some, Option.some.injEq] at pressed
  obtain ⟨_, rfl⟩ := pressed
  have paced := paced_of_run (paced_transition live shown hasData) ranOn notDisposed.2 latest
  have observed : delays = awaitedObserver call page (.pageTransition target alarmToWatch data)
      (page.pageTransition target alarmToWatch data) ++
      (systemAmong tabs).observe (awaitedObserver call)
        (page.pageTransition target alarmToWatch data) rest := by
    simp only [delays, EventSystem.observe, stepped]
  rw [← observed, Nat.zero_add] at paced
  have inTime := paced.onCourse.resumed_le
  refine ⟨fun bloc shown' =>
    ⟨_, MainBloc.run_calDelay bloc shown' target, MainBloc.delayFor_nonneg _⟩, ?_,
    paced.exists_finish tabs inTime⟩
  intro returned
  have total : (delays.sum : Int) = distance * MainBloc.delayFor distance := by
    have ended : ¬ rest.count (.resume page.bloc.activations.length) <
        (target - start).natAbs := by
      intro within
      obtain ⟨due, found⟩ := paced.onCourse.suspended within
      rw [returned] at found
      cases found
    rw [paced.awaited, Nat.min_eq_right (by omega), List.sum_replicate_nat, Nat.cast_mul,
      Int.toNat_of_nonneg (MainBloc.delayFor_nonneg _)]
  refine ⟨?_, fun positive => ?_⟩
  · rw [total]
    split
    · rename_i zero
      simp [zero]
    · rw [MainBloc.delayFor_of_pos (by omega)]
  · rw [total]
    exact MainBloc.total_delay_near positive

/-- With eight tabs, a loop on its way to the last one is overtaken by a tap two
steps ahead of it. -/
def overtakenLoop : List Event := [.pageTransition 7 false none, .elapse 14, .resume 0]

def overtakingRest : List Event :=
  [.elapse 33, .resume 0, .resume 1, .elapse 33, .resume 1, .resume 0, .elapse 33, .resume 1]

theorem latest_transition_is_paced_overtaking :
    ∃ page finish, (systemAmong 8).run initial overtakenLoop = some page ∧
      (systemAmong 8).run page (.pageTransition 5 false none :: overtakingRest) = some finish ∧
      (((systemAmong 8).observe (awaitedObserver 1) page
        (.pageTransition 5 false none :: overtakingRest)).sum : Int) = 99 := by
  have observed : ((systemAmong 8).run initial overtakenLoop).bind (fun page =>
      ((systemAmong 8).run page (.pageTransition 5 false none :: overtakingRest)).map
        fun finish => (page.bloc.store.index.value?, page.bloc.activations.length,
          decide (finish.bloc.activations[1]? = some .returned))) = some (some 2, 1, true) := by
    decide +kernel
  obtain ⟨page, reached, ran⟩ := Option.bind_eq_some_iff.mp observed
  obtain ⟨finish, ran, results⟩ := Option.map_eq_some_iff.mp ran
  simp only [Prod.mk.injEq, decide_eq_true_eq] at results
  obtain ⟨shown, length, returned⟩ := results
  have undisposed : .dispose ∉ overtakenLoop ++ overtakingRest := by decide
  have latest : ∀ event ∈ overtakingRest, ¬ IsTransition event := by
    simp [overtakingRest, IsTransition]
  have paced := latest_transition_is_paced 8 reached shown (by simp) ran undisposed latest
  rw [length] at paced
  obtain ⟨_, total, _⟩ := paced
  refine ⟨page, finish, reached, ran, (total returned).1.trans ?_⟩
  decide +kernel

end MainPage

end FacebookApp
