import FacebookApp.Bloc.MainBloc

/-!
# Properties of the main bloc

What the functions of the bloc do before it is disposed, and from it what one
step of the bloc can do.
-/

set_option autoImplicit false

namespace FacebookApp

open Dart

namespace IndicatorFrame

@[simp] theorem continues_ascending (index i : Int) :
    (IndicatorFrame.mk .ascending index i).continues = decide (i ≤ index) := rfl

@[simp] theorem continues_descending (index i : Int) :
    (IndicatorFrame.mk .descending index i).continues = decide (i ≥ index) := rfl

@[simp] theorem advance_ascending (index i : Int) :
    (IndicatorFrame.mk .ascending index i).advance = .mk .ascending index (i + 1) := rfl

@[simp] theorem advance_descending (index i : Int) :
    (IndicatorFrame.mk .descending index i).advance = .mk .descending index (i - 1) := rfl

@[simp] theorem advance_index (frame : IndicatorFrame) :
    frame.advance.index = frame.index := by
  rcases frame with ⟨loop, index, i⟩
  cases loop <;> rfl

end IndicatorFrame

namespace MainBloc

structure Live (bloc : MainBloc) : Prop where
  index_open : bloc.index.isClosed = false
  delay_open : bloc.delay.isClosed = false
  target_open : bloc.target.isClosed = false
  alarmToWatch_open : bloc.alarmToWatch.isClosed = false
  data_open : bloc.data.isClosed = false
  index_present : ∃ current, bloc.index.value? = some current
  delay_present : ∃ delay, bloc.delay.value? = some delay
  target_present : ∃ target, bloc.target.value? = some target

theorem live_initial : Live initial.store where
  index_open := rfl
  delay_open := rfl
  target_open := rfl
  alarmToWatch_open := rfl
  data_open := rfl
  index_present := ⟨0, rfl⟩
  delay_present := ⟨50, rfl⟩
  target_present := ⟨0, rfl⟩

theorem Live.emit_index {bloc : MainBloc} (live : Live bloc) (index : Int) :
    Live { bloc with index := bloc.index.emit index } :=
  { live with index_open := live.index_open, index_present := ⟨index, by simp⟩ }

theorem Live.emit_delay {bloc : MainBloc} (live : Live bloc) (delay : Int) :
    Live { bloc with delay := bloc.delay.emit delay } :=
  { live with delay_open := live.delay_open, delay_present := ⟨delay, by simp⟩ }

theorem Live.emit_target {bloc : MainBloc} (live : Live bloc) (target : Int) :
    Live { bloc with target := bloc.target.emit target } :=
  { live with target_open := live.target_open, target_present := ⟨target, by simp⟩ }

theorem Live.emit_alarmToWatch {bloc : MainBloc} (live : Live bloc) (alarmToWatch : Bool) :
    Live { bloc with alarmToWatch := bloc.alarmToWatch.emit alarmToWatch } :=
  { live with alarmToWatch_open := live.alarmToWatch_open }

theorem Live.emit_data {bloc : MainBloc} (live : Live bloc) (data : AlarmData) :
    Live { bloc with data := bloc.data.emit data } :=
  { live with data_open := live.data_open }

theorem Live.run_updateDelay {bloc : MainBloc} (live : Live bloc) (delay : Int) :
    (updateDelay delay).run bloc = .ok () { bloc with delay := bloc.delay.emit delay } :=
  Cell.run_add_open delayCell live.delay_open delay

theorem Live.run_updateTarget {bloc : MainBloc} (live : Live bloc) (target : Int) :
    (updateTarget target).run bloc =
      .ok () { bloc with target := bloc.target.emit target } :=
  Cell.run_add_open targetCell live.target_open target

theorem Live.run_updateAlarmToWatch {bloc : MainBloc} (live : Live bloc)
    (alarmToWatch : Bool) :
    (updateAlarmToWatch alarmToWatch).run bloc =
      .ok () { bloc with alarmToWatch := bloc.alarmToWatch.emit alarmToWatch } :=
  Cell.run_add_open alarmToWatchCell live.alarmToWatch_open alarmToWatch

theorem Live.run_updateData {bloc : MainBloc} (live : Live bloc) (data : AlarmData) :
    (updateData data).run bloc = .ok () { bloc with data := bloc.data.emit data } :=
  Cell.run_add_open dataCell live.data_open data

theorem Live.run_updateIndex {bloc : MainBloc} (live : Live bloc) (index : Int) :
    (updateIndex index).run bloc = .ok () { bloc with index := bloc.index.emit index } :=
  Cell.run_add_open indexCell live.index_open index

theorem run_currentIndex {bloc : MainBloc} {current : Int}
    (shown : bloc.index.value? = some current) :
    currentIndex.run bloc = .ok current bloc :=
  Cell.run_value indexCell shown

theorem run_currentDelay {bloc : MainBloc} {delay : Int}
    (present : bloc.delay.value? = some delay) :
    currentDelay.run bloc = .ok delay bloc :=
  Cell.run_value delayCell present

def delayFor (distance : Nat) : Int :=
  if distance = 0 then duration else Double.roundHalfAway (duration / distance)

/-- `calDelay` never throws, whatever the distance. -/
theorem run_calDelay (bloc : MainBloc) {current : Int}
    (shown : bloc.index.value? = some current) (index : Int) :
    (calDelay index).run bloc = .ok (delayFor (index - current).natAbs) bloc := by
  unfold calDelay delayFor
  by_cases zero : (index - current).natAbs = 0
  · simp only [EStateM.run_bind, run_currentIndex shown, zero, Double.divide, duration]
    rfl
  · have nonzero : ((index - current).natAbs : Int) ≠ 0 := by exact_mod_cast zero
    simp only [EStateM.run_bind, run_currentIndex shown, Double.divide, if_neg nonzero,
      Double.isInfinite, Bool.false_eq_true, if_false, if_neg zero, Double.round]
    rfl

/-! ## One round of an indicator loop -/

def awaitedDelay (bloc : MainBloc) : Nat := (bloc.delay.value?.getD 0).toNat

def afterRound (frame : IndicatorFrame) (bloc : MainBloc) : MainBloc :=
  if frame.continues then { bloc with index := bloc.index.emit frame.i } else bloc

def roundActivation (frame : IndicatorFrame) (state : State) :
    Activation Empty IndicatorFrame :=
  if frame.continues then .suspended frame (state.now + state.store.awaitedDelay)
  else .returned

theorem Live.run_indicatorRound {bloc : MainBloc} (live : Live bloc)
    (frame : IndicatorFrame) :
    (indicatorRound frame).run bloc =
      .ok (if frame.continues then some (frame, bloc.awaitedDelay) else none)
        (bloc.afterRound frame) := by
  obtain ⟨delay, present⟩ := live.delay_present
  cases continues : frame.continues with
  | false => simp [indicatorRound, afterRound, continues]
  | true =>
      have delayed : currentDelay.run { bloc with index := bloc.index.emit frame.i } =
          .ok delay { bloc with index := bloc.index.emit frame.i } :=
        run_currentDelay present
      have awaited : bloc.awaitedDelay = delay.toNat := by
        simp [awaitedDelay, present]
      simp only [indicatorRound, afterRound, continues, if_true, EStateM.run_bind,
        live.run_updateIndex, delayed, awaited]
      rfl

theorem Live.afterRound {bloc : MainBloc} (live : Live bloc) (frame : IndicatorFrame) :
    Live (bloc.afterRound frame) := by
  unfold MainBloc.afterRound
  split
  · exact live.emit_index frame.i
  · exact live

theorem ofResult_round (frame : IndicatorFrame) (state : State) (store : MainBloc) :
    Activation.ofResult state.now
        (.ok (if frame.continues then some (frame, state.store.awaitedDelay) else none)
          store) =
      roundActivation frame state := by
  unfold roundActivation
  cases frame.continues <;> rfl

def startFrame (current index : Int) : IndicatorFrame :=
  if index > current then { loop := .ascending, index, i := current + 1 }
  else { loop := .descending, index, i := current - 1 }

theorem run_animateIndicator {bloc : MainBloc} {current : Int}
    (shown : bloc.index.value? = some current) (index : Int) :
    (animateIndicator index).run bloc =
      (indicatorRound (startFrame current index)).run bloc := by
  by_cases above : index > current <;>
    simp [animateIndicator, startFrame, run_currentIndex shown, above]

theorem Live.call_animateIndicator (state : State) {current : Int}
    (live : Live state.store) (shown : state.store.index.value? = some current)
    (index : Int) :
    state.call (animateIndicator index) = { state with
      store := state.store.afterRound (startFrame current index)
      activations := state.activations ++
        [roundActivation (startFrame current index) state] } := by
  simp only [Isolate.call, run_animateIndicator shown, live.run_indicatorRound,
    finalStore_ok, ofResult_round]

theorem Live.resume_eq_some_iff (state : State) {next : State} (live : Live state.store)
    {call : Nat} :
    state.resume resumeIndicator call = some next ↔
      ∃ frame due, state.activations[call]? = some (.suspended frame due) ∧
        due ≤ state.now ∧
        next = { state with
          store := state.store.afterRound frame.advance
          activations := state.activations.set call
            (roundActivation frame.advance state) } := by
  simp only [Isolate.resume_eq_some_iff, resumeIndicator, live.run_indicatorRound,
    finalStore_ok, ofResult_round]

/-! ## Steps -/

/-- The steps of a bloc that is not disposed. An update leaves the indicator
alone; the code of a call is one round of its loop. -/
inductive LiveStep (state : State) : Event → State → Prop where
  | update {event : Event} {store : MainBloc}
      (notCalling : ∀ index, event ≠ .animateIndicator index)
      (notResuming : ∀ call, event ≠ .resume call)
      (live : Live store) (sameIndex : store.index = state.store.index) :
      LiveStep state event { state with store := store }
  | call {current index : Int} (shown : state.store.index.value? = some current) :
      LiveStep state (.animateIndicator index) { state with
        store := state.store.afterRound (startFrame current index)
        activations := state.activations ++
          [roundActivation (startFrame current index) state] }
  | resume {call : Nat} {frame : IndicatorFrame} {due : Nat}
      (found : state.activations[call]? = some (.suspended frame due))
      (isDue : due ≤ state.now) :
      LiveStep state (.resume call) { state with
        store := state.store.afterRound frame.advance
        activations := state.activations.set call
          (roundActivation frame.advance state) }
  | elapse {milliseconds : Nat} :
      LiveStep state (.elapse milliseconds) { state with now := state.now + milliseconds }

theorem liveStep_of_step {state next : State} {event : Event} (live : Live state.store)
    (notDisposing : event ≠ .dispose) (stepped : system.step state event = some next) :
    LiveStep state event next := by
  cases event with
  | updateDelay delay =>
      cases stepped
      simp only [Isolate.perform, live.run_updateDelay, finalStore_ok]
      exact .update nofun nofun (live.emit_delay delay) rfl
  | updateTarget target =>
      cases stepped
      simp only [Isolate.perform, live.run_updateTarget, finalStore_ok]
      exact .update nofun nofun (live.emit_target target) rfl
  | updateAlarmToWatch alarmToWatch =>
      cases stepped
      simp only [Isolate.perform, live.run_updateAlarmToWatch, finalStore_ok]
      exact .update nofun nofun (live.emit_alarmToWatch alarmToWatch) rfl
  | updateData data =>
      cases stepped
      simp only [Isolate.perform, live.run_updateData, finalStore_ok]
      exact .update nofun nofun (live.emit_data data) rfl
  | animateIndicator index =>
      cases stepped
      obtain ⟨current, shown⟩ := live.index_present
      rw [live.call_animateIndicator state shown]
      exact .call shown
  | resume call =>
      obtain ⟨frame, due, found, isDue, rfl⟩ := (live.resume_eq_some_iff state).mp stepped
      exact .resume found isDue
  | elapse milliseconds =>
      cases stepped
      exact .elapse
  | dispose => exact absurd rfl notDisposing

theorem LiveStep.live {state next : State} {event : Event}
    (transition : LiveStep state event next) (live : Live state.store) :
    Live next.store := by
  cases transition with
  | update _ _ live' _ => exact live'
  | call => exact live.afterRound _
  | resume => exact live.afterRound _
  | elapse => exact live

end MainBloc

end FacebookApp
