import FacebookApp.Library.EventSystem
import FacebookApp.Library.Isolate
import FacebookApp.Library.Number
import FacebookApp.Models.AlarmData

/-!
# Main bloc

The subjects behind the navigation bar and the async loops that move its
indicator. Every call of `animateIndicator` is an activation of its own; all of
them publish to the same subject and nothing cancels one.
-/

set_option autoImplicit false

namespace FacebookApp

open Dart

structure MainBloc where
  index : BehaviorSubject Int := .seeded 0
  delay : BehaviorSubject Int := .seeded 50
  target : BehaviorSubject Int := .seeded 0
  alarmToWatch : BehaviorSubject Bool := .seeded false
  data : BehaviorSubject AlarmData := .unseeded
  deriving DecidableEq

/-- Where a call of `animateIndicator` is suspended: in the body of one of its
two `for` loops. -/
inductive IndicatorLoop where
  | ascending
  | descending
  deriving DecidableEq, Repr

structure IndicatorFrame where
  loop : IndicatorLoop
  index : Int
  i : Int
  deriving DecidableEq, Repr

namespace IndicatorFrame

def continues (frame : IndicatorFrame) : Bool :=
  match frame.loop with
  | .ascending => decide (frame.i ≤ frame.index)
  | .descending => decide (frame.i ≥ frame.index)

def advance (frame : IndicatorFrame) : IndicatorFrame :=
  match frame.loop with
  | .ascending => { frame with i := frame.i + 1 }
  | .descending => { frame with i := frame.i - 1 }

end IndicatorFrame

namespace MainBloc

def duration : Int := 100

def indexCell : Cell MainBloc (BehaviorSubject Int) where
  read := index
  write := fun subject bloc => { bloc with index := subject }

def delayCell : Cell MainBloc (BehaviorSubject Int) where
  read := delay
  write := fun subject bloc => { bloc with delay := subject }

def targetCell : Cell MainBloc (BehaviorSubject Int) where
  read := target
  write := fun subject bloc => { bloc with target := subject }

def alarmToWatchCell : Cell MainBloc (BehaviorSubject Bool) where
  read := alarmToWatch
  write := fun subject bloc => { bloc with alarmToWatch := subject }

def dataCell : Cell MainBloc (BehaviorSubject AlarmData) where
  read := data
  write := fun subject bloc => { bloc with data := subject }

def updateIndex (index : Int) : Program Empty MainBloc Unit := indexCell.add index

def updateDelay (delay : Int) : Program Empty MainBloc Unit := delayCell.add delay

def updateTarget (target : Int) : Program Empty MainBloc Unit := targetCell.add target

def updateAlarmToWatch (alarmToWatch : Bool) : Program Empty MainBloc Unit :=
  alarmToWatchCell.add alarmToWatch

def updateData (data : AlarmData) : Program Empty MainBloc Unit := dataCell.add data

def currentIndex : Program Empty MainBloc Int := indexCell.value

def currentDelay : Program Empty MainBloc Int := delayCell.value

def currentTarget : Program Empty MainBloc Int := targetCell.value

def calDelay (index : Int) : Program Empty MainBloc Int := do
  let current ← currentIndex
  let quotient := Double.divide duration (Int.natAbs (index - current))
  if quotient.isInfinite then
    return duration
  quotient.round

/-- One round of either `for` loop, up to its `await`. -/
def indicatorRound (frame : IndicatorFrame) :
    Program Empty MainBloc (Suspension IndicatorFrame) := do
  if frame.continues then
    updateIndex frame.i
    let delay ← currentDelay
    -- A negative duration is awaited like a duration of zero.
    return some (frame, delay.toNat)
  else
    return none

def animateIndicator (index : Int) :
    Program Empty MainBloc (Suspension IndicatorFrame) := do
  if index > (← currentIndex) then
    indicatorRound { loop := .ascending, index, i := (← currentIndex) + 1 }
  else
    indicatorRound { loop := .descending, index, i := (← currentIndex) - 1 }

/-- `animateIndicator` from one `await` to the next. -/
def resumeIndicator (frame : IndicatorFrame) :
    Program Empty MainBloc (Suspension IndicatorFrame) :=
  indicatorRound frame.advance

def dispose (bloc : MainBloc) : MainBloc where
  index := bloc.index.close
  delay := bloc.delay.close
  target := bloc.target.close
  alarmToWatch := bloc.alarmToWatch.close
  data := bloc.data.close

abbrev State := Isolate Empty MainBloc IndicatorFrame

inductive Event where
  | updateDelay (delay : Int)
  | updateTarget (target : Int)
  | updateAlarmToWatch (alarmToWatch : Bool)
  | updateData (data : AlarmData)
  | animateIndicator (index : Int)
  | resume (call : Nat)
  | elapse (milliseconds : Nat)
  | dispose
  deriving DecidableEq

def step (state : State) : Event → Option State
  | .updateDelay delay => some (state.perform (updateDelay delay))
  | .updateTarget target => some (state.perform (updateTarget target))
  | .updateAlarmToWatch alarmToWatch =>
      some (state.perform (updateAlarmToWatch alarmToWatch))
  | .updateData data => some (state.perform (updateData data))
  | .animateIndicator index => some (state.call (animateIndicator index))
  | .resume call => state.resume resumeIndicator call
  | .elapse milliseconds => some (state.elapse milliseconds)
  | .dispose => some { state with store := state.store.dispose }

def system : EventSystem State Event where
  step := step

def initial : State where
  store := {}
  activations := []
  now := 0

/-- The calls of `animateIndicator` that a run makes, each with the index shown
when it was made and its target. -/
def callObserver (state : State) (event : Event) (_ : State) : List (Int × Int) :=
  match event with
  | .animateIndicator index =>
      state.store.index.value?.toList.map fun current => (current, index)
  | _ => []

def Event.runsCall (state : State) (call : Nat) : Event → Bool
  | .animateIndicator _ => state.activations.length == call
  | .resume resumed => resumed == call
  | _ => false

/-- The values that call number `call` publishes on the index subject. -/
def publicationObserver (call : Nat) (state : State) (event : Event) (next : State) :
    List Int :=
  if event.runsCall state call then
    next.store.index.events.drop state.store.index.events.length
  else []

def targetObserver (_ : State) (event : Event) (_ : State) : List Int :=
  match event with
  | .animateIndicator index => [index]
  | _ => []

end MainBloc

end FacebookApp
