import FacebookApp.Bloc.MainBloc
import FacebookApp.Models.MainData

/-!
# Main page

The page with the navigation bar. A page transition sends the page view to the
requested tab and starts an animation of the indicator that nobody awaits.
-/

set_option autoImplicit false

namespace FacebookApp

open Dart

structure MainPage where
  bloc : MainBloc.State := MainBloc.initial
  page : Int := 0
  mounted : Bool := true

namespace MainPage

/-- What `_pageTransition` tells the bloc, up to the target that it reads back
for the page controller. -/
def announceTransition (index : Int) (alarmToWatch : Bool) (data : Option AlarmData) :
    Program Empty MainBloc Int := do
  if alarmToWatch then
    MainBloc.updateData (← Program.nonNull data)
    MainBloc.updateAlarmToWatch true
  else
    MainBloc.updateAlarmToWatch false
  MainBloc.updateTarget index
  MainBloc.updateDelay (← MainBloc.calDelay index)
  MainBloc.currentTarget

/-- `_pageTransition`. An error thrown on the way leaves the rest undone. -/
def pageTransition (index : Int) (alarmToWatch : Bool) (data : Option AlarmData)
    (page : MainPage) : MainPage :=
  match (announceTransition index alarmToWatch data).run page.bloc.store with
  | .ok target store =>
      { page with
        page := target
        bloc := Isolate.call (MainBloc.animateIndicator index)
          { page.bloc with store := store } }
  | .error _ store => { page with bloc := { page.bloc with store := store } }

inductive Event where
  | pageTransition (index : Int) (alarmToWatch : Bool) (data : Option AlarmData)
  | resume (call : Nat)
  | elapse (milliseconds : Nat)
  | dispose
  deriving DecidableEq

/-- Transitions come from the tabs and pages of the mounted page. The suspended
loops outlive the page. -/
def step (page : MainPage) : Event → Option MainPage
  | .pageTransition index alarmToWatch data =>
      if page.mounted ∧ 0 ≤ index ∧ index < navigationData.length then
        some (page.pageTransition index alarmToWatch data)
      else none
  | .resume call =>
      (page.bloc.resume MainBloc.resumeIndicator call).map fun bloc =>
        { page with bloc := bloc }
  | .elapse milliseconds => some { page with bloc := page.bloc.elapse milliseconds }
  | .dispose =>
      if page.mounted then
        some { page with
          bloc := { page.bloc with store := page.bloc.store.dispose }
          mounted := false }
      else none

def system : EventSystem MainPage Event where
  step := step

def initial : MainPage := {}

/-- The page with any number of tabs. -/
def stepAmong (tabs : Nat) (page : MainPage) (event : Event) : Option MainPage :=
  match event with
  | .pageTransition index alarmToWatch data =>
      if page.mounted ∧ 0 ≤ index ∧ index < tabs then
        some (page.pageTransition index alarmToWatch data)
      else none
  | .resume _ | .elapse _ | .dispose => step page event

def systemAmong (tabs : Nat) : EventSystem MainPage Event where
  step := stepAmong tabs

def Event.runsCall (page : MainPage) (call : Nat) : Event → Bool
  | .pageTransition _ _ _ => page.bloc.activations.length == call
  | .resume resumed => resumed == call
  | .elapse _ | .dispose => false

/-- The delays that a call of `animateIndicator` awaits. -/
def awaitedObserver (call : Nat) (page : MainPage) (event : Event) (next : MainPage) :
    List Nat :=
  if event.runsCall page call then
    match next.bloc.activations[call]? with
    | some (.suspended _ due) => [due - next.bloc.now]
    | _ => []
  else []

def outstandingOf : Activation Empty IndicatorFrame → Nat
  | .suspended frame _ => (frame.index - frame.i).natAbs
  | .returned => 0
  | .failed _ => 0

def outstanding (page : MainPage) : Nat := (page.bloc.activations.map outstandingOf).sum

/-- A resumption that publishes the last outstanding value is one of a loop that
was started for the current target. -/
def lastValueIsFresh (page : MainPage) : Event → Bool
  | .resume call =>
      match page.bloc.activations[call]? with
      | some (.suspended frame _) =>
          !(frame.advance.continues && page.outstanding == 1) ||
            page.bloc.store.target.value? == some frame.index
      | _ => true
  | _ => true

end MainPage

end FacebookApp
