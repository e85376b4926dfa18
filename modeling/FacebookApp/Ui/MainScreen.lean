import FacebookApp.Library.StreamBuilder
import FacebookApp.Ui.AlarmPage
import FacebookApp.Ui.MainPage

/-!
# Main screen

The main page with the pages of its tabs that talk to it: the alarm page, whose
tiles send an entry to the Watch tab, the Watch tab itself, and the profile button
of the menu. The Watch tab is built in frames, and only while it is in view.
-/

set_option autoImplicit false

namespace FacebookApp

open Dart Flutter

/-- What the second child of the page view shows. -/
inductive WatchContent where
  | emptyPage
  | indicator
  | watchPage
  | watchPageWithData (data : AlarmData)
  deriving DecidableEq

/-- The Watch tab by the snapshots it was last built with: without the flag, with a false
flag, and with a true one. Only under a true flag is there a builder of the data. -/
inductive WatchTab where
  | waiting
  | plain
  | watching (data : Option AlarmData)
  deriving DecidableEq

namespace WatchTab

def content : WatchTab → WatchContent
  | .waiting => .emptyPage
  | .plain => .watchPage
  | .watching none => .indicator
  | .watching (some data) => .watchPageWithData data

def alarmToWatch : WatchTab → Option Bool
  | .waiting => none
  | .plain => some false
  | .watching _ => some true

/-- The snapshot of the builder of the data, if there is one. -/
def data : WatchTab → Option (Option AlarmData)
  | .waiting | .plain => none
  | .watching data => some data

def build (snapshots : Snapshots) (bloc : MainBloc) (mounted : Option WatchTab) : WatchTab :=
  match snapshots.next bloc.alarmToWatch (mounted.map alarmToWatch) with
  | none => .waiting
  | some false => .plain
  | some true => .watching (snapshots.next bloc.data (mounted.bind data))

end WatchTab

structure MainScreen where
  main : MainPage := .initial
  /-- The alarm page, which is kept once it was built. -/
  alarmPage : Option AlarmPage := none
  /-- The Watch tab as it was drawn in the last frame, if it was in view. -/
  watchTab : Option WatchTab := none

namespace MainScreen

def transition (index : Int) (alarmToWatch : Bool) (data : Option AlarmData)
    (screen : MainScreen) : Option MainScreen :=
  (MainPage.system.step screen.main (.pageTransition index alarmToWatch data)).map
    fun main => { screen with main := main }

/-- Tiles of a list with fewer entries mark themselves and do nothing else. -/
def opensWatch (page : AlarmPage) : Bool :=
  match page.store.bloc.alarmLength.value? with
  | some length => decide (6 ≤ length)
  | none => false

/-- `onPressed` of a tile, which ends early when marking the tile throws. -/
def pressTile (index : Nat) (page : AlarmPage) (screen : MainScreen) : Option MainScreen :=
  match AlarmPage.system.step page (.press index) with
  | none => none
  | some pressed =>
      let marked := { screen with alarmPage := some pressed }
      match (AlarmPage.pressTile index).run page.store with
      | .error _ _ => some marked
      | .ok _ store =>
          if opensWatch page then marked.transition 1 true store.alarms[index]?
          else some marked

inductive Event where
  | frame (inView : Bool)
  | tab (index : Nat)
  | openProfile
  | goBack
  | buildAlarmPage
  | pressTile (index : Nat)
  | scroll (metrics : ScrollMetrics)
  | buildAlarms
  | resumeLoad (call : Nat)
  | resumeIndicator (call : Nat)
  | elapse (milliseconds : Nat)
  deriving DecidableEq

def onAlarmPage (event : AlarmPage.Event) (screen : MainScreen) : Option MainScreen := do
  let page ← screen.alarmPage
  let next ← AlarmPage.system.step page event
  return { screen with alarmPage := some next }

/-- The button of `WatchPageWithData`. -/
def goBack (screen : MainScreen) : Option MainScreen :=
  match screen.watchTab with
  | some (.watching (some _)) => screen.transition 4 false none
  | _ => none

/-- A frame in which the Watch tab is in view or not. -/
def frame (snapshots : Snapshots) (inView : Bool) (screen : MainScreen) : MainScreen :=
  { screen with
    watchTab :=
      if inView then some (.build snapshots screen.main.bloc.store screen.watchTab) else none }

/-- The screen over the module-level list `alarms` as it was when the screen was
opened. -/
def step (snapshots : Snapshots) (alarms : List AlarmData) (lists : Heap (List Bool))
    (screen : MainScreen) : Event → Option MainScreen
  | .frame inView => some (screen.frame snapshots inView)
  | .tab index => screen.transition index false none
  | .openProfile => screen.transition 2 false none
  | .goBack => screen.goBack
  | .buildAlarmPage =>
      match screen.alarmPage with
      | none => some { screen with alarmPage := some (AlarmPage.opened alarms lists) }
      | some _ => none
  | .pressTile index => screen.alarmPage.bind fun page => pressTile index page screen
  | .scroll metrics => screen.onAlarmPage (.scroll metrics)
  | .buildAlarms => screen.onAlarmPage .build
  | .resumeLoad call => screen.onAlarmPage (.resume call)
  | .resumeIndicator call =>
      (MainPage.system.step screen.main (.resume call)).map
        fun main => { screen with main := main }
  | .elapse milliseconds =>
      some { screen with
        main := { screen.main with bloc := screen.main.bloc.elapse milliseconds }
        alarmPage := screen.alarmPage.map fun page => page.elapse milliseconds }

def system (snapshots : Snapshots) (alarms : List AlarmData) (lists : Heap (List Bool)) :
    EventSystem MainScreen Event where
  step := step snapshots alarms lists

/-- The page transitions of a run, each with the tile that asked for it. -/
def transitionObserver (screen : MainScreen) (event : Event) (_ : MainScreen) :
    List (Option Nat) :=
  match event with
  | .tab _ | .openProfile | .goBack => [none]
  | .pressTile index => if screen.alarmPage.any opensWatch then [some index] else []
  | _ => []

end MainScreen

end FacebookApp
