import FacebookApp.Bloc.AlarmBloc

/-!
# Alarm page

The handlers of the alarm page and the machine of one mounted page with its
bloc. The page transition that a tile also asks for is the main page's business
and leaves the bloc alone.
-/

set_option autoImplicit false

namespace FacebookApp

open Dart

structure ScrollMetrics where
  appHeight : ℚ
  maxScrollExtent : ℚ
  offset : ℚ
  deriving DecidableEq

/-- The page and its bloc, with the calls of `readMore` made so far. -/
abbrev AlarmPage := Isolate Empty AlarmStore Unit

namespace AlarmPage

def loadingTileHeight (appHeight : ℚ) : ℚ := appHeight * (12 / 100)

/-- The scroll listener up to its call of `readMore`. -/
def listener (metrics : ScrollMetrics) : Program Empty AlarmStore Bool := do
  AlarmBloc.updateScrollOffset metrics.offset
  let store ← get
  return decide (metrics.maxScrollExtent - loadingTileHeight metrics.appHeight * 2 <
    metrics.offset) && decide (store.alarms.length ≥ 6)

def buildTile (index : Nat) : Program Empty AlarmStore (AlarmData × Bool) := do
  let store ← get
  match store.alarms[index]?, store.tempList[index]? with
  | some alarm, some isRead => return (alarm, isRead)
  | _, _ => throw .rangeError

def buildTiles : List Nat → Program Empty AlarmStore (List (AlarmData × Bool))
  | [] => return []
  | index :: indices => do
      let tile ← buildTile index
      return tile :: (← buildTiles indices)

/-- The builders of the alarm list, with the last event of both streams. Without
one they show a progress indicator. -/
def buildAlarms : Program Empty AlarmStore (List (AlarmData × Bool)) := do
  let store ← get
  match store.bloc.alarmLength.value?, store.bloc.isReads.value? with
  | some length, some list =>
      AlarmBloc.clearTemp
      AlarmBloc.setTemp (store.lists.object list)
      buildTiles (List.range length)
  | _, _ => return []

def markRead (index : Nat) : Program Empty AlarmStore Unit := do
  let store ← get
  if index < store.alarms.length then
    set { store with alarms := store.alarms.modify index AlarmData.read }
  else throw .rangeError

def pressTile (index : Nat) : Program Empty AlarmStore Unit := do
  AlarmBloc.setTempElementAt index true
  AlarmBloc.updateIsReads (← get).bloc.temp
  markRead index

inductive Event where
  | scroll (metrics : ScrollMetrics)
  | readMore
  | resume (call : Nat)
  | build
  | press (index : Nat)
  | elapse (milliseconds : Nat)
  deriving DecidableEq

/-- Only the tiles of the last published length are there to be pressed. -/
def step (page : AlarmPage) : Event → Option AlarmPage
  | .scroll metrics => some (page.performThenCall (listener metrics) AlarmBloc.readMore)
  | .readMore => some (page.call AlarmBloc.readMore)
  | .resume call => page.resume AlarmBloc.resumeReadMore call
  | .build => some (page.perform buildAlarms)
  | .press index =>
      match page.store.bloc.alarmLength.value? with
      | some length => if index < length then some (page.perform (pressTile index)) else none
      | none => none
  | .elapse milliseconds => some (page.elapse milliseconds)

def system : EventSystem AlarmPage Event where
  step := step

/-- The page when it was just put on screen: a new bloc after `init`. -/
def opened (alarms : List AlarmData) (lists : Heap (List Bool)) : AlarmPage where
  store := finalStore (AlarmBloc.init.run (AlarmBloc.create alarms lists))
  activations := []
  now := 0

def Event.completesLoad : Event → Bool
  | .resume _ => true
  | _ => false

def completedLoads (events : List Event) : Nat := events.countP Event.completesLoad

def Event.pressed? : Event → Option Nat
  | .press index => some index
  | _ => none

def pressedTiles (events : List Event) : List Nat := events.filterMap Event.pressed?

def loadedEntries (loads : Nat) : Nat := 5 * min loads 3

def testTiles (number : Nat) : List AlarmData := (List.range number).map testTile

def markAll (alarms : List AlarmData) (pressed : List Nat) : List AlarmData :=
  pressed.foldl (fun alarms index => alarms.modify index AlarmData.read) alarms

end AlarmPage

end FacebookApp
