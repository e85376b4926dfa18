import FacebookApp.Library.EventSystem
import FacebookApp.Library.Heap
import FacebookApp.Library.Isolate
import FacebookApp.Models.AlarmData
import Mathlib.Algebra.Order.Field.Rat

/-!
# Alarm bloc

The bloc of the alarm page over the module-level list `alarms`. The scratch list
`_temp` is published by reference, so a tile that is marked in it afterwards is
also marked in the list that was published.
-/

set_option autoImplicit false

namespace FacebookApp

open Dart

structure AlarmBloc where
  scrollOffset : BehaviorSubject ℚ := .unseeded
  alarmLength : BehaviorSubject Nat := .unseeded
  isEnd : BehaviorSubject Bool := .unseeded
  isReads : BehaviorSubject Reference := .unseeded
  isLoading : Bool := false
  readMoreCount : Int := 3
  count : Nat := 0
  temp : Reference
  deriving DecidableEq

/-- What the code of the bloc works on: the module-level list, the lists of read
flags, and the bloc itself. -/
structure AlarmStore where
  alarms : List AlarmData
  lists : Heap (List Bool)
  bloc : AlarmBloc

def testTile (count : Nat) : AlarmData where
  user := "Test Tile " ++ toString count
  userType := .individualPerson
  uid := "1111111"
  postType := .onlyText
  content := "Test"
  timeStamp := 1661994000 * 1000
  isRead := false

def AlarmData.read (alarm : AlarmData) : AlarmData := { alarm with isRead := true }

namespace AlarmStore

def tempList (store : AlarmStore) : List Bool := store.lists.object store.bloc.temp

def publishedReads (store : AlarmStore) : Option (List Bool) :=
  store.bloc.isReads.value?.map store.lists.object

/-- `_temp` becomes a list of its own with the given elements. -/
def assignTemp (elements : List Bool) (store : AlarmStore) : AlarmStore :=
  { store with
    lists := store.lists.allocate elements
    bloc := { store.bloc with temp := store.lists.next } }

end AlarmStore

namespace AlarmBloc

def scrollOffsetCell : Cell AlarmStore (BehaviorSubject ℚ) where
  read := fun store => store.bloc.scrollOffset
  write := fun subject store => { store with bloc := { store.bloc with scrollOffset := subject } }

def alarmLengthCell : Cell AlarmStore (BehaviorSubject Nat) where
  read := fun store => store.bloc.alarmLength
  write := fun subject store => { store with bloc := { store.bloc with alarmLength := subject } }

def isEndCell : Cell AlarmStore (BehaviorSubject Bool) where
  read := fun store => store.bloc.isEnd
  write := fun subject store => { store with bloc := { store.bloc with isEnd := subject } }

def isReadsCell : Cell AlarmStore (BehaviorSubject Reference) where
  read := fun store => store.bloc.isReads
  write := fun subject store => { store with bloc := { store.bloc with isReads := subject } }

def updateScrollOffset (offset : ℚ) : Program Empty AlarmStore Unit :=
  scrollOffsetCell.add offset

def updateAlarmLength (length : Nat) : Program Empty AlarmStore Unit :=
  alarmLengthCell.add length

def updateIsEnd (isEnd : Bool) : Program Empty AlarmStore Unit := isEndCell.add isEnd

def updateIsReads (list : Reference) : Program Empty AlarmStore Unit := isReadsCell.add list

def setTemp (list : List Bool) : Program Empty AlarmStore Unit :=
  modify (AlarmStore.assignTemp list)

def setTempElementAt (index : Nat) (value : Bool) : Program Empty AlarmStore Unit := do
  let store ← get
  if index < store.tempList.length then
    set { store with
      lists := store.lists.write store.bloc.temp (store.tempList.set index value) }
  else throw .rangeError

def clearTemp : Program Empty AlarmStore Unit := modify (AlarmStore.assignTemp [])

def parseIsReadsToList (temp : List Bool) (alarms : List AlarmData) : List Bool :=
  alarms.foldl (fun temp alarm => temp ++ [alarm.isRead]) temp

/-- The three lines that publish the read flags of `alarms` anew. -/
def publishIsReads : Program Empty AlarmStore Unit := do
  clearTemp
  let store ← get
  setTemp (parseIsReadsToList store.tempList store.alarms)
  updateIsReads (← get).bloc.temp

def addTile : Program Empty AlarmStore Unit := do
  modify fun store =>
    { store with
      alarms := store.alarms ++ [testTile store.bloc.count]
      bloc := { store.bloc with count := store.bloc.count + 1 } }
  publishIsReads

def addTiles : Nat → Program Empty AlarmStore Unit
  | 0 => pure ()
  | rounds + 1 => do
      addTile
      addTiles rounds

def extendOrEnd : Program Empty AlarmStore Unit := do
  let readMoreCount := (← get).bloc.readMoreCount
  modify fun store =>
    { store with bloc := { store.bloc with readMoreCount := store.bloc.readMoreCount - 1 } }
  if readMoreCount > 0 then
    addTiles 5
  else
    updateIsEnd true

/-- The action of `whenComplete` in `readMore`. -/
def whenLoaded : Program Empty AlarmStore Unit := do
  extendOrEnd
  updateAlarmLength (← get).alarms.length
  modify fun store => { store with bloc := { store.bloc with isLoading := false } }

def readMore : Program Empty AlarmStore (Suspension Unit) := do
  if !(← get).bloc.isLoading then
    modify fun store => { store with bloc := { store.bloc with isLoading := true } }
    updateIsEnd false
    return some ((), 2000)
  else
    return none

def resumeReadMore (_ : Unit) : Program Empty AlarmStore (Suspension Unit) := do
  whenLoaded
  return none

def init : Program Empty AlarmStore Unit := do
  updateAlarmLength (← get).alarms.length
  updateIsEnd false
  publishIsReads

/-- `dispose` closes the subjects and empties `_temp` in place. -/
def dispose : Program Empty AlarmStore Unit :=
  modify fun store =>
    { store with
      lists := store.lists.write store.bloc.temp []
      bloc := { store.bloc with
        scrollOffset := store.bloc.scrollOffset.close
        alarmLength := store.bloc.alarmLength.close
        isEnd := store.bloc.isEnd.close
        isReads := store.bloc.isReads.close } }

def create (alarms : List AlarmData) (lists : Heap (List Bool)) : AlarmStore where
  alarms := alarms
  lists := lists.allocate []
  bloc := { temp := lists.next }

end AlarmBloc

end FacebookApp
