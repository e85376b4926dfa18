import FacebookApp.Ui.AlarmPage

/-!
# Sessions over one alarm list

What outlives a bloc: the module-level list. First whole sessions, one after
another, then the lifetimes of the blocs in full, where a load may still be
pending when its bloc is disposed.
-/

set_option autoImplicit false

namespace FacebookApp

open Dart

structure AlarmMemory where
  alarms : List AlarmData
  lists : Heap (List Bool)

namespace AlarmMemory

/-- One session: a new bloc, what happens to its page, and its disposal when no
load is pending. -/
def session (memory : AlarmMemory) (events : List AlarmPage.Event) : Option AlarmMemory :=
  match AlarmPage.system.run (AlarmPage.opened memory.alarms memory.lists) events with
  | some page =>
      if page.pending.isEmpty then
        let store := finalStore (AlarmBloc.dispose.run page.store)
        some ⟨store.alarms, store.lists⟩
      else none
  | none => none

def system : EventSystem AlarmMemory (List AlarmPage.Event) where
  step := session

/-- The length and the read flags that a new bloc publishes in `init`. -/
def firstView (memory : AlarmMemory) : Option Nat × Option (List Bool) :=
  let page := AlarmPage.opened memory.alarms memory.lists
  (page.store.bloc.alarmLength.value?, page.store.publishedReads)

def totalLoaded (history : List (List AlarmPage.Event)) : Nat :=
  (history.map fun events => AlarmPage.loadedEntries (AlarmPage.completedLoads events)).sum

def MarkedRead (memory : AlarmMemory) (history : List (List AlarmPage.Event))
    (index : Nat) : Prop :=
  (memory.alarms.map (·.isRead))[index]? = some true ∨
    ∃ events ∈ history, index ∈ AlarmPage.pressedTiles events

end AlarmMemory

/-- The blocs of a process, oldest first, over what they share. -/
structure AlarmWorld where
  alarms : List AlarmData
  lists : Heap (List Bool)
  blocs : List AlarmBloc

def AlarmBloc.isDisposed (bloc : AlarmBloc) : Bool := bloc.isReads.isClosed

namespace AlarmWorld

def blocCell (number : Nat) : Cell AlarmWorld AlarmStore where
  read := fun world =>
    { alarms := world.alarms
      lists := world.lists
      bloc := world.blocs.getD number { temp := 0 } }
  write := fun store world =>
    { alarms := store.alarms
      lists := store.lists
      blocs := world.blocs.set number store.bloc }

def inBloc (number : Nat) (program : Program Empty AlarmStore (Suspension Unit)) :
    Program Empty AlarmWorld (Suspension Nat) := do
  let suspension ← program.within (blocCell number)
  return suspension.map fun (_, delay) => (number, delay)

end AlarmWorld

abbrev AlarmSessions := Isolate Empty AlarmWorld Nat

namespace AlarmSessions

inductive Event where
  | signIn
  | readMore (number : Nat)
  | resume (call : Nat)
  | dispose (number : Nat)
  | elapse (milliseconds : Nat)
  deriving DecidableEq

def signIn (world : AlarmWorld) : AlarmWorld :=
  let store := finalStore (AlarmBloc.init.run (AlarmBloc.create world.alarms world.lists))
  { alarms := store.alarms
    lists := store.lists
    blocs := world.blocs ++ [store.bloc] }

/-- A bloc is created when the ones before it are disposed, and disposed once. -/
def step (state : AlarmSessions) : Event → Option AlarmSessions
  | .signIn =>
      if state.store.blocs.all AlarmBloc.isDisposed then
        some { state with store := signIn state.store }
      else none
  | .readMore number =>
      if number < state.store.blocs.length then
        some (state.call (AlarmWorld.inBloc number AlarmBloc.readMore))
      else none
  | .resume call =>
      state.resume (fun number => AlarmWorld.inBloc number (AlarmBloc.resumeReadMore ())) call
  | .dispose number =>
      match state.store.blocs[number]? with
      | some bloc =>
          if bloc.isDisposed then none
          else some (state.perform (AlarmBloc.dispose.within (AlarmWorld.blocCell number)))
      | none => none
  | .elapse milliseconds => some (state.elapse milliseconds)

def system : EventSystem AlarmSessions Event where
  step := step

def initial (alarms : List AlarmData) (lists : Heap (List Bool)) : AlarmSessions where
  store := ⟨alarms, lists, []⟩
  activations := []
  now := 0

/-- A completion of a load appends nothing or five entries, nothing when its bloc
is disposed, and does not throw. -/
def CompletionIsClean (state : AlarmSessions) (event : Event) : Prop :=
  match event with
  | .resume call =>
      ∀ next, system.step state event = some next →
        ∃ added, next.store.alarms = state.store.alarms ++ added ∧
          (added.length = 0 ∨ added.length = 5) ∧
          (∀ number due bloc, state.activations[call]? = some (.suspended number due) →
            state.store.blocs[number]? = some bloc → bloc.isDisposed = true → added = []) ∧
          ∀ error, next.activations[call]? ≠ some (.failed error)
  | _ => True

def LengthIsCurrent (state : AlarmSessions) : Prop :=
  ∀ bloc ∈ state.store.blocs, bloc.isDisposed = false →
    bloc.alarmLength.value? = some state.store.alarms.length

/-- No completion of a load comes after the disposal of its bloc. -/
def completesBeforeDispose (state : AlarmSessions) : Event → Bool
  | .resume call =>
      match state.activations[call]? with
      | some (.suspended number _) =>
          match state.store.blocs[number]? with
          | some bloc => !bloc.isDisposed
          | none => true
      | _ => true
  | _ => true

end AlarmSessions

end FacebookApp
