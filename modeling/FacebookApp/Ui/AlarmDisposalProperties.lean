import FacebookApp.Bloc.AlarmBlocProperties
import FacebookApp.Ui.AlarmSessions

/-!
# Loads and the disposal of their blocs

While no load completes after the disposal of its bloc, the blocs of a process
keep the shared list and the length that the live bloc published in step.
-/

set_option autoImplicit false

namespace FacebookApp

open Dart

namespace AlarmWorld

/-- The blocs are open or closed as a whole, at most one of them is live, and it
published the length of the shared list last. -/
structure Consistent (world : AlarmWorld) : Prop where
  whole : ∀ {number : Nat} {bloc : AlarmBloc}, world.blocs[number]? = some bloc →
    bloc.ClosedAs bloc.isDisposed
  single : ∀ {number other : Nat} {bloc bloc' : AlarmBloc},
    world.blocs[number]? = some bloc → world.blocs[other]? = some bloc' →
    bloc.isDisposed = false → bloc'.isDisposed = false → number = other
  current : ∀ {number : Nat} {bloc : AlarmBloc}, world.blocs[number]? = some bloc →
    bloc.isDisposed = false → bloc.alarmLength.value? = some world.alarms.length

theorem read_blocCell {world : AlarmWorld} {number : Nat} {bloc : AlarmBloc}
    (found : world.blocs[number]? = some bloc) :
    (blocCell number).read world = ⟨world.alarms, world.lists, bloc⟩ := by
  simp [blocCell, found]

theorem run_inBloc_ok {world : AlarmWorld} {number : Nat} {bloc : AlarmBloc}
    {program : Program Empty AlarmStore (Suspension Unit)} {suspension : Suspension Unit}
    {after : AlarmStore} (found : world.blocs[number]? = some bloc)
    (ran : program.run ⟨world.alarms, world.lists, bloc⟩ = .ok suspension after) :
    (inBloc number program).run world =
      .ok (suspension.map fun (_, delay) => (number, delay))
        ((blocCell number).write after world) := by
  simp only [inBloc, EStateM.run_bind, Program.run_within, read_blocCell found, ran]
  rfl

theorem run_inBloc_error {world : AlarmWorld} {number : Nat} {bloc : AlarmBloc}
    {program : Program Empty AlarmStore (Suspension Unit)} {error : Error Empty}
    {after : AlarmStore} (found : world.blocs[number]? = some bloc)
    (ran : program.run ⟨world.alarms, world.lists, bloc⟩ = .error error after) :
    (inBloc number program).run world =
      .error error ((blocCell number).write after world) := by
  simp only [inBloc, EStateM.run_bind, Program.run_within, read_blocCell found, ran]

theorem found_write {world : AlarmWorld} {number other : Nat} {after : AlarmStore}
    {bloc : AlarmBloc}
    (found : ((blocCell number).write after world).blocs[other]? = some bloc) :
    (other = number ∧ bloc = after.bloc) ∨
      (other ≠ number ∧ world.blocs[other]? = some bloc) := by
  simp only [blocCell, List.getElem?_set] at found
  split at found
  · rename_i same
    split at found
    · exact .inl ⟨same.symm, (Option.some.inj found).symm⟩
    · cases found
  · rename_i different
    exact .inr ⟨fun same => different same.symm, found⟩

/-- Code of one bloc keeps the blocs consistent if it leaves the bloc whole, does
not reopen it, changes the shared list for a live bloc only, and publishes the
new length then. -/
theorem Consistent.write {world : AlarmWorld} (consistent : world.Consistent) {number : Nat}
    {bloc : AlarmBloc} (found : world.blocs[number]? = some bloc) {after : AlarmStore}
    (whole : after.bloc.ClosedAs after.bloc.isDisposed)
    (notReopened : after.bloc.isDisposed = false → bloc.isDisposed = false)
    (unchanged : bloc.isDisposed = true → after.alarms = world.alarms)
    (current : after.bloc.isDisposed = false →
      after.bloc.alarmLength.value? = some after.alarms.length) :
    ((blocCell number).write after world).Consistent where
  whole := by
    intro other bloc' found'
    rcases found_write found' with ⟨rfl, rfl⟩ | ⟨_, old⟩
    · exact whole
    · exact consistent.whole old
  single := by
    intro first second one two foundOne foundTwo openOne openTwo
    rcases found_write foundOne with ⟨rfl, rfl⟩ | ⟨_, oldOne⟩
    · rcases found_write foundTwo with ⟨rfl, rfl⟩ | ⟨_, oldTwo⟩
      · rfl
      · exact consistent.single found oldTwo (notReopened openOne) openTwo
    · rcases found_write foundTwo with ⟨rfl, rfl⟩ | ⟨_, oldTwo⟩
      · exact consistent.single oldOne found openOne (notReopened openTwo)
      · exact consistent.single oldOne oldTwo openOne openTwo
  current := by
    intro other bloc' found' isOpen
    rcases found_write found' with ⟨rfl, rfl⟩ | ⟨different, old⟩
    · exact current isOpen
    · cases disposed : bloc.isDisposed with
      | true =>
          have same : ((blocCell number).write after world).alarms = world.alarms :=
            unchanged disposed
          rw [same]
          exact consistent.current old isOpen
      | false => exact absurd (consistent.single old found isOpen disposed) different

theorem Consistent.signIn {world : AlarmWorld} (consistent : world.Consistent)
    (disposed : ∀ bloc ∈ world.blocs, bloc.isDisposed = true) :
    (AlarmSessions.signIn world).Consistent := by
  have created : (AlarmBloc.create world.alarms world.lists).Open := ⟨rfl, rfl, rfl, rfl⟩
  have signedIn : AlarmSessions.signIn world =
      { alarms := world.alarms
        lists := (AlarmBloc.create world.alarms world.lists).initialized.lists
        blocs := world.blocs ++
          [(AlarmBloc.create world.alarms world.lists).initialized.bloc] } := by
    simp only [AlarmSessions.signIn, AlarmBloc.run_init created, finalStore_ok]
    rfl
  have newest : ∀ {number : Nat} {bloc : AlarmBloc},
      (AlarmSessions.signIn world).blocs[number]? = some bloc →
      (number = world.blocs.length ∧
        bloc = (AlarmBloc.create world.alarms world.lists).initialized.bloc) ∨
      (world.blocs[number]? = some bloc ∧ bloc.isDisposed = true) := by
    intro number bloc found
    rw [signedIn] at found
    simp only [List.getElem?_append, List.getElem?_singleton] at found
    split at found
    · exact .inr ⟨found, disposed bloc (List.mem_of_getElem? found)⟩
    · split at found
      · exact .inl ⟨by omega, (Option.some.inj found).symm⟩
      · cases found
  refine ⟨?_, ?_, ?_⟩
  · intro number bloc found
    rcases newest found with ⟨rfl, rfl⟩ | ⟨old, _⟩
    · exact ⟨rfl, rfl, rfl, rfl⟩
    · exact consistent.whole old
  · intro first second one two foundOne foundTwo openOne openTwo
    rcases newest foundOne with ⟨rfl, rfl⟩ | ⟨_, closed⟩
    · rcases newest foundTwo with ⟨rfl, rfl⟩ | ⟨_, closed⟩
      · rfl
      · rw [closed] at openTwo
        cases openTwo
    · rw [closed] at openOne
      cases openOne
  · intro number bloc found isOpen
    rcases newest found with ⟨rfl, rfl⟩ | ⟨_, closed⟩
    · rw [signedIn]
      rfl
    · rw [closed] at isOpen
      cases isOpen

/-! ## Calls and completions in a bloc -/

structure ReadMoreCalled (number : Nat) (bloc : AlarmBloc) (world : AlarmWorld)
    (result : EStateM.Result (Error Empty) AlarmWorld (Suspension Nat))
    (after : AlarmStore) : Prop where
  store : finalStore result = (blocCell number).write after world
  alarms : after.alarms = world.alarms
  whole : after.bloc.ClosedAs bloc.isDisposed
  alarmLength : after.bloc.alarmLength = bloc.alarmLength
  frame : ∀ {now other due : Nat},
    Activation.ofResult now result = .suspended other due → other = number

theorem readMore_called {world : AlarmWorld} (consistent : world.Consistent) {number : Nat}
    {bloc : AlarmBloc} (found : world.blocs[number]? = some bloc) :
    ∃ after, ReadMoreCalled number bloc world
      ((inBloc number AlarmBloc.readMore).run world) after := by
  have whole := consistent.whole found
  cases loading : bloc.isLoading with
  | true =>
      have ran := run_inBloc_ok found (AlarmBloc.run_readMore_busy loading)
      rw [ran]
      exact ⟨_, rfl, rfl, whole, rfl, nofun⟩
  | false =>
      cases disposed : bloc.isDisposed with
      | true =>
          rw [disposed] at whole
          have ran := run_inBloc_error found (AlarmBloc.run_readMore_closed whole loading)
          rw [ran]
          exact ⟨_, rfl, rfl, by rw [disposed]; exact ⟨whole.1, whole.2, whole.3, whole.4⟩,
            rfl, nofun⟩
      | false =>
          rw [disposed] at whole
          have isOpen : AlarmStore.Open ⟨world.alarms, world.lists, bloc⟩ :=
            ⟨whole.1, whole.2, whole.3, whole.4⟩
          have ran := run_inBloc_ok found (AlarmBloc.run_readMore_idle isOpen loading)
          rw [ran]
          refine ⟨_, rfl, rfl, by rw [disposed]; exact ⟨whole.1, whole.2, whole.3, whole.4⟩,
            rfl, ?_⟩
          intro now other due suspended
          cases suspended
          rfl

end AlarmWorld

namespace AlarmSessions

structure Sound (state : AlarmSessions) : Prop where
  consistent : state.store.Consistent
  frames : ∀ {number due : Nat}, .suspended number due ∈ state.activations →
    number < state.store.blocs.length

theorem sound_initial (alarms : List AlarmData) (lists : Heap (List Bool)) :
    Sound (initial alarms lists) :=
  ⟨⟨nofun, nofun, nofun⟩, nofun⟩

theorem Sound.readMore {state : AlarmSessions} (sound : Sound state) {number : Nat}
    (bound : number < state.store.blocs.length) :
    Sound (state.call (AlarmWorld.inBloc number AlarmBloc.readMore)) := by
  have found := List.getElem?_eq_getElem bound
  obtain ⟨after, called⟩ := AlarmWorld.readMore_called sound.consistent found
  have same : after.bloc.isDisposed = state.store.blocs[number].isDisposed := called.whole.isReads
  constructor
  · simp only [Isolate.call, called.store]
    apply sound.consistent.write found
    · rw [same]
      exact called.whole
    · exact fun isOpen => same ▸ isOpen
    · exact fun _ => called.alarms
    · intro isOpen
      rw [called.alarmLength, called.alarms]
      exact sound.consistent.current found (same ▸ isOpen)
  · intro other due member
    simp only [Isolate.call, called.store, AlarmWorld.blocCell, List.length_set] at member ⊢
    rcases List.mem_append.mp member with earlier | last
    · exact sound.frames earlier
    · rw [called.frame (List.mem_singleton.mp last).symm]
      exact bound

theorem Sound.resume_cases {state next : AlarmSessions} (sound : Sound state) {call : Nat}
    (stepped : system.step state (.resume call) = some next) :
    ∃ number due bloc, state.activations[call]? = some (.suspended number due) ∧
      state.store.blocs[number]? = some bloc ∧
      completesBeforeDispose state (.resume call) = !bloc.isDisposed ∧
      next = { state with
        store := finalStore
          ((AlarmWorld.inBloc number (AlarmBloc.resumeReadMore ())).run state.store)
        activations := state.activations.set call (.ofResult state.now
          ((AlarmWorld.inBloc number (AlarmBloc.resumeReadMore ())).run state.store)) } := by
  obtain ⟨number, due, found, _, rfl⟩ := Isolate.resume_eq_some_iff.mp stepped
  have bound := sound.frames (List.mem_of_getElem? found)
  exact ⟨number, due, state.store.blocs[number], found, List.getElem?_eq_getElem bound,
    by simp [completesBeforeDispose, found, bound], rfl⟩

theorem Sound.completed {state next : AlarmSessions} (sound : Sound state) {call : Nat}
    (stepped : system.step state (.resume call) = some next)
    (beforeDispose : completesBeforeDispose state (.resume call) = true) :
    Sound next ∧ CompletionIsClean state (.resume call) := by
  obtain ⟨number, due, bloc, found, foundBloc, condition, result⟩ := sound.resume_cases stepped
  have live : bloc.isDisposed = false := by simpa [beforeDispose] using condition
  have whole := sound.consistent.whole foundBloc
  rw [live] at whole
  have isOpen : AlarmStore.Open ⟨state.store.alarms, state.store.lists, bloc⟩ :=
    ⟨whole.1, whole.2, whole.3, whole.4⟩
  have ran := AlarmWorld.run_inBloc_ok foundBloc (AlarmBloc.run_resumeReadMore isOpen)
  have completed := AlarmStore.loadCompleted_loaded
    ⟨state.store.alarms, state.store.lists, bloc⟩
  have stillOpen := completed.isOpen isOpen
  rw [ran] at result
  subst result
  refine ⟨⟨?_, ?_⟩, ?_⟩
  · apply sound.consistent.write foundBloc
    · rw [AlarmBloc.isDisposed, stillOpen.isReads]
      exact ⟨stillOpen.1, stillOpen.2, stillOpen.3, stillOpen.4⟩
    · exact fun _ => live
    · intro disposed
      rw [live] at disposed
      cases disposed
    · exact fun _ => completed.alarmLength
  · intro other due' member
    simp only [finalStore_ok, AlarmWorld.blocCell, List.length_set]
    rcases List.mem_or_eq_of_mem_set member with earlier | new
    · exact sound.frames earlier
    · cases new
  · intro next' stepped'
    cases stepped.symm.trans stepped'
    refine ⟨_, completed.alarms, ?_, ?_, ?_⟩
    · simp only [AlarmStore.nextTiles]
      split <;> simp
    · intro number' due' bloc' found' foundBloc' disposed
      cases found.symm.trans found'
      cases foundBloc.symm.trans foundBloc'
      rw [live] at disposed
      cases disposed
    · intro error failed
      rw [List.getElem?_set_self (List.getElem?_eq_some_iff.mp found).1] at failed
      cases failed

theorem Sound.beforeDispose_of_clean {state next : AlarmSessions} (sound : Sound state)
    {call : Nat} (stepped : system.step state (.resume call) = some next)
    (clean : CompletionIsClean state (.resume call)) :
    completesBeforeDispose state (.resume call) = true := by
  obtain ⟨number, due, bloc, found, foundBloc, condition, result⟩ := sound.resume_cases stepped
  rw [condition]
  cases disposed : bloc.isDisposed with
  | false => rfl
  | true =>
      have whole := sound.consistent.whole foundBloc
      rw [disposed] at whole
      obtain ⟨after, thrown⟩ := AlarmBloc.run_resumeReadMore_closed
        ⟨state.store.alarms, state.store.lists, bloc⟩ whole
      have ran := AlarmWorld.run_inBloc_error foundBloc thrown
      obtain ⟨_, _, _, _, noError⟩ := clean next stepped
      refine absurd ?_ (noError .stateError)
      rw [result, ran]
      exact List.getElem?_set_self (List.getElem?_eq_some_iff.mp found).1

theorem Sound.disposed {state : AlarmSessions} (sound : Sound state) {number : Nat}
    {bloc : AlarmBloc} (found : state.store.blocs[number]? = some bloc) :
    Sound (state.perform (AlarmBloc.dispose.within (AlarmWorld.blocCell number))) := by
  constructor
  · simp only [Isolate.perform, Program.finalStore_within, AlarmWorld.read_blocCell found]
    apply sound.consistent.write found
    · exact ⟨rfl, rfl, rfl, rfl⟩
    · nofun
    · exact fun _ => rfl
    · nofun
  · intro other due member
    simp only [Isolate.perform, Program.finalStore_within, AlarmWorld.blocCell, List.length_set]
    exact sound.frames member

theorem Sound.step {state next : AlarmSessions} {event : Event} (sound : Sound state)
    (stepped : system.step state event = some next)
    (beforeDispose : completesBeforeDispose state event = true) :
    Sound next ∧ CompletionIsClean state event := by
  cases event with
  | signIn =>
      simp only [system, AlarmSessions.step, Option.ite_none_right_eq_some,
        Option.some.injEq] at stepped
      obtain ⟨allDisposed, rfl⟩ := stepped
      refine ⟨⟨sound.consistent.signIn (by simpa using allDisposed), ?_⟩, trivial⟩
      intro number due member
      have bound := sound.frames member
      simp only [signIn, List.length_append]
      omega
  | readMore number =>
      simp only [system, AlarmSessions.step, Option.ite_none_right_eq_some,
        Option.some.injEq] at stepped
      obtain ⟨bound, rfl⟩ := stepped
      exact ⟨sound.readMore bound, trivial⟩
  | resume call => exact sound.completed stepped beforeDispose
  | dispose number =>
      simp only [system, AlarmSessions.step] at stepped
      cases found : state.store.blocs[number]? with
      | none => simp [found] at stepped
      | some bloc =>
          cases live : bloc.isDisposed with
          | true => simp [found, live] at stepped
          | false =>
              simp only [found, live, Bool.false_eq_true, if_false, Option.some.injEq] at stepped
              subst stepped
              exact ⟨sound.disposed found, trivial⟩
  | elapse milliseconds =>
      cases stepped
      exact ⟨⟨sound.consistent, sound.frames⟩, trivial⟩

/-- In a run every completion of a load is clean and the live bloc's length stays
current exactly when no load completes after the disposal of its bloc. -/
theorem completions_are_clean (alarms : List AlarmData) (lists : Heap (List Bool))
    {events : List Event} {state : AlarmSessions}
    (ran : system.run (initial alarms lists) events = some state) :
    system.StepsMeet CompletionIsClean (initial alarms lists) events ∧
        system.Always LengthIsCurrent (initial alarms lists) events ↔
      system.StepsMeet (fun state event => completesBeforeDispose state event)
        (initial alarms lists) events := by
  refine EventSystem.stepsMeet_and_always_iff (sound_initial alarms lists) ?_ ?_ ?_ ran
  · intro state sound bloc member live
    obtain ⟨number, found⟩ := List.mem_iff_getElem?.mp member
    exact sound.consistent.current found live
  · intro state event next sound stepped beforeDispose
    exact sound.step stepped beforeDispose
  · intro state event next sound stepped clean _
    cases event with
    | resume call => exact sound.beforeDispose_of_clean stepped clean
    | signIn => rfl
    | readMore number => rfl
    | dispose number => rfl
    | elapse milliseconds => rfl

theorem completions_are_clean_in_time :
    ∃ state, system.run (initial initialAlarms (Heap.empty []))
        [.signIn, .readMore 0, .elapse 2000, .resume 0, .dispose 0, .signIn, .readMore 1,
          .elapse 2000, .resume 1] = some state ∧
      system.Always LengthIsCurrent (initial initialAlarms (Heap.empty []))
        [.signIn, .readMore 0, .elapse 2000, .resume 0, .dispose 0, .signIn, .readMore 1,
          .elapse 2000, .resume 1] := by
  obtain ⟨state, ran⟩ : ∃ state, system.run (initial initialAlarms (Heap.empty []))
      [.signIn, .readMore 0, .elapse 2000, .resume 0, .dispose 0, .signIn, .readMore 1,
        .elapse 2000, .resume 1] = some state :=
    Option.isSome_iff_exists.mp (by decide +kernel)
  exact ⟨state, ran, ((completions_are_clean _ _ ran).mpr (by decide +kernel)).2⟩

/-- A load that completes after the sign-out leaves one entry and an error, and
the next session shows a length that is no longer current. -/
theorem completion_after_dispose :
    ∃ before state, system.run (initial initialAlarms (Heap.empty []))
        [.signIn, .readMore 0, .dispose 0, .signIn, .elapse 2000] = some before ∧
      system.step before (.resume 0) = some state ∧
      before.store.alarms.length = 6 ∧ state.store.alarms.length = 7 ∧
      state.activations[0]? = some (.failed .stateError) ∧
      ¬ LengthIsCurrent state := by
  have computed : (system.run (initial initialAlarms (Heap.empty []))
      [.signIn, .readMore 0, .dispose 0, .signIn, .elapse 2000]).bind (fun before =>
        (system.step before (.resume 0)).map fun state =>
          (before.store.alarms.length, state.store.alarms.length,
            decide (state.activations[0]? = some (.failed .stateError)),
            state.store.blocs.map fun bloc => (bloc.isDisposed, bloc.alarmLength.value?))) =
      some (6, 7, true, [(true, some 6), (false, some 6)]) := by
    decide +kernel
  obtain ⟨before, ran, stepped⟩ := Option.bind_eq_some_iff.mp computed
  obtain ⟨state, stepped, results⟩ := Option.map_eq_some_iff.mp stepped
  simp only [Prod.mk.injEq] at results
  obtain ⟨lengthBefore, lengthAfter, failed, blocs⟩ := results
  refine ⟨before, state, ran, stepped, lengthBefore, lengthAfter,
    of_decide_eq_true failed, ?_⟩
  intro current
  obtain ⟨bloc, member, shown⟩ : ∃ bloc ∈ state.store.blocs,
      (bloc.isDisposed, bloc.alarmLength.value?) = (false, some 6) := by
    rw [← List.mem_map, blocs]
    simp
  obtain ⟨live, length⟩ := Prod.mk.inj shown
  have stale := current bloc member live
  rw [length, lengthAfter] at stale
  cases stale

end AlarmSessions

end FacebookApp
