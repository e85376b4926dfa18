import FacebookApp.Ui.MainPageProperties

/-!
# Indicator loops after the disposal of their bloc

The loops outlive the page. One that resumes on the closed bloc throws as soon as
it has a value left to publish.
-/

set_option autoImplicit false

namespace FacebookApp

open Dart

namespace MainBloc

/-- The bloc with subjects that take values, whichever of them are closed. -/
def reopen (bloc : MainBloc) : MainBloc where
  index := { bloc.index with isClosed := false }
  delay := { bloc.delay with isClosed := false }
  target := { bloc.target with isClosed := false }
  alarmToWatch := { bloc.alarmToWatch with isClosed := false }
  data := { bloc.data with isClosed := false }

/-- `later` has other values on a subject that is closed in `bloc`. -/
def ChangedClosed (bloc later : MainBloc) : Prop :=
  bloc.index.isClosed = true ∧ later.index.events ≠ bloc.index.events ∨
  bloc.delay.isClosed = true ∧ later.delay.events ≠ bloc.delay.events ∨
  bloc.target.isClosed = true ∧ later.target.events ≠ bloc.target.events ∨
  bloc.alarmToWatch.isClosed = true ∧ later.alarmToWatch.events ≠ bloc.alarmToWatch.events ∨
  bloc.data.isClosed = true ∧ later.data.events ≠ bloc.data.events

theorem not_changedClosed_reopen (bloc : MainBloc) : ¬ ChangedClosed bloc bloc.reopen := by
  simp [ChangedClosed, reopen]

/-- A loop without a value left to publish ends without touching the subjects. -/
theorem run_resumeIndicator_ended {frame : IndicatorFrame}
    (ended : frame.advance.continues = false) (bloc : MainBloc) :
    (resumeIndicator frame).run bloc = .ok none bloc := by
  simp only [resumeIndicator, indicatorRound, ended, Bool.false_eq_true, if_false]
  rfl

theorem run_resumeIndicator_closed {bloc : MainBloc} (closed : bloc.index.isClosed = true)
    (frame : IndicatorFrame) :
    (resumeIndicator frame).run bloc =
      if frame.advance.continues then .error .stateError bloc else .ok none bloc := by
  have rejected : (updateIndex frame.advance.i).run bloc = .error .stateError bloc :=
    Cell.run_add_closed indexCell closed frame.advance.i
  cases continues : frame.advance.continues with
  | false => exact run_resumeIndicator_ended continues bloc
  | true =>
      simp only [resumeIndicator, indicatorRound, continues, if_true, EStateM.run_bind, rejected]

end MainBloc

namespace MainPage

open MainBloc (Live)

/-- The step comes to an `add` to a closed subject: it would publish on that subject if
the subject still took values. -/
def AddsToClosed (page : MainPage) (event : Event) : Prop :=
  ∃ next, system.step
      { page with bloc := { page.bloc with store := page.bloc.store.reopen } } event = some next ∧
    page.bloc.store.ChangedClosed next.bloc.store

def AddsNothingAfterDispose (page : MainPage) (event : Event) : Prop :=
  page.mounted = false → ¬ AddsToClosed page event

def NoLoopFailed (page : MainPage) : Prop :=
  ∀ activation ∈ page.bloc.activations, ∀ error, activation ≠ .failed error

/-- A loop that resumes after the disposal has published its last value before. -/
def resumesOnlyFinished (page : MainPage) : Event → Bool
  | .resume call =>
      match page.bloc.activations[call]? with
      | some (.suspended frame _) => page.mounted || !frame.advance.continues
      | _ => true
  | _ => true

structure Sound (page : MainPage) : Prop where
  live : page.mounted = true → Live page.bloc.store
  closed : page.mounted = false → page.bloc.store.index.isClosed = true
  unfailed : NoLoopFailed page

theorem sound_initial : Sound initial where
  live := fun _ => MainBloc.live_initial
  closed := nofun
  unfailed := nofun

theorem roundActivation_ne_failed (frame : IndicatorFrame) (state : MainBloc.State)
    (error : Error Empty) : MainBloc.roundActivation frame state ≠ .failed error := by
  unfold MainBloc.roundActivation
  split <;> nofun

theorem NoLoopFailed.append {page next : MainPage} {activation : Activation Empty IndicatorFrame}
    (unfailed : NoLoopFailed page) (isNot : ∀ error, activation ≠ .failed error)
    (appended : next.bloc.activations = page.bloc.activations ++ [activation]) :
    NoLoopFailed next := by
  intro other member
  rw [appended, List.mem_append, List.mem_singleton] at member
  rcases member with old | rfl
  · exact unfailed other old
  · exact isNot

theorem NoLoopFailed.set {page next : MainPage} {activation : Activation Empty IndicatorFrame}
    {call : Nat} (unfailed : NoLoopFailed page) (isNot : ∀ error, activation ≠ .failed error)
    (replaced : next.bloc.activations = page.bloc.activations.set call activation) :
    NoLoopFailed next := by
  intro other member
  rw [replaced] at member
  rcases List.mem_or_eq_of_mem_set member with old | rfl
  · exact unfailed other old
  · exact isNot

/-! ## Steps of a mounted page -/

theorem Sound.step_mounted {page next : MainPage} {event : Event} (sound : Sound page)
    (mounted : page.mounted = true) (stepped : system.step page event = some next) :
    Sound next := by
  have live := sound.live mounted
  by_cases disposing : event = .dispose
  · subst disposing
    simp only [system, step, mounted, if_true, Option.some.injEq] at stepped
    subst stepped
    exact ⟨by simp, fun _ => rfl, sound.unfailed⟩
  · cases pageStep_of_step live disposing stepped with
    | refused => exact sound
    | transition _ announced shown =>
        refine ⟨fun _ => announced.live.afterRound _, ?_,
          sound.unfailed.append (roundActivation_ne_failed _ _) rfl⟩
        intro unmounted
        cases mounted.symm.trans unmounted
    | resume found isDue =>
        refine ⟨fun _ => live.afterRound _, ?_,
          sound.unfailed.set (roundActivation_ne_failed _ _) rfl⟩
        intro unmounted
        cases mounted.symm.trans unmounted
    | elapse => exact ⟨sound.live, sound.closed, sound.unfailed⟩

/-! ## Steps of a disposed page -/

inductive DisposedStep (page : MainPage) : Event → MainPage → Prop where
  | finished {call : Nat} {frame : IndicatorFrame} {due : Nat}
      (found : page.bloc.activations[call]? = some (.suspended frame due))
      (ended : frame.advance.continues = false) :
      DisposedStep page (.resume call) { page with
        bloc := { page.bloc with activations := page.bloc.activations.set call .returned } }
  | failed {call : Nat} {frame : IndicatorFrame} {due : Nat}
      (found : page.bloc.activations[call]? = some (.suspended frame due))
      (goesOn : frame.advance.continues = true) :
      DisposedStep page (.resume call) { page with
        bloc := { page.bloc with
          activations := page.bloc.activations.set call (.failed .stateError) } }
  | elapse {milliseconds : Nat} :
      DisposedStep page (.elapse milliseconds)
        { page with bloc := page.bloc.elapse milliseconds }

theorem disposedStep_of_step {page next : MainPage} {event : Event}
    (unmounted : page.mounted = false) (closed : page.bloc.store.index.isClosed = true)
    (stepped : system.step page event = some next) : DisposedStep page event next := by
  cases event with
  | pageTransition index alarmToWatch data => simp [system, step, unmounted] at stepped
  | resume call =>
      simp only [system, step, Option.map_eq_some_iff] at stepped
      obtain ⟨bloc, resumed, rfl⟩ := stepped
      obtain ⟨frame, due, found, _, rfl⟩ := Isolate.resume_eq_some_iff.mp resumed
      have ran := MainBloc.run_resumeIndicator_closed closed frame
      cases continues : frame.advance.continues with
      | false =>
          simp only [continues, Bool.false_eq_true, if_false] at ran
          simp only [ran, finalStore_ok, Activation.ofResult_none]
          exact .finished found continues
      | true =>
          simp only [continues, if_true] at ran
          simp only [ran, finalStore_error]
          exact .failed found continues
  | elapse milliseconds =>
      cases stepped
      exact .elapse
  | dispose => simp [system, step, unmounted] at stepped

theorem Sound.step_disposed {page next : MainPage} {event : Event} (sound : Sound page)
    (unmounted : page.mounted = false) (stepped : system.step page event = some next)
    (finished : resumesOnlyFinished page event = true) :
    Sound next ∧ ¬ AddsToClosed page event := by
  have unpublished : ¬ page.bloc.store.ChangedClosed page.bloc.store.reopen :=
    MainBloc.not_changedClosed_reopen _
  cases disposedStep_of_step unmounted (sound.closed unmounted) stepped with
  | finished found ended =>
      have isNot : ∀ error, (.returned : Activation Empty IndicatorFrame) ≠ .failed error :=
        fun _ => nofun
      refine ⟨⟨sound.live, sound.closed, sound.unfailed.set isNot rfl⟩, ?_⟩
      rintro ⟨opened, stepped', changed⟩
      simp only [system, step, Option.map_eq_some_iff] at stepped'
      obtain ⟨bloc, resumed, rfl⟩ := stepped'
      obtain ⟨_, _, found', _, rfl⟩ := Isolate.resume_eq_some_iff.mp resumed
      cases found.symm.trans found'
      rw [MainBloc.run_resumeIndicator_ended ended, finalStore_ok] at changed
      exact unpublished changed
  | failed found goesOn => simp [resumesOnlyFinished, found, unmounted, goesOn] at finished
  | elapse =>
      refine ⟨⟨sound.live, sound.closed, sound.unfailed⟩, ?_⟩
      rintro ⟨opened, stepped', changed⟩
      cases stepped'
      exact unpublished changed

theorem resumesOnlyFinished_of_unfailed {page next : MainPage} {event : Event}
    (sound : Sound page) (stepped : system.step page event = some next)
    (unfailed : NoLoopFailed next) : resumesOnlyFinished page event = true := by
  cases mounted : page.mounted with
  | true =>
      unfold resumesOnlyFinished
      split
      · split
        · simp [mounted]
        · rfl
      · rfl
  | false =>
      cases disposedStep_of_step mounted (sound.closed mounted) stepped with
      | finished found ended => simp [resumesOnlyFinished, found, ended]
      | @failed call frame due found goesOn =>
          have bound := (List.getElem?_eq_some_iff.mp found).1
          exact absurd rfl (unfailed (.failed .stateError)
            (List.mem_of_getElem? (List.getElem?_set_self bound)) .stateError)
      | elapse => rfl

/-- No step after the disposal adds to a closed subject, and no loop ever ends
with an error, exactly when every loop that resumes after the disposal has nothing
left to publish. -/
theorem nothing_added_after_dispose {events : List Event} {page : MainPage}
    (ran : system.run initial events = some page) :
    system.StepsMeet AddsNothingAfterDispose initial events ∧
        system.Always NoLoopFailed initial events ↔
      system.StepsMeet (fun page event => resumesOnlyFinished page event = true)
        initial events := by
  refine EventSystem.stepsMeet_and_always_iff sound_initial (fun _ sound => sound.unfailed)
    ?_ ?_ ran
  · intro page event next sound stepped finished
    cases mounted : page.mounted with
    | true =>
        exact ⟨sound.step_mounted mounted stepped,
          fun unmounted => absurd (mounted.symm.trans unmounted) nofun⟩
    | false =>
        obtain ⟨kept, nothing⟩ := sound.step_disposed mounted stepped finished
        exact ⟨kept, fun _ => nothing⟩
  · intro page event next sound stepped _ unfailed
    exact resumesOnlyFinished_of_unfailed sound stepped unfailed

/-- The page is left while the loop waits after its last value. -/
def leftAtTarget : List Event :=
  [.pageTransition 2 false none, .elapse 50, .resume 0, .dispose, .elapse 50, .resume 0]

theorem nothing_added_after_dispose_at_target :
    ∃ page, system.run initial leftAtTarget = some page ∧
      system.StepsMeet AddsNothingAfterDispose initial leftAtTarget ∧
      system.Always NoLoopFailed initial leftAtTarget := by
  obtain ⟨page, ran⟩ : ∃ page, system.run initial leftAtTarget = some page :=
    Option.isSome_iff_exists.mp (by decide +kernel)
  exact ⟨page, ran, (nothing_added_after_dispose ran).mpr (by decide +kernel)⟩

/-- The page is left while the loop has four values to publish. -/
theorem loop_throws_after_dispose :
    ∃ page next, system.run initial
        [.pageTransition 5 false none, .dispose, .elapse 20] = some page ∧
      system.step page (.resume 0) = some next ∧ page.mounted = false ∧
      AddsToClosed page (.resume 0) ∧ ¬ NoLoopFailed next := by
  have computed : (system.run initial
      [.pageTransition 5 false none, .dispose, .elapse 20]).bind (fun page =>
        (system.step page (.resume 0)).bind fun next =>
          (system.step { page with
            bloc := { page.bloc with store := page.bloc.store.reopen } } (.resume 0)).map
              fun opened => (page.mounted, page.bloc.store.index.isClosed,
                decide (opened.bloc.store.index.events = page.bloc.store.index.events),
                decide (next.bloc.activations[0]? = some (.failed .stateError)))) =
      some (false, true, false, true) := by
    decide +kernel
  obtain ⟨page, ran, steps⟩ := Option.bind_eq_some_iff.mp computed
  obtain ⟨next, stepped, reopened⟩ := Option.bind_eq_some_iff.mp steps
  obtain ⟨opened, published, results⟩ := Option.map_eq_some_iff.mp reopened
  simp only [Prod.mk.injEq, decide_eq_false_iff_not, decide_eq_true_eq] at results
  obtain ⟨unmounted, closed, changed, failed⟩ := results
  refine ⟨page, next, ran, stepped, unmounted,
    ⟨opened, published, .inl ⟨closed, changed⟩⟩, ?_⟩
  intro unfailed
  exact unfailed _ (List.mem_of_getElem? failed) _ rfl

end MainPage

end FacebookApp
