import FacebookApp.Ui.LoginPageProperties

/-!
# The indicator and the requests in flight

One flag stands for all requests in flight. A failure that is caught turns it off
for all of them, any other failure leaves it on.
-/

set_option autoImplicit false

namespace FacebookApp

open Dart

open LoginBloc (Quiet Toggled)

namespace LoginPage

theorem FormStep.indicator {store after : LoginStore} {event : Event}
    (formStep : FormStep store event after) : after.bloc.indicator = store.bloc.indicator := by
  cases formStep with
  | @edited field text bloc toggled =>
      rw [toggled.indicator]
      cases field <;> rfl
  | @selected field => cases field <;> rfl
  | @tapped field bloc quiet =>
      rw [quiet.indicator]
      cases field <;> rfl
  | submitted quiet => exact quiet.indicator
  | @cleared field _ bloc quiet =>
      rw [quiet.indicator]
      cases field <;> rfl
  | unfocused toggled => exact toggled.indicator

theorem FormStep.fails_nothing {store after : LoginStore} {event : Event}
    (formStep : FormStep store event after) (page : LoginPage) :
    onlyLastFailureIsCaught page event = true := by
  cases formStep <;> rfl

theorem pending_set_ne_nil_iff {isolate : Isolate FirebaseError LoginStore Credentials}
    {call due : Nat} {credentials : Credentials}
    (found : isolate.activations[call]? = some (.suspended credentials due))
    {activation : Activation FirebaseError Credentials} (isOver : activation.frame? = none) :
    (isolate.activations.set call activation).filterMap Activation.frame? ≠ [] ↔
      ¬ isolate.pending.length = 1 := by
  have fewer := Isolate.length_pending_set_over found isOver
  rw [← List.length_pos_iff]
  omega

theorem pending_ne_nil {isolate : Isolate FirebaseError LoginStore Credentials}
    {call due : Nat} {credentials : Credentials}
    (found : isolate.activations[call]? = some (.suspended credentials due)) :
    isolate.pending ≠ [] :=
  List.ne_nil_of_mem (Isolate.mem_pending_iff.mpr ⟨call, due, found⟩)

theorem indicatorIsRight_of_signedIn {page : LoginPage} (signedIn : page.signedIn = true) :
    IndicatorIsRight page := by
  intro _ waiting
  rw [signedIn] at waiting
  cases waiting

theorem indicatorIsRight_of_unmounted {page : LoginPage} (unmounted : page.mounted = false) :
    IndicatorIsRight page := by
  intro mounted
  rw [unmounted] at mounted
  cases mounted

/-- A step leaves the indicator right exactly when it does not end a request with
the wrong kind of failure. -/
theorem LoginStep.indicator_iff {page next : LoginPage} {event : Event}
    (loginStep : LoginStep page event next) (right : IndicatorIsRight page) :
    IndicatorIsRight next ↔ onlyLastFailureIsCaught page event = true := by
  cases loginStep with
  | @form event store mounted formStep =>
      refine iff_of_true ?_ (formStep.fails_nothing page)
      intro mounted' waiting
      simp only [formStep.indicator]
      exact right mounted' waiting
  | pressed mounted quiet =>
      refine iff_of_true ?_ rfl
      intro _ _
      simp [Isolate.pending]
  | succeeded found => exact iff_of_true (indicatorIsRight_of_signedIn rfl) rfl
  | caught mounted found =>
      rcases Bool.eq_false_or_eq_true page.signedIn with signedIn | waiting
      · exact iff_of_true (indicatorIsRight_of_signedIn signedIn)
          (by simp [onlyLastFailureIsCaught, signedIn])
      · have others := pending_set_ne_nil_iff found Activation.frame?_returned
        have caught : ∀ call code, onlyLastFailureIsCaught page
            (.complete call (some (.firebaseAuthException code))) = true ↔
              page.isolate.pending.length = 1 := by
          simp [onlyLastFailureIsCaught, mounted, waiting, FirebaseError.isFirebaseAuthException]
        rw [caught]
        constructor
        · intro right'
          have off := right' mounted waiting
          simp only [Isolate.pending, BehaviorSubject.value?_emit, Option.some.injEq,
            Bool.false_eq_true, false_iff] at off
          exact Decidable.not_not.mp fun more => off (others.mpr more)
        · intro last _ _
          simp only [Isolate.pending, BehaviorSubject.value?_emit, Option.some.injEq,
            Bool.false_eq_true, false_iff]
          exact fun more => others.mp more last
  | @failed call due credentials thrown error uncaught found =>
      rcases Bool.eq_false_or_eq_true page.mounted with mounted | unmounted
      · rcases Bool.eq_false_or_eq_true page.signedIn with signedIn | waiting
        · exact iff_of_true (indicatorIsRight_of_signedIn signedIn)
            (by simp [onlyLastFailureIsCaught, signedIn])
        · have others := pending_set_ne_nil_iff found (Activation.frame?_failed error)
          have shown := (right mounted waiting).mpr (pending_ne_nil found)
          have left : onlyLastFailureIsCaught page (.complete call (some thrown)) = true ↔
              ¬ page.isolate.pending.length = 1 := by
            simp [onlyLastFailureIsCaught, mounted, waiting, uncaught mounted]
          rw [left, ← others]
          constructor
          · intro right'
            exact (right' mounted waiting).mp shown
          · intro more _ _
            exact iff_of_true shown more
      · exact iff_of_true (indicatorIsRight_of_unmounted unmounted)
          (by simp [onlyLastFailureIsCaught, unmounted])
  | unmounted => exact iff_of_true (indicatorIsRight_of_unmounted rfl) rfl

structure RightIndicator (page : LoginPage) : Prop where
  coherent : Coherent page
  right : IndicatorIsRight page

/-- The indicator is right in every state of a run exactly when, until a request
succeeds, a failure is a `FirebaseAuthException` if and only if no other request
is in flight. -/
theorem indicator_is_right (appHeight : ℚ) {events : List Event} {page : LoginPage}
    (ran : system.run (initial appHeight) events = some page) :
    system.Always IndicatorIsRight (initial appHeight) events ↔
      system.StepsMeet (fun page event => onlyLastFailureIsCaught page event)
        (initial appHeight) events := by
  have started : RightIndicator (initial appHeight) :=
    ⟨coherent_initial appHeight, fun _ _ => by simp [initial, LoginBloc.create, Isolate.pending]⟩
  refine EventSystem.always_iff_stepsMeet started (fun _ page => page.right) ?_ ?_ ran
  · intro page event next holds stepped meets
    have loginStep := loginStep_of_step holds.coherent stepped
    exact ⟨loginStep.coherent holds.coherent, (loginStep.indicator_iff holds.right).mpr meets⟩
  · intro page event next holds stepped right
    exact ((loginStep_of_step holds.coherent stepped).indicator_iff holds.right).mp right

theorem indicator_is_right_overlapping :
    ∃ page, system.run (initial 800)
        [.edit .id "a", .edit .pw "b", .login, .login, .complete 1 (some .other),
          .complete 0 (some (.firebaseAuthException "wrong-password"))] = some page ∧
      system.Always IndicatorIsRight (initial 800)
        [.edit .id "a", .edit .pw "b", .login, .login, .complete 1 (some .other),
          .complete 0 (some (.firebaseAuthException "wrong-password"))] := by
  obtain ⟨page, ran⟩ : ∃ page, system.run (initial 800)
      [.edit .id "a", .edit .pw "b", .login, .login, .complete 1 (some .other),
        .complete 0 (some (.firebaseAuthException "wrong-password"))] = some page :=
    Option.isSome_iff_exists.mp (by decide +kernel)
  exact ⟨page, ran, (indicator_is_right 800 ran).mpr (by decide +kernel)⟩

/-- A failure that is not caught leaves the indicator on with nothing in flight, a
caught one turns it off with another request in flight. -/
theorem indicator_can_be_wrong :
    (∃ page, system.run (initial 800)
        [.edit .id "a", .edit .pw "b", .login, .complete 0 (some .other)] = some page ∧
      ¬ IndicatorIsRight page) ∧
    ∃ page, system.run (initial 800)
        [.edit .id "a", .edit .pw "b", .login, .login,
          .complete 0 (some (.firebaseAuthException "wrong-password"))] = some page ∧
      ¬ IndicatorIsRight page := by
  have stuck : (system.run (initial 800)
      [.edit .id "a", .edit .pw "b", .login, .complete 0 (some .other)]).map (fun page =>
        (page.mounted, page.signedIn, page.isolate.store.bloc.indicator.value?,
          page.isolate.pending.length)) = some (true, false, some true, 0) := by
    decide +kernel
  have hidden : (system.run (initial 800)
      [.edit .id "a", .edit .pw "b", .login, .login,
        .complete 0 (some (.firebaseAuthException "wrong-password"))]).map (fun page =>
        (page.mounted, page.signedIn, page.isolate.store.bloc.indicator.value?,
          page.isolate.pending.length)) = some (true, false, some false, 1) := by
    decide +kernel
  obtain ⟨page, ran, results⟩ := Option.map_eq_some_iff.mp stuck
  obtain ⟨page', ran', results'⟩ := Option.map_eq_some_iff.mp hidden
  simp only [Prod.mk.injEq] at results results'
  obtain ⟨mounted, waiting, on, none⟩ := results
  obtain ⟨mounted', waiting', off, one⟩ := results'
  refine ⟨⟨page, ran, fun right => ?_⟩, page', ran', fun right => ?_⟩
  · exact (right mounted waiting).mp on (List.eq_nil_of_length_eq_zero none)
  · have shown := (right mounted' waiting').mpr (List.ne_nil_of_length_pos (by omega))
    rw [off] at shown
    cases shown

end LoginPage

end FacebookApp
