import FacebookApp.Ui.LoginPageProperties

/-!
# Sign-ins that end in an unhandled exception

A failed sign-in is handled only when it is a `FirebaseAuthException` and the page that
sent it is still there.
-/

set_option autoImplicit false

namespace FacebookApp

open Dart

namespace LoginPage

def NothingFailed (page : LoginPage) : Prop :=
  ∀ error, .failed error ∉ page.isolate.activations

def failureIsHandled (page : LoginPage) : Event → Bool
  | .complete _ (some error) => page.mounted && error.isFirebaseAuthException
  | _ => true

theorem notFailed_set {activations : List (Activation FirebaseError Credentials)} {call : Nat}
    (nothingFailed : ∀ error, .failed error ∉ activations) :
    ∀ error, Activation.failed error ∉ activations.set call .returned := by
  intro error failed
  rcases List.mem_or_eq_of_mem_set failed with earlier | isReturned
  · exact nothingFailed error earlier
  · cases isReturned

theorem LoginStep.nothingFailed_iff {page next : LoginPage} {event : Event}
    (loginStep : LoginStep page event next) (nothingFailed : NothingFailed page) :
    NothingFailed next ↔ failureIsHandled page event = true := by
  cases loginStep with
  | @form event store mounted formStep =>
      have handled : failureIsHandled page event = true := by cases formStep <;> rfl
      exact iff_of_true nothingFailed handled
  | pressed mounted quiet =>
      refine iff_of_true (fun error failed => ?_) rfl
      rcases List.mem_append.mp failed with earlier | last
      · exact nothingFailed error earlier
      · cases List.mem_singleton.mp last
  | succeeded found => exact iff_of_true (notFailed_set nothingFailed) rfl
  | caught mounted found =>
      refine iff_of_true (notFailed_set nothingFailed) ?_
      simp [failureIsHandled, mounted, FirebaseError.isFirebaseAuthException]
  | @failed call due credentials thrown error uncaught found =>
      have inRange : call < page.isolate.activations.length :=
        (List.getElem?_eq_some_iff.mp found).1
      refine iff_of_false (fun nothing => nothing error (List.mem_set inRange _)) ?_
      intro handled
      obtain ⟨mounted, isCaught⟩ := Bool.and_eq_true_iff.mp handled
      rw [uncaught mounted] at isCaught
      cases isCaught
  | unmounted => exact iff_of_true nothingFailed rfl

structure Unfailed (page : LoginPage) : Prop where
  coherent : Coherent page
  nothingFailed : NothingFailed page

/-- No sign-in of a run ends in an unhandled exception exactly when every failure is a
`FirebaseAuthException` and comes while the page is mounted. -/
theorem nothing_fails_iff_handled (appHeight : ℚ) {events : List Event} {page : LoginPage}
    (ran : system.run (initial appHeight) events = some page) :
    system.Always NothingFailed (initial appHeight) events ↔
      system.StepsMeet (fun page event => failureIsHandled page event)
        (initial appHeight) events := by
  have started : Unfailed (initial appHeight) :=
    ⟨coherent_initial appHeight, fun _ => List.not_mem_nil⟩
  refine EventSystem.always_iff_stepsMeet started (fun _ page => page.nothingFailed) ?_ ?_ ran
  · intro page event next holds stepped handled
    have loginStep := loginStep_of_step holds.coherent stepped
    exact ⟨loginStep.coherent holds.coherent,
      (loginStep.nothingFailed_iff holds.nothingFailed).mpr handled⟩
  · intro page event next holds stepped nothingFailed
    have loginStep := loginStep_of_step holds.coherent stepped
    exact (loginStep.nothingFailed_iff holds.nothingFailed).mp nothingFailed

/-- Two requests, the second of which fails after the first signed the user in. -/
theorem nothing_fails_iff_handled_late :
    ∃ page, system.run (initial 800) [.edit .id "a", .edit .pw "b", .login, .login,
        .complete 0 none, .unmount,
        .complete 1 (some (.firebaseAuthException "network-request-failed"))] = some page ∧
      ¬ system.Always NothingFailed (initial 800) [.edit .id "a", .edit .pw "b", .login, .login,
        .complete 0 none, .unmount,
        .complete 1 (some (.firebaseAuthException "network-request-failed"))] := by
  obtain ⟨page, ran⟩ : ∃ page, system.run (initial 800) [.edit .id "a", .edit .pw "b", .login,
      .login, .complete 0 none, .unmount,
      .complete 1 (some (.firebaseAuthException "network-request-failed"))] = some page :=
    Option.isSome_iff_exists.mp (by decide +kernel)
  refine ⟨page, ran, fun always => ?_⟩
  exact absurd ((nothing_fails_iff_handled 800 ran).mp always) (by decide +kernel)

end LoginPage

end FacebookApp
