import FacebookApp.Ui.LoginPageProperties

/-!
# The login button and the two fields

Every handler that changes a text recomputes the login button, except the clear
icon, which changes it from code.
-/

set_option autoImplicit false

namespace FacebookApp

open Dart

open LoginBloc (Quiet Toggled)

namespace LoginPage

theorem enabled?_of_listened {store : LoginStore} {field : LoginField} {text : String}
    (unseen : ((store.setText text field).listened field).bloc.enabled? = none) :
    store.bloc.enabled? = none := by
  cases field with
  | id =>
      cases id : store.bloc.id.value? <;> cases pw : store.bloc.pw.value? <;>
        simp_all [LoginBloc.enabled?, LoginStore.setText, LoginStore.listened]
  | pw =>
      cases id : store.bloc.id.value? <;> cases pw : store.bloc.pw.value? <;>
        simp_all [LoginBloc.enabled?, LoginStore.setText, LoginStore.listened]

theorem toggled_isRight {store : LoginStore} (tracked : store.Tracked) {bloc : LoginBloc}
    (toggled : Toggled store.bloc bloc)
    (disabled : store.bloc.enabled? = none → store.bloc.loginButton.value? ≠ some true) :
    bloc.loginButton.value? = some true ↔ store.idController ≠ "" ∧ store.pwController ≠ "" := by
  rw [toggled.loginButton]
  rcases tracked.enabled?_cases with seen | ⟨unseen, empty⟩
  · simp [seen]
  · have off := disabled unseen
    simp only [unseen, off, false_iff]
    rintro ⟨idFilled, pwFilled⟩
    rcases empty with idEmpty | pwEmpty
    · exact idFilled idEmpty
    · exact pwFilled pwEmpty

theorem disabled_of_unseen {page : LoginPage} (tracked : page.isolate.store.Tracked)
    (right : ButtonIsRight page) (unseen : page.isolate.store.bloc.enabled? = none) :
    page.isolate.store.bloc.loginButton.value? ≠ some true := by
  intro enabled
  have filled := right.mp enabled
  rcases tracked.enabled?_cases with seen | ⟨_, idEmpty | pwEmpty⟩
  · rw [unseen] at seen
    cases seen
  · exact filled.1 idEmpty
  · exact filled.2 pwEmpty

/-- One event of the form leaves the button right exactly when it does not clear a
filled form. -/
theorem FormStep.button_iff {page : LoginPage} {event : Event} {store : LoginStore}
    (formStep : FormStep page.isolate.store event store) (tracked : page.isolate.store.Tracked)
    (right : ButtonIsRight page) :
    (store.bloc.loginButton.value? = some true ↔
        store.idController ≠ "" ∧ store.pwController ≠ "") ↔
      clearsNoFilledForm page event = true := by
  have disabled := disabled_of_unseen tracked right
  cases formStep with
  | @edited field text bloc toggled =>
      refine iff_of_true (toggled_isRight (tracked.setText field text) toggled ?_) rfl
      intro unseen
      have off := disabled (enabled?_of_listened unseen)
      cases field <;> exact off
  | @selected field =>
      refine iff_of_true ?_ rfl
      cases field <;> exact right
  | @tapped field bloc quiet =>
      refine iff_of_true ?_ rfl
      rw [quiet.loginButton]
      cases field <;> exact right
  | submitted quiet =>
      refine iff_of_true ?_ rfl
      rw [quiet.loginButton]
      exact right
  | @cleared field withTap bloc quiet =>
      have same : bloc.loginButton.value? =
          page.isolate.store.bloc.loginButton.value? := by
        rw [quiet.loginButton]
        cases field <;> rfl
      have cleared : ¬ (((page.isolate.store.setText "" field).listened field).idController ≠ ""
          ∧ ((page.isolate.store.setText "" field).listened field).pwController ≠ "") := by
        cases field with
        | id => exact fun filled => filled.1 rfl
        | pw => exact fun filled => filled.2 rfl
      simp only [same, cleared, iff_false, clearsNoFilledForm, Bool.not_eq_true',
        decide_eq_false_iff_not]
      exact not_congr right
  | unfocused toggled => exact iff_of_true (toggled_isRight tracked toggled disabled) rfl

theorem LoginStep.button_iff {page next : LoginPage} {event : Event}
    (loginStep : LoginStep page event next) (coherent : Coherent page)
    (right : ButtonIsRight page) :
    ButtonIsRight next ↔ clearsNoFilledForm page event = true := by
  cases loginStep with
  | form mounted formStep => exact formStep.button_iff (coherent.tracked mounted) right
  | pressed mounted quiet =>
      refine iff_of_true ?_ rfl
      rw [ButtonIsRight, quiet.loginButton]
      exact right
  | succeeded found => exact iff_of_true right rfl
  | caught mounted found => exact iff_of_true right rfl
  | failed uncaught found => exact iff_of_true right rfl
  | unmounted => exact iff_of_true right rfl

structure RightForm (page : LoginPage) : Prop where
  coherent : Coherent page
  right : ButtonIsRight page

/-- The login button is right in every state of a run exactly when the run never
presses a clear icon while both fields are filled. -/
theorem button_is_right (appHeight : ℚ) {events : List Event} {page : LoginPage}
    (ran : system.run (initial appHeight) events = some page) :
    system.Always ButtonIsRight (initial appHeight) events ↔
      system.StepsMeet (fun page event => clearsNoFilledForm page event)
        (initial appHeight) events := by
  have started : RightForm (initial appHeight) :=
    ⟨coherent_initial appHeight, by simp [ButtonIsRight, Filled, initial, LoginBloc.create]⟩
  refine EventSystem.always_iff_stepsMeet started (fun _ form => form.right) ?_ ?_ ran
  · intro page event next form stepped meets
    have loginStep := loginStep_of_step form.coherent stepped
    exact ⟨loginStep.coherent form.coherent,
      (loginStep.button_iff form.coherent form.right).mpr meets⟩
  · intro page event next form stepped right
    exact ((loginStep_of_step form.coherent stepped).button_iff form.coherent form.right).mp right

theorem button_is_right_edited :
    ∃ page, system.run (initial 800)
        [.edit .id "a", .tap .pw, .edit .pw "b", .edit .pw "", .clear .id true, .tapOutside] =
          some page ∧
      system.Always ButtonIsRight (initial 800)
        [.edit .id "a", .tap .pw, .edit .pw "b", .edit .pw "", .clear .id true, .tapOutside] := by
  obtain ⟨page, ran⟩ : ∃ page, system.run (initial 800)
      [.edit .id "a", .tap .pw, .edit .pw "b", .edit .pw "", .clear .id true, .tapOutside] =
        some page :=
    Option.isSome_iff_exists.mp (by decide +kernel)
  exact ⟨page, ran, (button_is_right 800 ran).mpr (by decide +kernel)⟩

/-- The clear icon of the id field empties it and leaves the button enabled. -/
theorem button_enabled_after_clear :
    ∃ page, system.run (initial 800) [.edit .id "a", .edit .pw "b", .clear .id false] =
        some page ∧
      page.isolate.store.idController = "" ∧
      page.isolate.store.bloc.loginButton.value? = some true := by
  have computed : (system.run (initial 800)
      [.edit .id "a", .edit .pw "b", .clear .id false]).map (fun page =>
        (page.isolate.store.idController, page.isolate.store.bloc.loginButton.value?)) =
      some ("", some true) := by
    decide +kernel
  obtain ⟨page, ran, results⟩ := Option.map_eq_some_iff.mp computed
  obtain ⟨cleared, enabled⟩ := Prod.mk.inj results
  exact ⟨page, ran, cleared, enabled⟩

end LoginPage

end FacebookApp
