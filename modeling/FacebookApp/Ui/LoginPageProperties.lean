import FacebookApp.Bloc.LoginBlocProperties
import FacebookApp.Ui.LoginPage

/-!
# Properties of the login page

What each event can do to the form and to the requests in flight.
-/

set_option autoImplicit false

namespace FacebookApp

open Dart

open LoginBloc (Quiet Toggled Does)

namespace LoginStore

/-- The bloc saw the text of the field last, or never saw one and the field is
still empty. -/
def Tracks (store : LoginStore) : LoginField → Prop
  | .id => store.bloc.id.value? = some store.idController ∨
      store.bloc.id.value? = none ∧ store.idController = ""
  | .pw => store.bloc.pw.value? = some store.pwController ∨
      store.bloc.pw.value? = none ∧ store.pwController = ""

structure Tracked (store : LoginStore) : Prop where
  isOpen : store.bloc.Open
  tracks : ∀ field, store.Tracks field

def listened (store : LoginStore) : LoginField → LoginStore
  | .id => { store with
      bloc := { store.bloc with id := store.bloc.id.emit store.idController } }
  | .pw => { store with
      bloc := { store.bloc with pw := store.bloc.pw.emit store.pwController } }

theorem tracked_listened {store : LoginStore} (isOpen : store.bloc.Open) (field : LoginField)
    (others : ∀ other, other ≠ field → store.Tracks other) : (store.listened field).Tracked := by
  cases field with
  | id =>
      refine ⟨{ isOpen with }, fun other => ?_⟩
      cases other with
      | id => exact .inl (BehaviorSubject.value?_emit _ _)
      | pw => exact others .pw nofun
  | pw =>
      refine ⟨{ isOpen with }, fun other => ?_⟩
      cases other with
      | id => exact others .id nofun
      | pw => exact .inl (BehaviorSubject.value?_emit _ _)

theorem Tracked.setText {store : LoginStore} (tracked : store.Tracked) (field : LoginField)
    (text : String) : ((store.setText text field).listened field).Tracked := by
  cases field with
  | id =>
      apply tracked_listened
      · exact tracked.isOpen
      · intro other different
        cases other with
        | id => exact absurd rfl different
        | pw => exact tracked.tracks .pw
  | pw =>
      apply tracked_listened
      · exact tracked.isOpen
      · intro other different
        cases other with
        | id => exact tracked.tracks .id
        | pw => exact absurd rfl different

theorem Tracked.listened {store : LoginStore} (tracked : store.Tracked) (field : LoginField) :
    (store.listened field).Tracked :=
  tracked_listened tracked.isOpen field fun other _ => tracked.tracks other

theorem Tracked.withBloc {store : LoginStore} (tracked : store.Tracked) {bloc : LoginBloc}
    (isOpen : bloc.Open) (id : bloc.id = store.bloc.id) (pw : bloc.pw = store.bloc.pw) :
    Tracked { store with bloc := bloc } := by
  refine ⟨isOpen, fun field => ?_⟩
  cases field with
  | id => simpa [Tracks, id] using tracked.tracks .id
  | pw => simpa [Tracks, pw] using tracked.tracks .pw

theorem Tracked.enabled?_cases {store : LoginStore} (tracked : store.Tracked) :
    store.bloc.enabled? =
        some (decide (store.idController ≠ "" ∧ store.pwController ≠ "")) ∨
      store.bloc.enabled? = none ∧ (store.idController = "" ∨ store.pwController = "") := by
  rcases tracked.tracks .id with idSeen | ⟨idUnseen, idEmpty⟩
  · rcases tracked.tracks .pw with pwSeen | ⟨pwUnseen, pwEmpty⟩
    · refine .inl ?_
      by_cases idEmpty : store.idController = "" <;>
        by_cases pwEmpty : store.pwController = "" <;>
        simp [LoginBloc.enabled?, idSeen, pwSeen, idEmpty, pwEmpty]
    · exact .inr ⟨by simp [LoginBloc.enabled?, pwUnseen], .inr pwEmpty⟩
  · exact .inr ⟨by simp [LoginBloc.enabled?, idUnseen], .inl idEmpty⟩

end LoginStore

namespace LoginPage

/-! ## Handlers of the mounted page -/

theorem run_onBloc {effect : LoginBloc → LoginBloc → Prop}
    {program : Program FirebaseError LoginBloc Unit} {store : LoginStore}
    (does : Does effect program store.bloc) :
    ∃ bloc, (onBloc program).run store = .ok () { store with bloc := bloc } ∧
      effect store.bloc bloc := by
  obtain ⟨bloc, ran, done⟩ := does
  refine ⟨bloc, ?_, done⟩
  rw [onBloc, Program.run_within]
  simp only [LoginStore.blocCell, ran]

theorem run_listener {store : LoginStore} (isOpen : store.bloc.Open) (field : LoginField) :
    (listener field).run store = .ok () (store.listened field) := by
  cases field with
  | id =>
      have added : (LoginBloc.updateId (store.text .id) : Program FirebaseError LoginBloc Unit).run
          store.bloc = _ := Cell.run_add_open LoginBloc.idCell isOpen.id _
      simp only [listener, EStateM.run_bind, EStateM.run_get, onBloc, Program.run_within,
        LoginStore.blocCell, added]
      rfl
  | pw =>
      have added : (LoginBloc.updatePw (store.text .pw) : Program FirebaseError LoginBloc Unit).run
          store.bloc = _ := Cell.run_add_open LoginBloc.pwCell isOpen.pw _
      simp only [listener, EStateM.run_bind, EStateM.run_get, onBloc, Program.run_within,
        LoginStore.blocCell, added]
      rfl

theorem run_onChanged {store : LoginStore} (isOpen : store.bloc.Open) (field : LoginField) :
    ∃ bloc, (onChanged field).run (store.listened field) =
        .ok () { store.listened field with bloc := bloc } ∧
      Toggled (store.listened field).bloc bloc := by
  cases field with
  | id =>
      apply run_onBloc
      refine LoginBloc.does_andThen (LoginBloc.does_toggleIdButton { isOpen with }
        (BehaviorSubject.value?_emit _ _)) (fun after quiet => ?_) (fun _ _ => Quiet.toggled)
      exact LoginBloc.does_toggleLoginButton quiet.isOpen
  | pw =>
      apply run_onBloc
      refine LoginBloc.does_andThen (LoginBloc.does_toggleLoginButton { isOpen with })
        (fun after toggled => ?_) (fun _ _ => Toggled.quiet)
      apply LoginBloc.does_togglePwButton toggled.isOpen
      rw [toggled.pw]
      exact BehaviorSubject.value?_emit _ _

theorem run_onTap {store : LoginStore} (isOpen : store.bloc.Open) (field : LoginField) :
    ∃ bloc, (onTap field).run (store.listened field) =
        .ok () { store.listened field with bloc := bloc } ∧
      Quiet (store.listened field).bloc bloc := by
  cases field with
  | id =>
      apply run_onBloc
      refine LoginBloc.does_andThen (LoginBloc.does_setAppBarHeightMin { isOpen with })
        (fun after quiet => ?_) (fun _ _ => Quiet.trans)
      apply LoginBloc.does_toggleIdButton quiet.isOpen
      rw [quiet.id]
      exact BehaviorSubject.value?_emit _ _
  | pw =>
      apply run_onBloc
      refine LoginBloc.does_andThen (LoginBloc.does_setAppBarHeightMin { isOpen with })
        (fun after quiet => ?_) (fun _ _ => Quiet.trans)
      apply LoginBloc.does_togglePwButton quiet.isOpen
      rw [quiet.pw]
      exact BehaviorSubject.value?_emit _ _

theorem run_onSubmitted {store : LoginStore} (isOpen : store.bloc.Open) (field : LoginField) :
    ∃ bloc, (onSubmitted field).run store = .ok () { store with bloc := bloc } ∧
      Quiet store.bloc bloc := by
  cases field with
  | id => exact run_onBloc (LoginBloc.does_updateIdButton isOpen false)
  | pw =>
      apply run_onBloc
      refine LoginBloc.does_andThen (LoginBloc.does_setAppBarHeightMax isOpen)
        (fun after quiet => ?_) (fun _ _ => Quiet.trans)
      exact LoginBloc.does_updatePwButton quiet.isOpen false

/-! ## Steps -/

/-- What the handlers of the form do to a store with tracked texts. -/
inductive FormStep (store : LoginStore) : Event → LoginStore → Prop where
  | edited {field : LoginField} {text : String} {bloc : LoginBloc}
      (toggled : Toggled ((store.setText text field).listened field).bloc bloc) :
      FormStep store (.edit field text)
        { (store.setText text field).listened field with bloc := bloc }
  | selected {field : LoginField} : FormStep store (.select field) (store.listened field)
  | tapped {field : LoginField} {bloc : LoginBloc}
      (quiet : Quiet (store.listened field).bloc bloc) :
      FormStep store (.tap field) { store.listened field with bloc := bloc }
  | submitted {field : LoginField} {bloc : LoginBloc} (quiet : Quiet store.bloc bloc) :
      FormStep store (.submit field) { store with bloc := bloc }
  | cleared {field : LoginField} {withTap : Bool} {bloc : LoginBloc}
      (quiet : Quiet ((store.setText "" field).listened field).bloc bloc) :
      FormStep store (.clear field withTap)
        { (store.setText "" field).listened field with bloc := bloc }
  | unfocused {bloc : LoginBloc} (toggled : Toggled store.bloc bloc) :
      FormStep store .tapOutside { store with bloc := bloc }

inductive LoginStep (page : LoginPage) : Event → LoginPage → Prop where
  | form {event : Event} {store : LoginStore} (mounted : page.mounted = true)
      (formStep : FormStep page.isolate.store event store) :
      LoginStep page event { page with isolate := { page.isolate with store := store } }
  | pressed {bloc : LoginBloc} (mounted : page.mounted = true)
      (quiet : Quiet page.isolate.store.bloc bloc) :
      LoginStep page .login { page with
        isolate := { page.isolate with
          store := { page.isolate.store with
            bloc := { bloc with indicator := bloc.indicator.emit true } }
          activations := page.isolate.activations ++ [.suspended
            ⟨page.isolate.store.idController, page.isolate.store.pwController⟩
            page.isolate.now] } }
  | succeeded {call due : Nat} {credentials : Credentials}
      (found : page.isolate.activations[call]? = some (.suspended credentials due)) :
      LoginStep page (.complete call none) { page with
        isolate := { page.isolate with
          activations := page.isolate.activations.set call .returned }
        signedIn := true }
  | caught {call due : Nat} {credentials : Credentials} {code : String}
      {dialogs : List String} (mounted : page.mounted = true)
      (found : page.isolate.activations[call]? = some (.suspended credentials due)) :
      LoginStep page (.complete call (some (.firebaseAuthException code))) { page with
        isolate := { page.isolate with
          store := { page.isolate.store with
            bloc := { page.isolate.store.bloc with
              indicator := page.isolate.store.bloc.indicator.emit false }
            dialogs := dialogs }
          activations := page.isolate.activations.set call .returned } }
  | failed {call due : Nat} {credentials : Credentials} {thrown : FirebaseError}
      {error : Error FirebaseError}
      (uncaught : page.mounted = true → thrown.isFirebaseAuthException = false)
      (found : page.isolate.activations[call]? = some (.suspended credentials due)) :
      LoginStep page (.complete call (some thrown)) { page with
        isolate := { page.isolate with
          activations := page.isolate.activations.set call (.failed error) } }
  | unmounted :
      LoginStep page .unmount { page with
        isolate := { page.isolate with
          store := { page.isolate.store with bloc := page.isolate.store.bloc.dispose } }
        mounted := false }

/-- While the page is mounted its bloc is open and saw the texts of the fields. -/
structure Coherent (page : LoginPage) : Prop where
  tracked : page.mounted = true → page.isolate.store.Tracked
  closed : page.mounted = false → page.isolate.store.bloc.indicator.isClosed = true

theorem coherent_initial (appHeight : ℚ) : Coherent (initial appHeight) := by
  refine ⟨fun _ => ⟨LoginBloc.open_create appHeight, fun field => ?_⟩, nofun⟩
  cases field with
  | id => exact .inr ⟨rfl, rfl⟩
  | pw => exact .inr ⟨rfl, rfl⟩

theorem formStep_edit {store : LoginStore} (isOpen : store.bloc.Open) (field : LoginField)
    (text : String) :
    FormStep store (.edit field text) (finalStore ((edit field text).run store)) := by
  have setOpen : (store.setText text field).bloc.Open := by cases field <;> exact isOpen
  have listening := run_listener setOpen field
  obtain ⟨bloc, changed, toggled⟩ := run_onChanged setOpen field
  simp only [edit, EStateM.run_bind, EStateM.run_modify, listening, changed, finalStore_ok]
  exact .edited toggled

theorem formStep_tap {store : LoginStore} (isOpen : store.bloc.Open) (field : LoginField) :
    FormStep store (.tap field) (finalStore ((tap field).run store)) := by
  have listening := run_listener isOpen field
  obtain ⟨bloc, tapped, quiet⟩ := run_onTap isOpen field
  simp only [tap, EStateM.run_bind, listening, tapped, finalStore_ok]
  exact .tapped quiet

theorem formStep_clear {store : LoginStore} (isOpen : store.bloc.Open) (field : LoginField)
    (withTap : Bool) :
    FormStep store (.clear field withTap) (finalStore ((clear field withTap).run store)) := by
  have setOpen : (store.setText "" field).bloc.Open := by cases field <;> exact isOpen
  have listening := run_listener setOpen field
  cases withTap with
  | false =>
      simp only [clear, EStateM.run_bind, EStateM.run_modify, listening, Bool.false_eq_true,
        if_false]
      apply FormStep.cleared
      refine ⟨rfl, rfl, rfl, rfl, ?_⟩
      cases field <;> exact { setOpen with }
  | true =>
      obtain ⟨bloc, tapped, quiet⟩ := run_onTap setOpen field
      simp only [clear, EStateM.run_bind, EStateM.run_modify, listening, if_true, tapped,
        finalStore_ok]
      exact .cleared quiet

theorem loginStep_login {page : LoginPage} (mounted : page.mounted = true)
    (isOpen : page.isolate.store.bloc.Open) :
    LoginStep page .login { page with isolate := page.isolate.call login } := by
  have raised : Does Quiet (LoginBloc.setAppBarHeightMax : Program FirebaseError LoginBloc Unit)
      page.isolate.store.bloc := LoginBloc.does_setAppBarHeightMax isOpen
  obtain ⟨bloc, ran, quiet⟩ := raised
  have shown : (LoginBloc.updateIndicator true : Program FirebaseError LoginBloc Unit).run bloc =
      .ok () { bloc with indicator := bloc.indicator.emit true } :=
    Cell.run_add_open LoginBloc.indicatorCell quiet.isOpen.indicator true
  have called : page.isolate.call login = { page.isolate with
      store := { page.isolate.store with
        bloc := { bloc with indicator := bloc.indicator.emit true } }
      activations := page.isolate.activations ++ [.suspended
        ⟨page.isolate.store.idController, page.isolate.store.pwController⟩
        page.isolate.now] } := by
    simp only [Isolate.call, login, onBloc, EStateM.run_bind, Program.run_within,
      LoginStore.blocCell, ran, shown, EStateM.run_get]
    rfl
  rw [called]
  exact .pressed mounted quiet

theorem loginStep_complete {page : LoginPage} (coherent : Coherent page) {call due : Nat}
    {credentials : Credentials}
    (found : page.isolate.activations[call]? = some (.suspended credentials due))
    (failure : Option FirebaseError) :
    LoginStep page (.complete call failure) { page with
      isolate := { page.isolate with
        store := finalStore ((loginEnded failure).run page.isolate.store)
        activations := page.isolate.activations.set call
          (.ofResult page.isolate.now ((loginEnded failure).run page.isolate.store)) }
      signedIn := page.signedIn || failure.isNone } := by
  cases failure with
  | none =>
      have succeeded : LoginStep page (.complete call none) _ := .succeeded found
      simpa [loginEnded] using succeeded
  | some error =>
      simp only [Option.isNone_some, Bool.or_false]
      cases error with
      | other => exact .failed (fun _ => rfl) found
      | firebaseAuthException code =>
          cases mounted : page.mounted with
          | true =>
              have isOpen := (coherent.tracked mounted).isOpen
              have hidden : (LoginBloc.updateIndicator false :
                  Program FirebaseError LoginBloc Unit).run page.isolate.store.bloc = _ :=
                Cell.run_add_open LoginBloc.indicatorCell isOpen.indicator false
              have ran : ∃ dialogs, (loginEnded (some (.firebaseAuthException code))).run
                  page.isolate.store = .ok none { page.isolate.store with
                    bloc := { page.isolate.store.bloc with
                      indicator := page.isolate.store.bloc.indicator.emit false }
                    dialogs := dialogs } := by
                simp only [loginEnded, onBloc, EStateM.run_bind, Program.run_within,
                  LoginStore.blocCell, hidden]
                split
                · exact ⟨_, rfl⟩
                · exact ⟨_, rfl⟩
              obtain ⟨dialogs, ran⟩ := ran
              rw [ran, ← mounted]
              exact .caught mounted found
          | false =>
              have thrown : (LoginBloc.updateIndicator false :
                  Program FirebaseError LoginBloc Unit).run page.isolate.store.bloc = _ :=
                Cell.run_add_closed LoginBloc.indicatorCell (coherent.closed mounted) false
              have ran : (loginEnded (some (.firebaseAuthException code))).run
                  page.isolate.store = .error .stateError page.isolate.store := by
                simp only [loginEnded, onBloc, EStateM.run_bind, Program.run_within,
                  LoginStore.blocCell, thrown]
              rw [ran, ← mounted]
              exact .failed (fun isMounted => by rw [mounted] at isMounted; cases isMounted) found

theorem loginStep_of_step {page next : LoginPage} {event : Event} (coherent : Coherent page)
    (stepped : system.step page event = some next) : LoginStep page event next := by
  cases event with
  | edit field text =>
      simp only [system, step, Option.ite_none_right_eq_some, Option.some.injEq] at stepped
      obtain ⟨mounted, rfl⟩ := stepped
      exact .form mounted (formStep_edit (coherent.tracked mounted).isOpen field text)
  | select field =>
      simp only [system, step, Option.ite_none_right_eq_some, Option.some.injEq] at stepped
      obtain ⟨mounted, rfl⟩ := stepped
      have ran := run_listener (coherent.tracked mounted).isOpen field
      simp only [perform, Isolate.perform, ran]
      exact .form mounted .selected
  | tap field =>
      simp only [system, step, Option.ite_none_right_eq_some, Option.some.injEq] at stepped
      obtain ⟨mounted, rfl⟩ := stepped
      exact .form mounted (formStep_tap (coherent.tracked mounted).isOpen field)
  | submit field =>
      simp only [system, step, Option.ite_none_right_eq_some, Option.some.injEq] at stepped
      obtain ⟨mounted, rfl⟩ := stepped
      obtain ⟨bloc, ran, quiet⟩ := run_onSubmitted (coherent.tracked mounted).isOpen field
      simp only [perform, Isolate.perform, ran]
      exact .form mounted (.submitted quiet)
  | clear field withTap =>
      simp only [system, step, Option.ite_none_right_eq_some, Option.some.injEq,
        Bool.and_eq_true] at stepped
      obtain ⟨⟨mounted, _⟩, rfl⟩ := stepped
      exact .form mounted (formStep_clear (coherent.tracked mounted).isOpen field withTap)
  | tapOutside =>
      simp only [system, step, Option.ite_none_right_eq_some, Option.some.injEq] at stepped
      obtain ⟨mounted, rfl⟩ := stepped
      obtain ⟨bloc, ran, toggled⟩ :=
        run_onBloc (LoginBloc.does_onUnfocus (coherent.tracked mounted).isOpen)
      simp only [perform, Isolate.perform, ran]
      exact .form mounted (.unfocused toggled)
  | login =>
      simp only [system, step, Option.ite_none_right_eq_some, Option.some.injEq,
        Bool.and_eq_true] at stepped
      obtain ⟨⟨mounted, _⟩, rfl⟩ := stepped
      exact loginStep_login mounted (coherent.tracked mounted).isOpen
  | complete call failure =>
      simp only [system, step, Option.map_eq_some_iff] at stepped
      obtain ⟨isolate, resumed, rfl⟩ := stepped
      obtain ⟨credentials, due, found, _, rfl⟩ := Isolate.resume_eq_some_iff.mp resumed
      exact loginStep_complete coherent found failure
  | unmount =>
      simp only [system, step, Option.ite_none_right_eq_some, Option.some.injEq] at stepped
      obtain ⟨_, rfl⟩ := stepped
      exact .unmounted

theorem FormStep.tracked {store after : LoginStore} {event : Event}
    (formStep : FormStep store event after) (tracked : store.Tracked) : after.Tracked := by
  cases formStep with
  | @edited field text bloc toggled =>
      exact (tracked.setText field text).withBloc toggled.isOpen toggled.id toggled.pw
  | selected => exact tracked.listened _
  | tapped quiet => exact (tracked.listened _).withBloc quiet.isOpen quiet.id quiet.pw
  | submitted quiet => exact tracked.withBloc quiet.isOpen quiet.id quiet.pw
  | @cleared field _ bloc quiet =>
      exact (tracked.setText field "").withBloc quiet.isOpen quiet.id quiet.pw
  | unfocused toggled => exact tracked.withBloc toggled.isOpen toggled.id toggled.pw

theorem LoginStep.coherent {page next : LoginPage} {event : Event}
    (loginStep : LoginStep page event next) (coherent : Coherent page) : Coherent next := by
  cases loginStep with
  | form mounted formStep =>
      refine ⟨fun _ => formStep.tracked (coherent.tracked mounted), fun unmounted => ?_⟩
      rw [mounted] at unmounted
      cases unmounted
  | pressed mounted quiet =>
      refine ⟨fun _ => ?_, fun unmounted => ?_⟩
      · exact (coherent.tracked mounted).withBloc { quiet.isOpen with } quiet.id quiet.pw
      · rw [mounted] at unmounted
        cases unmounted
  | succeeded found => exact ⟨coherent.tracked, coherent.closed⟩
  | caught mounted found =>
      refine ⟨fun _ => ?_, fun unmounted => ?_⟩
      · have tracked := coherent.tracked mounted
        exact ⟨{ tracked.isOpen with }, fun field => by
          cases field with
          | id => exact tracked.tracks .id
          | pw => exact tracked.tracks .pw⟩
      · rw [mounted] at unmounted
        cases unmounted
  | failed uncaught found => exact ⟨coherent.tracked, coherent.closed⟩
  | unmounted => exact ⟨nofun, fun _ => rfl⟩

end LoginPage

end FacebookApp
