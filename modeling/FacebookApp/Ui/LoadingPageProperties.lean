import FacebookApp.Ui.LoadingPage
import FacebookApp.Ui.LoginPageProperties
import FacebookApp.Ui.SignUpRequestsProperties

/-!
# Properties of the loading page

What one event does to the app, and which routes can lie above one another.
-/

set_option autoImplicit false

namespace FacebookApp

open Dart Flutter

namespace LoadingPage

/-! ## Steps of the app -/

/-- What becomes of the routes apart from the calls of the create handler. -/
inductive Routed (navigator : Navigator AppRoute) : Navigator AppRoute → Prop where
  | kept : Routed navigator navigator
  | pushed {page : Nat} {route : AppRoute}
      (isTop : navigator.routes.head? = some (page, .loadingPage))
      (opens : route = .newAccountPage ∨ route = .logoutSheet ∨ route = .alarmTileBottomSheet) :
      Routed navigator (navigator.push route)
  | popped : Routed navigator navigator.pop
  | settled {number : Nat} (other : number ≠ 0) : Routed navigator (navigator.settle number)

/-- The event neither shows a page for a user nor answers a call of the create handler. -/
def Event.isOther : Event → Bool
  | .authStateChanged _ | .answer _ _ => false
  | _ => true

/-- What a step of the app can be. -/
inductive Stepped (service : FirebaseService) (appHeight : ℚ) (app : LoadingPage) :
    Event → LoadingPage → Prop where
  | delivered {user : Option Uid} {next : LoadingPage} (mounted : app.isMounted = true)
      (shown : app.showPageFor appHeight user = some next) :
      Stepped service appHeight app (.authStateChanged user) next
  | onLogin {event : LoginPage.Event} {loginPages : List LoginPage}
      (isUsers : event.isUsers = true)
      (stepped : LoginPage.system.stepAt app.loginPages (app.loginPages.length - 1) event =
        some loginPages) :
      Stepped service appHeight app (.login event) { app with loginPages := loginPages }
  | signedIn {page call : Nat} {uid : Uid} {before after : LoginPage}
      (found : app.loginPages[page]? = some before)
      (stepped : LoginPage.system.step before (.complete call none) = some after) :
      Stepped service appHeight app (.signInAnswered page call (.ok uid))
        (({ app with loginPages := app.loginPages.set page after }.showAlerts
          (before.newDialogs after)).withFirebase
            (service.signIn uid app.signUps.store.firebase))
  | signInFailed {page call : Nat} {error : FirebaseError} {before after : LoginPage}
      (found : app.loginPages[page]? = some before)
      (stepped : LoginPage.system.step before (.complete call (some error)) = some after) :
      Stepped service appHeight app (.signInAnswered page call (.error error))
        ({ app with loginPages := app.loginPages.set page after }.showAlerts
          (before.newDialogs after))
  | onMain {event : Event} {page : Nat} {pageEvent : MainPage.Event} {mainPages : List MainPage}
      (other : event.isOther = true) (keeps : pageEvent ≠ .dispose)
      (stepped : MainPage.system.stepAt app.mainPages page pageEvent = some mainPages) :
      Stepped service appHeight app event { app with mainPages := mainPages }
  | elapsed (milliseconds : Nat) :
      Stepped service appHeight app (.elapse milliseconds) { app with
        mainPages := app.mainPages.map fun page =>
          { page with bloc := page.bloc.elapse milliseconds } }
  | typed {form : NewAccountForm} {page : Nat}
      (isTop : app.navigator.routes.head? = some (page, .newAccountPage)) :
      Stepped service appHeight app (.type form) { app with
        signUps := { app.signUps with store := app.signUps.store.withForm page form } }
  | routed {event : Event} {navigator : Navigator AppRoute} {signOuts : Nat}
      (other : event.isOther = true) (routed : Routed app.navigator navigator) :
      Stepped service appHeight app event
        { app.withNavigator navigator with signOuts := signOuts }
  | left {next : LoadingPage} (leaving : 0 ∈ app.navigator.leaving)
      (unmounted : (app.withNavigator (app.navigator.settle 0)).unmountShown = some next) :
      Stepped service appHeight app (.settle 0) next
  | create {page : Nat} (isTop : app.navigator.routes.head? = some (page, .newAccountPage)) :
      Stepped service appHeight app .create
        { app with signUps := app.signUps.call (CreateButton.create page) }
  | answer {call : Nat} {answer : SignUpAnswer} {signUps : SignUpRequests}
      (answered : SignUpRequests.Answered service app.signUps call answer signUps) :
      Stepped service appHeight app (.answer call answer) { app with signUps := signUps }
  | signedOut {signOuts : Nat} :
      Stepped service appHeight app (.signOutAnswered (.ok ()))
        ({ app with signOuts := signOuts }.withFirebase
          (service.signOut app.signUps.store.firebase))

theorem onTop_eq_some_iff {route : AppRoute} {next : Nat → Option LoadingPage}
    {app result : LoadingPage} :
    app.onTop route next = some result ↔
      ∃ number, app.navigator.routes.head? = some (number, route) ∧ next number = some result := by
  unfold onTop
  cases app.navigator.routes.head? with
  | none => simp
  | some top =>
      obtain ⟨number, shown⟩ := top
      by_cases same : shown = route
      · simp [same]
      · simp [same]

variable {service : FirebaseService} {appHeight : ℚ} {app next : LoadingPage}

theorem stepped_of_step {event : Event}
    (stepped : (system service appHeight).step app event = some next) :
    Stepped service appHeight app event next := by
  cases event with
  | authStateChanged user =>
      simp only [system, step, Option.ite_none_right_eq_some] at stepped
      exact .delivered stepped.1 stepped.2
  | login event =>
      simp only [system, step, onTop_eq_some_iff, Option.ite_none_right_eq_some,
        Bool.and_eq_true, Option.map_eq_some_iff] at stepped
      obtain ⟨_, _, ⟨_, isUsers⟩, loginPages, stepped, rfl⟩ := stepped
      exact .onLogin isUsers stepped
  | signInAnswered page call outcome =>
      simp only [system, step, LoadingPage.signInAnswered, Option.bind_eq_bind,
        Option.bind_eq_some_iff] at stepped
      obtain ⟨before, found, after, stepped, answered⟩ := stepped
      cases outcome with
      | ok uid =>
          cases answered
          exact .signedIn found stepped
      | error error =>
          cases answered
          exact .signInFailed found stepped
  | pageTransition index alarmToWatch data =>
      simp only [system, step, onTop_eq_some_iff, Option.ite_none_right_eq_some,
        Option.map_eq_some_iff] at stepped
      obtain ⟨_, _, _, mainPages, stepped, rfl⟩ := stepped
      exact .onMain rfl (by simp) stepped
  | resume page call =>
      simp only [system, step, Option.map_eq_some_iff] at stepped
      obtain ⟨mainPages, stepped, rfl⟩ := stepped
      exact .onMain rfl (by simp) stepped
  | elapse milliseconds =>
      cases stepped
      exact .elapsed milliseconds
  | openNewAccount =>
      simp only [system, step, onTop_eq_some_iff] at stepped
      obtain ⟨page, isTop, stepped⟩ := stepped
      split at stepped
      · cases stepped
      · cases stepped
        exact .routed rfl (.pushed isTop (.inl rfl))
  | type form =>
      simp only [system, step, onTop_eq_some_iff, Option.some.injEq] at stepped
      obtain ⟨page, isTop, rfl⟩ := stepped
      exact .typed isTop
  | create =>
      simp only [system, step, onTop_eq_some_iff, Option.some.injEq] at stepped
      obtain ⟨page, isTop, rfl⟩ := stepped
      exact .create isTop
  | answer call answer =>
      simp only [system, step, Option.map_eq_some_iff] at stepped
      obtain ⟨signUps, answering, rfl⟩ := stepped
      exact .answer (SignUpRequests.answered_of_answer answering)
  | openAlarmTileBottomSheet =>
      simp only [system, step, onTop_eq_some_iff, Option.ite_none_right_eq_some,
        Option.some.injEq] at stepped
      obtain ⟨page, isTop, _, rfl⟩ := stepped
      exact .routed rfl (.pushed isTop (.inr (.inr rfl)))
  | openLogout =>
      simp only [system, step, onTop_eq_some_iff, Option.ite_none_right_eq_some,
        Option.some.injEq] at stepped
      obtain ⟨page, isTop, _, rfl⟩ := stepped
      exact .routed rfl (.pushed isTop (.inr (.inl rfl)))
  | logout =>
      simp only [system, step, onTop_eq_some_iff, Option.some.injEq] at stepped
      obtain ⟨page, isTop, rfl⟩ := stepped
      exact .routed rfl .popped
  | signOutAnswered outcome =>
      simp only [system, step, LoadingPage.signOutAnswered, Option.ite_none_right_eq_some]
        at stepped
      obtain ⟨_, answered⟩ := stepped
      cases outcome with
      | ok done =>
          cases answered
          exact .signedOut
      | error error =>
          cases answered
          exact .routed rfl .kept
  | close =>
      simp only [system, step, Option.ite_none_right_eq_some, Option.some.injEq] at stepped
      obtain ⟨_, rfl⟩ := stepped
      exact .routed rfl .popped
  | back =>
      simp only [system, step, Option.ite_none_right_eq_some, Option.some.injEq] at stepped
      obtain ⟨_, rfl⟩ := stepped
      exact .routed rfl .popped
  | settle number =>
      simp only [system, step, LoadingPage.settle, Option.ite_none_right_eq_some,
        List.contains_iff_mem] at stepped
      obtain ⟨leaving, settled⟩ := stepped
      split at settled
      · rename_i isFirst
        subst isFirst
        exact .left leaving settled
      · rename_i other
        cases settled
        exact .routed rfl (.settled other)

theorem signUps_of_unmountShown (unmounted : app.unmountShown = some next) :
    next.signUps = app.signUps := by
  unfold unmountShown at unmounted
  split at unmounted
  · obtain ⟨_, _, rfl⟩ := Option.map_eq_some_iff.mp unmounted
    rfl
  · obtain ⟨_, _, rfl⟩ := Option.map_eq_some_iff.mp unmounted
    rfl

theorem signUps_of_showPageFor {user : Option Uid}
    (shown : app.showPageFor appHeight user = some next) : next.signUps = app.signUps := by
  unfold showPageFor at shown
  split at shown
  · cases shown
    rfl
  · obtain ⟨unmounted, isUnmounted, rfl⟩ := Option.map_eq_some_iff.mp shown
    have same := signUps_of_unmountShown isUnmounted
    split <;> exact same

/-! ## Alerts -/

/-- What the routes of a navigator can be after alerts were shown. -/
theorem showAlerts_induction {motive : Navigator AppRoute → Prop} (contents : List String)
    (initial : motive app.navigator)
    (alerted : ∀ navigator content, motive navigator → motive (navigator.push (.alert content))) :
    motive (app.showAlerts contents).navigator := by
  suffices pushed : ∀ navigator : Navigator AppRoute, motive navigator →
      motive (contents.foldl (fun navigator content => navigator.push (.alert content))
        navigator) from pushed app.navigator initial
  induction contents with
  | nil => exact fun navigator holds => holds
  | cons content contents ih =>
      exact fun navigator holds => ih _ (alerted navigator content holds)

end LoadingPage

end FacebookApp
