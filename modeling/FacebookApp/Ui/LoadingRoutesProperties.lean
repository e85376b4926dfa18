import FacebookApp.Ui.LoadingPageProperties

/-!
# Routes of the app

Which routes can lie above one another, whose the progress dialogs are, and which answers
leave a dialog behind that no call is going to close.
-/

set_option autoImplicit false

namespace FacebookApp

open Dart Flutter

namespace LoadingPage

variable {service : FirebaseService} {appHeight : ℚ} {firebase : Firebase} {app next : LoadingPage}
  {events : List Event} {event : Event}

/-! ## Routes above one another -/

/-- What can lie below the alerts. -/
def grounds : List (List AppRoute) :=
  [[], [.loadingPage], [.newAccountPage, .loadingPage], [.logoutSheet, .loadingPage],
    [.alarmTileBottomSheet, .loadingPage], [.progress, .newAccountPage, .loadingPage]]

def Layered (stack : List AppRoute) : Prop :=
  ∃ (contents : List String) (ground : List AppRoute),
    stack = contents.map AppRoute.alert ++ ground ∧ ground ∈ grounds

namespace Layered

variable {stack : List AppRoute}

theorem of_ground {ground : List AppRoute} (isGround : ground ∈ grounds) : Layered ground :=
  ⟨[], ground, rfl, isGround⟩

theorem alerted (layered : Layered stack) (content : String) :
    Layered (.alert content :: stack) := by
  obtain ⟨contents, ground, rfl, isGround⟩ := layered
  exact ⟨content :: contents, ground, rfl, isGround⟩

theorem tail (layered : Layered stack) : Layered stack.tail := by
  obtain ⟨contents, ground, rfl, isGround⟩ := layered
  cases contents with
  | cons content contents => exact ⟨contents, ground, rfl, isGround⟩
  | nil =>
      refine of_ground ?_
      simp only [grounds, List.mem_cons, List.not_mem_nil, or_false] at isGround
      rcases isGround with rfl | rfl | rfl | rfl | rfl | rfl <;> simp [grounds]

/-- With something else than an alert on top there is no alert at all. -/
theorem isGround {route : AppRoute} (layered : Layered stack) (isTop : stack.head? = some route)
    (noAlert : ∀ content, route ≠ .alert content) : stack ∈ grounds := by
  obtain ⟨contents, ground, rfl, isGround⟩ := layered
  cases contents with
  | nil => exact isGround
  | cons content contents => exact absurd (Option.some.inj isTop).symm (noAlert content)

/-- What the loading page opens lies right above it. -/
theorem opened {route : AppRoute} (layered : Layered stack)
    (isTop : stack.head? = some .loadingPage)
    (opens : route = .newAccountPage ∨ route = .logoutSheet ∨ route = .alarmTileBottomSheet) :
    Layered (route :: stack) := by
  have ground := layered.isGround isTop (by simp)
  refine of_ground ?_
  simp only [grounds, List.mem_cons, List.not_mem_nil, or_false] at ground
  rcases ground with rfl | rfl | rfl | rfl | rfl | rfl <;> simp at isTop
  rcases opens with rfl | rfl | rfl <;> simp [grounds]

theorem progress (layered : Layered stack) (isTop : stack.head? = some .newAccountPage) :
    Layered (.progress :: stack) := by
  have ground := layered.isGround isTop (by simp)
  refine of_ground ?_
  simp only [grounds, List.mem_cons, List.not_mem_nil, or_false] at ground
  rcases ground with rfl | rfl | rfl | rfl | rfl | rfl <;> simp at isTop
  simp [grounds]

end Layered

theorem head?_stack {navigator : Navigator AppRoute} {number : Nat} {route : AppRoute}
    (isTop : navigator.routes.head? = some (number, route)) :
    navigator.stack.head? = some route := by
  simp [Navigator.stack, isTop]

theorem layered_of_routed {navigator after : Navigator AppRoute}
    (routed : Routed navigator after) (layered : Layered navigator.stack) :
    Layered after.stack := by
  cases routed with
  | kept => exact layered
  | settled other => exact layered
  | popped => rw [Navigator.stack_pop]; exact layered.tail
  | pushed isTop opens => exact layered.opened (head?_stack isTop) opens

theorem layered_showAlerts (contents : List String) (layered : Layered app.navigator.stack) :
    Layered (app.showAlerts contents).navigator.stack :=
  showAlerts_induction (motive := fun navigator => Layered navigator.stack) contents layered
    fun _ content below => below.alerted content

theorem Stepped.layered (stepped : Stepped service appHeight app event next)
    (layered : Layered app.navigator.stack) : Layered next.navigator.stack := by
  cases stepped with
  | delivered mounted shown =>
      rw [navigator, signUps_of_showPageFor shown]
      exact layered
  | left leaving unmounted =>
      rw [navigator, signUps_of_unmountShown unmounted]
      exact layered
  | signedIn | signInFailed => exact layered_showAlerts _ layered
  | routed other routed => exact layered_of_routed routed layered
  | onLogin | onMain | elapsed | typed | signedOut => exact layered
  | @create page isTop =>
      by_cases filled : (app.signUps.store.forms page).Filled
      · rw [SignUpRequests.call_create_filled filled]
        exact layered.progress (head?_stack isTop)
      · rw [SignUpRequests.call_create_empty filled]
        exact layered.alerted _
  | answer answered =>
      cases answered with
      | closed found can =>
          have popped : Layered app.navigator.pop.stack := by
            rw [Navigator.stack_pop]
            exact layered.tail
          exact popped
      | created | nobody | unclosed | refused => exact layered

/-! ## Whose the dialogs are -/

/-- The number is that of a progress dialog that is not popped, or of a popped route. -/
def IsDialog (navigator : Navigator AppRoute) (number : Nat) : Prop :=
  (number, .progress) ∈ navigator.routes ∨ number ∈ navigator.popped

/-- Routes come and go, but there is no new progress dialog. -/
structure Quiet (navigator after : Navigator AppRoute) : Prop where
  isDialog : ∀ number, IsDialog navigator number → IsDialog after number
  fewer : ∀ number, (number, .progress) ∈ after.routes → (number, .progress) ∈ navigator.routes

namespace Quiet

variable {navigator after : Navigator AppRoute}

theorem refl (navigator : Navigator AppRoute) : Quiet navigator navigator where
  isDialog := fun _ isDialog => isDialog
  fewer := fun _ member => member

theorem push (quiet : Quiet navigator after) {route : AppRoute} (other : route ≠ .progress) :
    Quiet navigator (after.push route) where
  isDialog := fun number isDialog =>
    (quiet.isDialog number isDialog).imp (List.mem_cons_of_mem _) id
  fewer := fun number member => by
    rcases List.mem_cons.mp member with new | old
    · exact absurd (congrArg Prod.snd new).symm other
    · exact quiet.fewer number old

theorem pop (quiet : Quiet navigator after) : Quiet navigator after.pop where
  isDialog := fun number isDialog => by
    rcases quiet.isDialog number isDialog with shown | popped
    · exact (Navigator.mem_routes_or_popped_pop shown)
    · exact .inr (Navigator.mem_popped_pop popped)
  fewer := fun number member => by
    rw [Navigator.routes_pop] at member
    exact quiet.fewer number (List.mem_of_mem_tail member)

theorem of_routed (routed : Routed navigator after) : Quiet navigator after := by
  cases routed with
  | kept => exact refl navigator
  | pushed isTop opens => exact (refl navigator).push (by rcases opens with rfl | rfl | rfl <;> simp)
  | popped => exact (refl navigator).pop
  | settled other => exact ⟨fun _ isDialog => isDialog, fun _ member => member⟩

end Quiet

/-- Every call in flight has a dialog of its own. -/
structure Owned (app : LoadingPage) : Prop where
  isDialog : ∀ {call due : Nat} {frame : SignUpFrame},
    app.signUps.activations[call]? = some (.suspended frame due) →
      IsDialog app.navigator frame.alertContext
  own : ∀ {call call' due due' : Nat} {frame frame' : SignUpFrame},
    app.signUps.activations[call]? = some (.suspended frame due) →
    app.signUps.activations[call']? = some (.suspended frame' due') →
    frame.alertContext = frame'.alertContext → call = call'

theorem lt_opened_of_isDialog {navigator : Navigator AppRoute} {number : Nat}
    (isDialog : IsDialog navigator number) : number < navigator.opened := by
  rcases isDialog with shown | popped
  · exact navigator.routes_lt_opened _ shown
  · exact navigator.popped_lt_opened _ popped

namespace Owned

theorem initial (appHeight : ℚ) (firebase : Firebase) :
    Owned (LoadingPage.initial appHeight firebase) where
  isDialog := nofun
  own := nofun

theorem quiet (owned : app.Owned) (quiet : Quiet app.navigator next.navigator)
    (activations : next.signUps.activations = app.signUps.activations) : next.Owned where
  isDialog := fun found => quiet.isDialog _ (owned.isDialog (activations ▸ found))
  own := fun found found' => owned.own (activations ▸ found) (activations ▸ found')

/-- A call goes on with its dialog, or is over. -/
theorem replaced (owned : app.Owned) (quiet : Quiet app.navigator next.navigator)
    {call due : Nat} {frame : SignUpFrame}
    (found : app.signUps.activations[call]? = some (.suspended frame due))
    {activation : Activation FirebaseError SignUpFrame}
    (activations : next.signUps.activations = app.signUps.activations.set call activation)
    (same : ∀ frame' due', activation = .suspended frame' due' →
      frame'.alertContext = frame.alertContext) : next.Owned := by
  have earlier : ∀ {other due : Nat} {frame' : SignUpFrame},
      next.signUps.activations[other]? = some (.suspended frame' due) →
      ∃ frame due, app.signUps.activations[other]? = some (.suspended frame due) ∧
        frame'.alertContext = frame.alertContext := by
    intro other due' frame' found'
    rw [activations, List.getElem?_set] at found'
    split at found'
    · rename_i isCall
      subst isCall
      simp only [Option.ite_none_right_eq_some, Option.some.injEq] at found'
      exact ⟨frame, due, found, same frame' due' found'.2⟩
    · exact ⟨frame', due', found', rfl⟩
  constructor
  · intro other due' frame' found'
    obtain ⟨frame, due, before, equal⟩ := earlier found'
    rw [equal]
    exact quiet.isDialog _ (owned.isDialog before)
  · intro call call' due due' frame frame' found found' equal
    obtain ⟨one, _, before, isOne⟩ := earlier found
    obtain ⟨two, _, before', isTwo⟩ := earlier found'
    exact owned.own before before' (by rw [← isOne, equal, isTwo])

/-- A new call has a new dialog. -/
theorem create (owned : app.Owned) (page : Nat) :
    Owned { app with signUps := app.signUps.call (CreateButton.create page) } := by
  have isDialog : ∀ {number : Nat}, IsDialog app.navigator number →
      IsDialog (app.signUps.call (CreateButton.create page)).store.navigator number := by
    intro number known
    by_cases filled : (app.signUps.store.forms page).Filled
    · rw [SignUpRequests.call_create_filled filled]
      exact known.imp (List.mem_cons_of_mem _) id
    · rw [SignUpRequests.call_create_empty filled]
      exact known.imp (List.mem_cons_of_mem _) id
  constructor
  · intro call due frame found
    rcases SignUpRequests.suspended_of_create found with before | ⟨filled, _, rfl⟩
    · exact isDialog (owned.isDialog before)
    · rw [SignUpRequests.call_create_filled filled]
      exact .inl List.mem_cons_self
  · intro call call' due due' frame frame' found found' equal
    have fresh : ∀ {call due : Nat} {frame : SignUpFrame}, app.signUps.activations[call]? =
        some (.suspended frame due) → frame.alertContext ≠ app.navigator.opened :=
      fun before => Nat.ne_of_lt (lt_opened_of_isDialog (owned.isDialog before))
    rcases SignUpRequests.suspended_of_create found with before | ⟨_, isLast, rfl⟩ <;>
      rcases SignUpRequests.suspended_of_create found' with before' | ⟨_, isLast', rfl⟩
    · exact owned.own before before' equal
    · exact absurd equal (fresh before)
    · exact absurd equal.symm (fresh before')
    · rw [isLast, isLast']

theorem nodup_pending (owned : app.Owned) :
    (app.signUps.pending.map SignUpFrame.alertContext).Nodup := by
  rw [Isolate.pending, List.nodup_iff_pairwise_ne, List.pairwise_map, List.pairwise_filterMap,
    List.pairwise_iff_getElem]
  intro call call' bound bound' before frame isFrame frame' isFrame' equal
  have suspended : ∀ {call : Nat} {frame : SignUpFrame} (bound : call <
      app.signUps.activations.length), app.signUps.activations[call].frame? = some frame →
      ∃ due, app.signUps.activations[call]? = some (.suspended frame due) := by
    intro call frame bound isFrame
    rw [List.getElem?_eq_getElem bound]
    cases entry : app.signUps.activations[call] with
    | suspended other due =>
        rw [entry] at isFrame
        cases isFrame
        exact ⟨due, rfl⟩
    | returned =>
        rw [entry] at isFrame
        cases isFrame
    | failed error =>
        rw [entry] at isFrame
        cases isFrame
  obtain ⟨_, found⟩ := suspended bound isFrame
  obtain ⟨_, found'⟩ := suspended bound' isFrame'
  exact Nat.ne_of_lt before (owned.own found found' equal)

theorem answered (owned : app.Owned) {call : Nat} {answer : SignUpAnswer}
    {signUps : SignUpRequests}
    (answered : SignUpRequests.Answered service app.signUps call answer signUps) :
    Owned { app with signUps := signUps } := by
  cases answered with
  | created found =>
      exact owned.replaced (.refl _) found rfl fun frame due suspended => by
        cases suspended
        rfl
  | nobody found | unclosed found | refused found =>
      exact owned.replaced (.refl _) found rfl nofun
  | closed found => exact owned.replaced (Quiet.refl _).pop found rfl nofun

end Owned

theorem quiet_showAlerts (contents : List String) (app : LoadingPage) :
    Quiet app.navigator (app.showAlerts contents).navigator :=
  showAlerts_induction (motive := fun navigator => Quiet app.navigator navigator) contents
    (.refl _) fun _ _ quiet => quiet.push (by simp)

/-- What neither presses the create button nor answers it makes no new dialog. -/
theorem Stepped.quiet (stepped : Stepped service appHeight app event next)
    (noPress : event ≠ .create) (noAnswer : ∀ call answer, event ≠ .answer call answer) :
    Quiet app.navigator next.navigator ∧
      next.signUps.activations = app.signUps.activations := by
  cases stepped with
  | delivered mounted shown =>
      rw [navigator, navigator, signUps_of_showPageFor shown]
      exact ⟨.refl _, rfl⟩
  | left leaving unmounted =>
      rw [navigator, navigator, signUps_of_unmountShown unmounted]
      exact ⟨⟨fun _ isDialog => isDialog, fun _ member => member⟩, rfl⟩
  | @signedIn page call uid before after found stepped =>
      exact ⟨quiet_showAlerts (before.newDialogs after)
        { app with loginPages := app.loginPages.set page after }, rfl⟩
  | @signInFailed page call error before after found stepped =>
      exact ⟨quiet_showAlerts (before.newDialogs after)
        { app with loginPages := app.loginPages.set page after }, rfl⟩
  | routed other routed => exact ⟨.of_routed routed, rfl⟩
  | onLogin | onMain | elapsed | typed | signedOut => exact ⟨.refl _, rfl⟩
  | create => exact absurd rfl noPress
  | answer => exact absurd rfl (noAnswer _ _)

theorem Stepped.owned (stepped : Stepped service appHeight app event next)
    (owned : app.Owned) : next.Owned := by
  by_cases isPress : event = .create
  · subst isPress
    cases stepped with
    | create isTop => exact owned.create _
    | onMain other keeps stepped => exact owned.quiet (.refl _) rfl
    | routed other routed => exact owned.quiet (.of_routed routed) rfl
  · by_cases noAnswer : ∀ call answer, event ≠ .answer call answer
    · obtain ⟨quiet, activations⟩ := stepped.quiet isPress noAnswer
      exact owned.quiet quiet activations
    · obtain ⟨call, answer, rfl⟩ : ∃ call answer, event = .answer call answer := by
        simpa using noAnswer
      cases stepped with
      | answer answered => exact owned.answered answered
      | onMain other | routed other => cases other

theorem owned_of_run
    (ran : (system service appHeight).run (initial appHeight firebase) events = some app) :
    app.Owned :=
  EventSystem.run_induction (motive := fun _ app => app.Owned)
    (.initial appHeight firebase)
    (fun _ _ _ _ _ owned stepped => (stepped_of_step stepped).owned owned) ran

/-- In every state that is reached, the routes are alerts above nothing, or above the loading
page with at most the new account page, one progress dialog above it, or a sheet in between.
However many calls of the create handler are in flight, every one has a dialog of its own,
which is the one on screen or popped. -/
theorem routes_of_run
    (ran : (system service appHeight).run (initial appHeight firebase) events = some app) :
    (∃ (contents : List String) (ground : List AppRoute),
      app.navigator.stack = contents.map AppRoute.alert ++ ground ∧
      ground ∈ [[], [.loadingPage], [.newAccountPage, .loadingPage], [.logoutSheet, .loadingPage],
        [.alarmTileBottomSheet, .loadingPage], [.progress, .newAccountPage, .loadingPage]]) ∧
    (app.signUps.pending.map SignUpFrame.alertContext).Nodup ∧
    ∀ frame ∈ app.signUps.pending, (frame.alertContext, .progress) ∈ app.navigator.routes ∨
      frame.alertContext ∈ app.navigator.popped := by
  have owned := owned_of_run ran
  refine ⟨?_, ?_, ?_⟩
  · exact EventSystem.run_induction (motive := fun _ app => Layered app.navigator.stack)
      (Layered.of_ground (by simp [grounds, initial, navigator]))
      (fun _ _ _ _ _ layered stepped => (stepped_of_step stepped).layered layered) ran
  · exact owned.nodup_pending
  · intro frame member
    obtain ⟨call, due, found⟩ := Isolate.mem_pending_iff.mp member
    exact owned.isDialog found

/-- A sign-in is answered while an account is being created, and the user closes the
progress dialog and asks for the account once more. -/
def impatientSignUp : List Event :=
  [.login (.edit .id "me"), .login (.edit .pw "wrong"), .login .login, .openNewAccount,
    .type { id := "you", pw := "secret", name := "You" }, .create, .back, .create,
    .signInAnswered 0 0 (.error (.firebaseAuthException "wrong-password"))]

theorem routes_of_run_impatient : ∃ app,
    (system .inMemory 0).run (initial 0 .noAccounts) impatientSignUp = some app ∧
      (app.signUps.pending.map SignUpFrame.alertContext).Nodup := by
  obtain ⟨app, ran⟩ : ∃ app,
    (system .inMemory 0).run (initial 0 .noAccounts) impatientSignUp = some app := ⟨_, rfl⟩
  exact ⟨app, ran, (routes_of_run ran).2.1⟩

/-! ## Dialogs that are left -/

theorem NoDialogIsLeft.quiet (none : app.NoDialogIsLeft)
    (quiet : Quiet app.navigator next.navigator)
    (activations : next.signUps.activations = app.signUps.activations) :
    next.NoDialogIsLeft := by
  intro number member
  rw [Isolate.pending, activations]
  exact none number (quiet.fewer number member)

theorem NoDialogIsLeft.create (none : app.NoDialogIsLeft) (page : Nat) :
    NoDialogIsLeft { app with signUps := app.signUps.call (CreateButton.create page) } := by
  by_cases filled : (app.signUps.store.forms page).Filled
  · rw [SignUpRequests.call_create_filled filled]
    intro number member
    simp only [Isolate.pending, List.filterMap_append, List.mem_append]
    rcases List.mem_cons.mp member with new | old
    · exact ⟨_, .inr (List.mem_singleton.mpr rfl), (congrArg Prod.fst new).symm⟩
    · obtain ⟨frame, isFrame, same⟩ := none number old
      exact ⟨frame, .inl isFrame, same⟩
  · rw [SignUpRequests.call_create_empty filled]
    intro number member
    simp only [Isolate.pending, List.filterMap_append, List.mem_append]
    rcases List.mem_cons.mp member with new | old
    · cases new
    · obtain ⟨frame, isFrame, same⟩ := none number old
      exact ⟨frame, .inl isFrame, same⟩

section Ended

variable {call due : Nat} {frame : SignUpFrame}

theorem dialogOf?_of_found
    (found : app.signUps.activations[call]? = some (.suspended frame due)) :
    app.dialogOf? call = some frame.alertContext := by
  simp [dialogOf?, found]

/-- A call that goes on leaves its dialog to itself. -/
theorem NoDialogIsLeft.goesOn (none : app.NoDialogIsLeft)
    (found : app.signUps.activations[call]? = some (.suspended frame due))
    {frame' : SignUpFrame} {due' : Nat}
    (activations : next.signUps.activations =
      app.signUps.activations.set call (.suspended frame' due'))
    (same : frame'.alertContext = frame.alertContext)
    (routes : next.navigator = app.navigator) : next.NoDialogIsLeft := by
  intro number member
  rw [routes] at member
  obtain ⟨other, isPending, isOther⟩ := none number member
  obtain ⟨call', due'', found'⟩ := Isolate.mem_pending_iff.mp isPending
  have bound := (List.getElem?_eq_some_iff.mp found).1
  by_cases isCall : call = call'
  · subst isCall
    rw [found] at found'
    cases found'
    refine ⟨frame', Isolate.mem_pending_iff.mpr ⟨call, due', ?_⟩, same.trans isOther⟩
    rw [activations, List.getElem?_set_self bound]
  · refine ⟨other, Isolate.mem_pending_iff.mpr ⟨call', due'', ?_⟩, isOther⟩
    rw [activations, List.getElem?_set_ne isCall, found']

/-- A call that ends leaves its dialog behind exactly if that is still shown. -/
theorem Owned.ended_iff (owned : app.Owned) (none : app.NoDialogIsLeft)
    (found : app.signUps.activations[call]? = some (.suspended frame due))
    {activation : Activation FirebaseError SignUpFrame} (isOver : activation.frame? = .none)
    (activations : next.signUps.activations = app.signUps.activations.set call activation)
    (fewer : ∀ route ∈ next.navigator.routes, route ∈ app.navigator.routes) :
    next.NoDialogIsLeft ↔ next.navigator.isShown frame.alertContext = false := by
  have others : ∀ {other : SignUpFrame}, other ∈ next.signUps.pending ↔ _ :=
    Isolate.mem_pending_over_iff isOver activations
  constructor
  · intro none'
    rw [Bool.eq_false_iff]
    intro shown
    obtain ⟨route, member⟩ := Navigator.isShown_iff.mp shown
    have before := fewer _ member
    have isProgress : (frame.alertContext, .progress) ∈ app.navigator.routes := by
      rcases owned.isDialog found with isProgress | isPopped
      · exact isProgress
      · exact absurd rfl (app.navigator.popped_closed _ isPopped _ before)
    rw [Navigator.route_unique before isProgress] at member
    obtain ⟨other, isPending, same⟩ := none' _ member
    obtain ⟨call', due', isOther, found'⟩ := others.mp isPending
    exact isOther (owned.own found found' same.symm)
  · intro hidden number member
    obtain ⟨other, isPending, isOther⟩ := none number (fewer _ member)
    obtain ⟨call', due', found'⟩ := Isolate.mem_pending_iff.mp isPending
    refine ⟨other, others.mpr ⟨call', due', ?_, found'⟩, isOther⟩
    rintro rfl
    rw [found] at found'
    cases found'
    rw [isOther, Bool.eq_false_iff] at hidden
    exact hidden (Navigator.isShown_iff.mpr ⟨_, member⟩)

end Ended

theorem NoDialogIsLeft.answered_iff (lawful : service.Laws) (none : app.NoDialogIsLeft)
    (owned : app.Owned) {call : Nat} {answer : SignUpAnswer} {signUps : SignUpRequests}
    (answered : SignUpRequests.Answered service app.signUps call answer signUps) :
    NoDialogIsLeft { app with signUps := signUps } ↔
      app.closesItsDialog (.answer call answer) = true := by
  have isPopped : ∀ {frame due}, app.signUps.activations[call]? = some (.suspended frame due) →
      ((!(app.dialogOf? call).any app.navigator.isShown) = true ↔
        app.navigator.isShown frame.alertContext = false) := by
    intro frame due found
    simp [dialogOf?_of_found found]
  cases answered with
  | @created page alertContext credentials due creation now uid found signedIn =>
      refine iff_of_true (none.goesOn found rfl rfl rfl) ?_
      rw [CreateButton.currentUser_afterCreation lawful] at signedIn
      cases creation with
      | ok uid' => rfl
      | error error =>
          have isSome : app.currentUser = some uid := signedIn
          simp [closesItsDialog, isSome]
  | @nobody page alertContext credentials due creation now found nobody =>
      refine Iff.trans (owned.ended_iff none found rfl rfl fun _ member => member) ?_
      rw [CreateButton.currentUser_afterCreation lawful] at nobody
      cases creation with
      | ok uid => cases nobody
      | error error =>
          have isNone : app.currentUser = .none := nobody
          simp only [closesItsDialog, Except.isOk, Except.toBool, isNone, Option.isSome_none,
            Bool.false_or, isPopped found]
          rfl
  | refused found =>
      refine Iff.trans (owned.ended_iff none found rfl rfl fun _ member => member) ?_
      simp only [closesItsDialog, Except.isOk, Except.toBool, Bool.false_and, Bool.false_or,
        isPopped found]
      rfl
  | @unclosed alertContext uid document due error found cannot =>
      have hidden : app.navigator.isShown alertContext = false :=
        Bool.eq_false_iff.mpr fun shown => cannot (.of_isShown shown)
      refine iff_of_true
        (Iff.mpr (owned.ended_iff none found rfl rfl fun _ member => member) hidden) ?_
      simp only [closesItsDialog, Bool.or_eq_true, isPopped found]
      exact .inr hidden
  | @closed alertContext uid document due found can =>
      refine Iff.trans (owned.ended_iff none found rfl rfl fun route member => ?_) ?_
      · have below : route ∈ app.navigator.pop.routes := member
        rw [Navigator.routes_pop] at below
        exact List.mem_of_mem_tail below
      · refine Iff.trans Navigator.isShown_pop_eq_false ?_
        simp only [closesItsDialog, Except.isOk, Except.toBool, Bool.true_and, Bool.or_eq_true,
          dialogOf?_of_found found, beq_iff_eq, Option.any_some, Bool.not_eq_true']
        rfl

/-- The answers are all that can leave a dialog behind. -/
theorem NoDialogIsLeft.step_iff (lawful : service.Laws) (none : app.NoDialogIsLeft)
    (owned : app.Owned) (stepped : Stepped service appHeight app event next) :
    next.NoDialogIsLeft ↔ app.closesItsDialog event = true := by
  by_cases noAnswer : ∀ call answer, event ≠ .answer call answer
  · have harmless : app.closesItsDialog event = true := by
      cases event with
      | answer call answer => exact absurd rfl (noAnswer call answer)
      | _ => rfl
    refine iff_of_true ?_ harmless
    by_cases isPress : event = .create
    · subst isPress
      cases stepped with
      | create isTop => exact none.create _
      | onMain other keeps stepped => exact none.quiet (.refl _) rfl
      | routed other routed => exact none.quiet (.of_routed routed) rfl
    · obtain ⟨quiet, activations⟩ := stepped.quiet isPress noAnswer
      exact none.quiet quiet activations
  · obtain ⟨call, answer, rfl⟩ : ∃ call answer, event = .answer call answer := by
      simpa using noAnswer
    cases stepped with
    | answer answered => exact none.answered_iff lawful owned answered
    | onMain other | routed other => cases other

/-- All along a run no progress dialog outlives its call, exactly if every call that ends
finds its dialog popped already, or stores its document with the dialog on top. -/
theorem no_dialog_is_left_iff (lawful : service.Laws)
    (ran : (system service appHeight).run (initial appHeight firebase) events = some app) :
    (system service appHeight).Always NoDialogIsLeft (initial appHeight firebase) events ↔
      (system service appHeight).StepsMeet
        (fun app event => app.closesItsDialog event = true) (initial appHeight firebase)
        events := by
  have none : (initial appHeight firebase).NoDialogIsLeft := by
    intro number member
    simp [initial, navigator, Navigator.start] at member
  refine EventSystem.always_iff_stepsMeet ⟨none, .initial _ _⟩
    (fun (app : LoadingPage) (holds : app.NoDialogIsLeft ∧ app.Owned) => holds.1) ?_ ?_ ran
  · rintro app event next ⟨none, owned⟩ stepped closes
    have isStep := stepped_of_step stepped
    exact ⟨(none.step_iff lawful owned isStep).mpr closes, isStep.owned owned⟩
  · rintro app event next ⟨none, owned⟩ stepped none'
    exact (none.step_iff lawful owned (stepped_of_step stepped)).mp none'

/-- Every request of the sign-up succeeds, but the alert of a sign-in that failed
meanwhile is closed in place of the progress dialog. -/
theorem dialog_is_left_by_wrong_password :
    ¬ (system .inMemory 0).Always NoDialogIsLeft (initial 0 .noAccounts)
      [.login (.edit .id "me"), .login (.edit .pw "wrong"), .login .login, .openNewAccount,
        .type { id := "you", pw := "secret", name := "You" }, .create,
        .signInAnswered 0 0 (.error (.firebaseAuthException "wrong-password")),
        .answer 0 (.creation (.ok "uid") 0), .answer 0 (.storing (.ok ()))] := by
  obtain ⟨app, ran⟩ : ∃ app, (system .inMemory 0).run (initial 0 .noAccounts)
      [.login (.edit .id "me"), .login (.edit .pw "wrong"), .login .login, .openNewAccount,
        .type { id := "you", pw := "secret", name := "You" }, .create,
        .signInAnswered 0 0 (.error (.firebaseAuthException "wrong-password")),
        .answer 0 (.creation (.ok "uid") 0), .answer 0 (.storing (.ok ()))] = some app :=
    ⟨_, rfl⟩
  rw [no_dialog_is_left_iff FirebaseService.inMemory_laws ran]
  decide +kernel

end LoadingPage

end FacebookApp
