import FacebookApp.Ui.IndicatorBarProperties

/-!
# Sweeps of the indicator bar

A page transition that waits for the indicator moves it in one direction and in steps of
one duration. In every row the spacer behind the indicator then takes no more than the
spacer ahead of it has given up, whichever frames are dropped.
-/

set_option autoImplicit false

namespace FacebookApp

open Dart Flutter

namespace IndicatorLoop

/-- The later index lies in the direction of the loop. -/
def Towards : IndicatorLoop → Int → Int → Prop
  | .ascending, earlier, later => earlier ≤ later
  | .descending, earlier, later => later ≤ earlier

theorem towards_refl (loop : IndicatorLoop) (index : Int) : loop.Towards index index := by
  cases loop <;> exact Int.le_refl index

theorem towards_advance {loop : IndicatorLoop} {earlier : Int} {frame : IndicatorFrame}
    (same : frame.loop = loop) (towards : loop.Towards earlier frame.i) :
    loop.Towards earlier frame.advance.i := by
  subst same
  rcases frame with ⟨loop, index, i⟩
  cases loop <;> simp only [Towards, IndicatorFrame.advance] at towards ⊢ <;> omega

end IndicatorLoop

theorem IndicatorFrame.loop_advance (frame : IndicatorFrame) : frame.advance.loop = frame.loop := by
  rcases frame with ⟨loop, index, i⟩
  cases loop <;> rfl

namespace IndicatorRow

/-- The spacer ahead of an indicator that moves in the direction of the loop. -/
def ahead (row : IndicatorRow) : IndicatorLoop → Animated
  | .ascending => row.right
  | .descending => row.left

def behind (row : IndicatorRow) : IndicatorLoop → Animated
  | .ascending => row.left
  | .descending => row.right

theorem rest_eq (motion : Motion) (tabWidth : ℚ) (row : IndicatorRow) (loop : IndicatorLoop) :
    row.rest motion tabWidth =
      tabWidth - ((row.ahead loop).value motion + (row.behind loop).value motion) := by
  cases loop <;> simp only [rest, ahead, behind] <;> ring

end IndicatorRow

namespace IndicatorBar

variable {motion : Motion} {tabWidth : ℚ} {duration : Nat} {loop : IndicatorLoop}
  {shown : Int} {bar : IndicatorBar}

/-- Who has the width of a tab when the indicator is at an index. -/
def holder (loop : IndicatorLoop) (shown tab : Int) : Animated.Holder :=
  if tab = shown then .neither
  else match loop with
    | .ascending => if shown < tab then .giver else .taker
    | .descending => if shown < tab then .taker else .giver

theorem targets_eq (tabWidth : ℚ) (loop : IndicatorLoop) (shown tab : Int) :
    ((holder loop shown tab).giverTarget tabWidth, (holder loop shown tab).takerTarget tabWidth) =
      match loop with
      | .ascending => (rightWidth tabWidth shown tab, leftWidth tabWidth shown tab)
      | .descending => (leftWidth tabWidth shown tab, rightWidth tabWidth shown tab) := by
  rcases lt_trichotomy shown tab with below | same | above
  · cases loop <;> simp [holder, leftWidth, rightWidth, below, below.ne', below.not_gt,
      Animated.Holder.giverTarget, Animated.Holder.takerTarget]
  · cases loop <;> simp [holder, leftWidth, rightWidth, same,
      Animated.Holder.giverTarget, Animated.Holder.takerTarget]
  · cases loop <;> simp [holder, leftWidth, rightWidth, above, above.ne, above.not_gt,
      Animated.Holder.giverTarget, Animated.Holder.takerTarget]

theorem precedes_holder {later : Int} (towards : loop.Towards shown later) (tab : Int) :
    (holder loop shown tab).Precedes (holder loop later tab) := by
  unfold holder
  cases loop <;> simp only [IndicatorLoop.Towards] at towards <;> split_ifs <;>
    first
      | trivial
      | rfl
      | (simp only [Animated.Holder.Precedes]; decide)
      | omega

/-- In every row the width of the tab goes from the spacer ahead to the spacer behind. -/
def Sweeps (loop : IndicatorLoop) (tabWidth : ℚ) (duration : Nat) (bar : IndicatorBar) : Prop :=
  ∀ tab < navigationData.length, Animated.Handover tabWidth duration
    ((bar.row tab).ahead loop) ((bar.row tab).behind loop) (holder loop bar.shown tab)

theorem Aims.sweeps (aims : bar.Aims tabWidth) (atRest : bar.isAtRest = true)
    (loop : IndicatorLoop) (duration : Nat) : bar.Sweeps loop tabWidth duration := by
  intro tab isTab
  have ended := List.all_eq_true.mp atRest (bar.row tab)
    (List.mem_map.mpr ⟨tab, List.mem_range.mpr isTab, rfl⟩)
  simp only [IndicatorRow.hasEnded, Bool.and_eq_true] at ended
  have targets := Prod.mk.inj (targets_eq tabWidth loop bar.shown tab)
  obtain ⟨atLeft, atRight⟩ := aims tab
  cases loop with
  | ascending =>
      exact Animated.handover_of_rests ⟨atRight.trans targets.1.symm, ended.2⟩
        ⟨atLeft.trans targets.2.symm, ended.1⟩ duration
  | descending =>
      exact Animated.handover_of_rests ⟨atLeft.trans targets.1.symm, ended.1⟩
        ⟨atRight.trans targets.2.symm, ended.2⟩ duration

theorem isAtRest_build (tabWidth : ℚ) (shown : Int) : (build tabWidth shown).isAtRest = true := by
  simp [isAtRest, rows, build, IndicatorRow.hasEnded, Animated.settled, Animated.hasEnded]

namespace Sweeps

theorem elapse (sweeps : bar.Sweeps loop tabWidth duration) (milliseconds : Nat) :
    (bar.elapse milliseconds).Sweeps loop tabWidth duration := by
  intro tab isTab
  have handover := (sweeps tab isTab).elapse milliseconds
  cases loop <;> exact handover

theorem rebuild (sweeps : bar.Sweeps loop tabWidth duration) (laws : motion.Laws)
    (positive : 0 < tabWidth) (towards : loop.Towards bar.shown shown) :
    (bar.rebuild motion tabWidth shown duration).Sweeps loop tabWidth duration := by
  intro tab isTab
  have targets := Prod.mk.inj (targets_eq tabWidth loop shown tab)
  have handover := (sweeps tab isTab).retarget laws positive (precedes_holder towards tab)
  rw [targets.1, targets.2] at handover
  cases loop <;> exact handover

theorem not_overflows (sweeps : bar.Sweeps loop tabWidth duration) (laws : motion.Laws)
    (nonneg : 0 ≤ tabWidth) : ∀ row ∈ bar.rows, ¬ row.Overflows motion tabWidth := by
  intro row member
  obtain ⟨tab, inRange, rfl⟩ := List.mem_map.mp member
  have fits := (sweeps tab (List.mem_range.mp inRange)).value_add_le laws nonneg
  rw [IndicatorRow.Overflows, IndicatorRow.rest_eq motion tabWidth _ loop, not_lt]
  exact sub_nonneg.mpr fits

end Sweeps

end IndicatorBar

namespace IndicatorView

open MainBloc (Live)

variable {snapshots : Snapshots} {motion : Motion} {tabWidth : ℚ} {events : List Event}
  {view next : IndicatorView}

/-- The one call in flight, if any, published the index last and moves it in one direction,
in which the bar follows. -/
structure Calm (tabWidth : ℚ) (view : IndicatorView) : Prop where
  follows : Follows tabWidth view
  alone : ∀ (call other : Nat) (frame frame' : IndicatorFrame) (due due' : Nat),
    view.page.bloc.activations[call]? = some (.suspended frame due) →
    view.page.bloc.activations[other]? = some (.suspended frame' due') → call = other
  sweeps : ∃ loop : IndicatorLoop,
    (∀ (call : Nat) (frame : IndicatorFrame) (due : Nat),
      view.page.bloc.activations[call]? = some (.suspended frame due) →
      frame.loop = loop ∧ view.page.bloc.store.index.value? = some frame.i) ∧
    ∀ bar, view.bar = some bar →
      bar.Sweeps loop tabWidth view.page.bloc.store.awaitedDelay ∧
      ∀ shown, view.page.bloc.store.index.value? = some shown → loop.Towards bar.shown shown

theorem calm_initial (laws : snapshots.Laws) :
    Calm tabWidth (initial snapshots motion tabWidth) where
  follows := follows_initial laws
  alone := by
    intro call other frame frame' due due' found
    simp [initial, MainPage.initial, MainBloc.initial] at found
  sweeps := by
    refine ⟨.ascending, ?_, ?_⟩
    · intro call frame due found
      simp [initial, MainPage.initial, MainBloc.initial] at found
    · intro bar drawn
      rcases laws.first MainPage.initial.bloc.store.index with without | present
      · simp [initial, without, buildBar] at drawn
      · have seeded : MainPage.initial.bloc.store.index.value? = some 0 := rfl
        simp only [initial, present, seeded, buildBar, Option.some.injEq] at drawn
        subst drawn
        refine ⟨(IndicatorBar.aims_build tabWidth 0).sweeps
          (IndicatorBar.isAtRest_build tabWidth 0) _ _, ?_⟩
        rintro shown ⟨⟩
        exact IndicatorLoop.towards_refl _ 0

theorem awaitedDelay_afterRound (frame : IndicatorFrame) (bloc : MainBloc) :
    (bloc.afterRound frame).awaitedDelay = bloc.awaitedDelay := by
  rw [MainBloc.awaitedDelay, MainPage.delay_afterRound, MainBloc.awaitedDelay]

/-- The round of a call moves the index in the direction of its loop. -/
theorem towards_afterRound {loop : IndicatorLoop} {earlier shown current : Int}
    {frame : IndicatorFrame} {store : MainBloc} (present : store.index.value? = some current)
    (here : loop.Towards earlier current) (there : loop.Towards earlier frame.i)
    (isShown : (store.afterRound frame).index.value? = some shown) :
    loop.Towards earlier shown := by
  unfold MainBloc.afterRound at isShown
  split at isShown
  · rw [BehaviorSubject.value?_emit, Option.some.injEq] at isShown
    exact isShown ▸ there
  · rw [present, Option.some.injEq] at isShown
    exact isShown ▸ here

theorem suspended_of_round {frame frame' : IndicatorFrame} {state : MainBloc.State} {due : Nat}
    (suspended : MainBloc.roundActivation frame state = .suspended frame' due) :
    frame' = frame ∧ (state.store.afterRound frame).index.value? = some frame.i := by
  unfold MainBloc.roundActivation at suspended
  split at suspended
  · rename_i continues
    cases suspended
    refine ⟨rfl, ?_⟩
    rw [MainBloc.afterRound, if_pos continues]
    exact BehaviorSubject.value?_emit _ _
  · cases suspended

theorem Calm.frame (snapshotLaws : snapshots.Laws) (motionLaws : motion.Laws)
    (positive : 0 < tabWidth) (calm : Calm tabWidth view)
    (follows : Follows tabWidth (view.frame snapshots motion tabWidth)) :
    Calm tabWidth (view.frame snapshots motion tabWidth) := by
  obtain ⟨loop, moves, sweeps⟩ := calm.sweeps
  obtain ⟨current, present⟩ := calm.follows.live.index_present
  refine ⟨follows, calm.alone, loop, moves, ?_⟩
  simp only [IndicatorView.frame, snapshotLaws.later, present]
  cases drawn : view.bar with
  | none =>
      rintro bar ⟨⟩
      refine ⟨(IndicatorBar.aims_build tabWidth current).sweeps
        (IndicatorBar.isAtRest_build tabWidth current) _ _, ?_⟩
      rintro shown ⟨⟩
      exact loop.towards_refl current
  | some earlier =>
      rintro bar ⟨⟩
      obtain ⟨sweeps, towards⟩ := sweeps earlier drawn
      refine ⟨(sweeps.elapse _).rebuild motionLaws positive (towards current present), ?_⟩
      rintro shown ⟨⟩
      exact loop.towards_refl current

/-- A transition that waited begins a sweep of its own. -/
theorem Calm.transitioned {store : MainBloc} {current index : Int} (calm : Calm tabWidth view)
    (announced : MainPage.Announced index view.page.bloc.store store)
    (present : view.page.bloc.store.index.value? = some current)
    (idle : view.page.bloc.pending = [])
    (atRest : ∀ bar, view.bar = some bar → bar.shown = current ∧ bar.isAtRest = true)
    (follows : Follows tabWidth { view with page := view.page.transitioned store current index }) :
    Calm tabWidth { view with page := view.page.transitioned store current index } := by
  let first := MainBloc.startFrame current index
  have here : store.index.value? = some current := announced.sameIndex ▸ present
  have there : first.loop.Towards current first.i := by
    simp only [first, MainBloc.startFrame]
    split
    · exact Int.le_add_one (Int.le_refl current)
    · exact Int.sub_le_self current (by decide)
  have new : ∀ (call : Nat) (frame : IndicatorFrame) (due : Nat),
      (view.page.transitioned store current index).bloc.activations[call]? =
        some (.suspended frame due) →
      call = view.page.bloc.activations.length ∧
        MainBloc.roundActivation first { view.page.bloc with store := store } =
          .suspended frame due := by
    intro call frame due found
    simp only [MainPage.transitioned, List.getElem?_append] at found
    split at found
    · have member := Isolate.mem_pending_iff.mpr ⟨call, due, found⟩
      rw [idle] at member
      cases member
    · rw [List.getElem?_singleton, Option.ite_none_right_eq_some, Option.some.injEq] at found
      exact ⟨by omega, found.2⟩
  refine ⟨follows, ?_, first.loop, ?_, ?_⟩
  · intro call other frame frame' due due' found found'
    exact (new call frame due found).1.trans (new other frame' due' found').1.symm
  · intro call frame due found
    obtain ⟨rfl, isShown⟩ := suspended_of_round (new call frame due found).2
    exact ⟨rfl, isShown⟩
  · intro bar drawn
    obtain ⟨rfl, ended⟩ := atRest bar drawn
    refine ⟨(calm.follows.aims bar drawn).sweeps ended _ _, fun shown isShown => ?_⟩
    exact towards_afterRound here (IndicatorLoop.towards_refl _ _) there isShown

/-- A resumption goes on with the sweep. -/
theorem Calm.resumed {call due : Nat} {frame : IndicatorFrame} (calm : Calm tabWidth view)
    (found : view.page.bloc.activations[call]? = some (.suspended frame due))
    (follows : Follows tabWidth { view with page := view.page.resumed call frame }) :
    Calm tabWidth { view with page := view.page.resumed call frame } := by
  obtain ⟨loop, moves, sweeps⟩ := calm.sweeps
  obtain ⟨sameLoop, present⟩ := moves call frame due found
  have bound := (List.getElem?_eq_some_iff.mp found).1
  have own : ∀ (other : Nat) (frame' : IndicatorFrame) (due' : Nat),
      (view.page.resumed call frame).bloc.activations[other]? = some (.suspended frame' due') →
      other = call ∧ MainBloc.roundActivation frame.advance view.page.bloc =
        .suspended frame' due' := by
    intro other frame' due' found'
    by_cases same : other = call
    · subst same
      rw [MainPage.resumed, List.getElem?_set_self bound, Option.some.injEq] at found'
      exact ⟨rfl, found'⟩
    · rw [MainPage.resumed, List.getElem?_set_ne (Ne.symm same)] at found'
      exact absurd (calm.alone other call frame' frame due' due found' found) same
  refine ⟨follows, ?_, loop, ?_, ?_⟩
  · intro other other' frame' frame'' due' due'' found' found''
    exact (own other frame' due' found').1.trans (own other' frame'' due'' found'').1.symm
  · intro other frame' due' found'
    obtain ⟨rfl, isShown⟩ := suspended_of_round (own other frame' due' found').2
    exact ⟨frame.loop_advance.trans sameLoop, isShown⟩
  · intro bar drawn
    obtain ⟨sweeps, towards⟩ := sweeps bar drawn
    have here := towards frame.i present
    refine ⟨?_, fun shown isShown => ?_⟩
    · simpa only [MainPage.resumed, awaitedDelay_afterRound] using sweeps
    · exact towards_afterRound present here (IndicatorLoop.towards_advance sameLoop here) isShown

theorem Calm.step {event : Event} (snapshotLaws : snapshots.Laws) (motionLaws : motion.Laws)
    (positive : 0 < tabWidth) (calm : Calm tabWidth view)
    (notDisposing : event ≠ .page .dispose) (waits : view.waitsForIndicator event = true)
    (stepped : (system snapshots motion tabWidth).step view event = some next)
    (follows : Follows tabWidth next) : Calm tabWidth next := by
  cases event with
  | frame =>
      simp only [system, IndicatorView.step, Option.ite_none_right_eq_some,
        Option.some.injEq] at stepped
      obtain ⟨_, rfl⟩ := stepped
      exact calm.frame snapshotLaws motionLaws positive follows
  | page event =>
      obtain ⟨page, steppedPage, rfl⟩ := Option.map_eq_some_iff.mp stepped
      have notDispose : event ≠ .dispose := fun same => notDisposing (same ▸ rfl)
      cases MainPage.pageStep_of_step calm.follows.live notDispose steppedPage with
      | refused => exact ⟨follows, calm.alone, calm.sweeps⟩
      | elapse => exact ⟨follows, calm.alone, calm.sweeps⟩
      | resume found isDue =>
          have resumed := calm.resumed found ⟨follows.live, follows.adjoined, follows.aims⟩
          exact ⟨follows, resumed.alone, resumed.sweeps⟩
      | @transition index current alarmToWatch data store isTab announced present simulated =>
          simp only [waitsForIndicator, Bool.and_eq_true, List.isEmpty_iff,
            Option.all_eq_true, beq_iff_eq] at waits
          have atRest : ∀ bar, view.bar = some bar → bar.shown = current ∧ bar.isAtRest = true := by
            intro bar drawn
            obtain ⟨isShown, ended⟩ := waits.2 bar drawn
            exact ⟨(Option.some.inj (present.symm.trans isShown)).symm, ended⟩
          have begun := calm.transitioned announced present waits.1 atRest
            ⟨follows.live, follows.adjoined, follows.aims⟩
          exact ⟨follows, begun.alone, begun.sweeps⟩

theorem calm_of_run (snapshotLaws : snapshots.Laws) (motionLaws : motion.Laws)
    (positive : 0 < tabWidth)
    (ran : (system snapshots motion tabWidth).run (initial snapshots motion tabWidth) events =
      some view)
    (notDisposed : .page .dispose ∉ events)
    (waits : (system snapshots motion tabWidth).StepsMeet
      (fun view event => view.waitsForIndicator event = true)
      (initial snapshots motion tabWidth) events) : Calm tabWidth view := by
  revert notDisposed waits
  refine EventSystem.run_induction (motive := fun events view => .page .dispose ∉ events →
    (system snapshots motion tabWidth).StepsMeet
      (fun view event => view.waitsForIndicator event = true)
      (initial snapshots motion tabWidth) events → Calm tabWidth view)
    (fun _ _ => calm_initial snapshotLaws) ?_ ran
  intro events view event next reached ih stepped notDisposed waits
  have follows := follows_of_run snapshotLaws
    (EventSystem.run_concat_iff.mpr ⟨view, reached, stepped⟩) notDisposed
  simp only [List.mem_append, List.mem_singleton, not_or] at notDisposed
  rw [EventSystem.stepsMeet_concat_iff reached] at waits
  exact (ih notDisposed.1 waits.1).step snapshotLaws motionLaws positive
    (Ne.symm notDisposed.2) waits.2 stepped follows

/-- When every page transition waits until the indicator has arrived and is drawn at rest,
no row overflows in any frame, so that from the second frame on the coloured parts are
always one tab wide together. -/
theorem no_row_overflows (snapshotLaws : snapshots.Laws) (motionLaws : motion.Laws)
    (positive : 0 < tabWidth)
    (ran : (system snapshots motion tabWidth).run (initial snapshots motion tabWidth) events =
      some view)
    (notDisposed : .page .dispose ∉ events)
    (waits : (system snapshots motion tabWidth).StepsMeet
      (fun view event => view.waitsForIndicator event = true)
      (initial snapshots motion tabWidth) events) :
    ¬ view.Overflows motion tabWidth ∧
      (.frame ∈ events → (view.coloured motion tabWidth).sum = tabWidth) := by
  obtain ⟨loop, _, sweeps⟩ := (calm_of_run snapshotLaws motionLaws positive ran notDisposed
    waits).sweeps
  have fits : ∀ bar, view.bar = some bar →
      ∀ row ∈ bar.rows, ¬ row.Overflows motion tabWidth :=
    fun bar drawn => (sweeps bar drawn).1.not_overflows motionLaws positive.le
  constructor
  · rintro ⟨bar, drawn, row, member, overflows⟩
    exact fits bar drawn row member overflows
  · intro framed
    obtain ⟨bar, drawn, _⟩ := exists_bar_of_run snapshotLaws ran notDisposed framed
    have adjoined := (follows_of_run snapshotLaws ran notDisposed).adjoined bar drawn
    simp only [coloured, drawn]
    exact (adjoined.coloured_sum motionLaws).2.mpr (fits bar drawn)

/-- A tap, and another one when the indicator has arrived. The frame after the second
value of the second loop is dropped. -/
def patientTaps : List Event :=
  [.frame, .page (.pageTransition 1 false none), .frame, .page (.elapse 100), .page (.resume 0),
    .frame, .page (.pageTransition 4 false none), .frame, .page (.elapse 33), .page (.resume 1),
    .page (.elapse 33), .page (.resume 1), .frame, .page (.elapse 20), .frame]

theorem no_row_overflows_patient : ∃ view,
    (system .delivered .linear 60).run (initial .delivered .linear 60) patientTaps = some view ∧
      (view.coloured .linear 60).sum = 60 := by
  obtain ⟨view, ran⟩ : ∃ view, (system .delivered .linear 60).run
      (initial .delivered .linear 60) patientTaps = some view :=
    Option.isSome_iff_exists.mp (by decide +kernel)
  exact ⟨view, ran, (no_row_overflows Snapshots.delivered_laws Motion.linear_laws (by decide) ran
    (by decide) (by decide +kernel)).2 (by decide)⟩

end IndicatorView

end FacebookApp
