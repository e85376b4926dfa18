import FacebookApp.Ui.IndicatorBar
import FacebookApp.Ui.IndicatorPacingProperties

/-!
# Properties of the indicator bar

From the second frame on, the coloured parts of the rows are one tab wide together as
long as no row is too narrow for its spacers, and are never less.
-/

set_option autoImplicit false

namespace FacebookApp

open Dart Flutter

/-! ## Published indices -/

namespace MainBloc

theorem exists_animateIndicator_of_mem_targets {events : List Event} {target : Int}
    (member : target ∈ targets events) : .animateIndicator target ∈ events := by
  unfold targets at member
  generalize initial = start at member
  induction events generalizing start with
  | nil => simp at member
  | cons event events ih =>
      simp only [EventSystem.observe] at member
      cases stepped : system.step start event with
      | none => simp [stepped] at member
      | some next =>
          simp only [stepped, List.mem_append] at member
          rcases member with now | later
          · cases event with
            | animateIndicator index => simp_all [targetObserver]
            | updateDelay | updateTarget | updateAlarmToWatch | updateData | resume | elapse
            | dispose => simp [targetObserver] at now
          · exact List.mem_cons_of_mem _ (ih next later)

end MainBloc

namespace MainPage

/-- A mounted page publishes indices of tabs only. -/
theorem index_isTab_of_run {events : List Event} {page : MainPage}
    (ran : system.run initial events = some page) (notDisposed : .dispose ∉ events) {value : Int}
    (published : value ∈ page.bloc.store.index.events) :
    0 ≤ value ∧ value < navigationData.length := by
  obtain ⟨moves, moved, admitted⟩ := exists_blocRun ran notDisposed
  have inRange := MainBloc.inRange_of_run moved fun disposed => (admitted _ disposed).1 rfl
  have tabs : ∀ bound ∈ 0 :: MainBloc.targets moves,
      0 ≤ bound ∧ bound < navigationData.length := by
    intro bound member
    rcases List.mem_cons.mp member with rfl | requested
    · decide
    · have calling := MainBloc.exists_animateIndicator_of_mem_targets requested
      exact (admitted _ calling).2 bound rfl
  obtain ⟨⟨low, lowMember, below⟩, ⟨high, highMember, above⟩⟩ :=
    inRange.published value published
  exact ⟨Int.le_trans (tabs low lowMember).1 below,
    Int.lt_of_le_of_lt above (tabs high highMember).2⟩

end MainPage

namespace IndicatorBar

/-! ## Neighbouring spacers -/

variable {motion : Motion} {tabWidth : ℚ} {shown : Int} {bar : IndicatorBar}

/-- The indicator lies between the spacers: the left one of every tab and the right one
of the next tab share one width, and nothing is spared outside the tabs. -/
structure Adjoined (tabWidth : ℚ) (bar : IndicatorBar) : Prop where
  neighbours : ∀ tab, Animated.Complementary tabWidth (bar.row tab).left (bar.row (tab + 1)).right
  first : (bar.row 0).right.RestsAt 0
  last : (bar.row (navigationData.length - 1)).left.RestsAt 0

theorem leftWidth_add_rightWidth (tabWidth : ℚ) (shown : Int) (tab : Nat) :
    leftWidth tabWidth shown tab + rightWidth tabWidth shown (tab + 1 : Nat) = tabWidth := by
  unfold leftWidth rightWidth
  by_cases beyond : shown - tab > 0
  · have reached : ¬ shown - (tab + 1 : Nat) < 0 := by omega
    rw [if_pos beyond, if_neg reached, add_zero]
  · have ahead : shown - (tab + 1 : Nat) < 0 := by omega
    rw [if_neg beyond, if_pos ahead, zero_add]

theorem rightWidth_zero (tabWidth : ℚ) (isTab : 0 ≤ shown) :
    rightWidth tabWidth shown (0 : Nat) = 0 :=
  if_neg (by simpa using isTab)

theorem leftWidth_last (tabWidth : ℚ) (isTab : shown < navigationData.length) :
    leftWidth tabWidth shown (navigationData.length - 1 : Nat) = 0 := by
  have length : navigationData.length = 6 := rfl
  exact if_neg (by omega)

theorem adjoined_build (tabWidth : ℚ) (isTab : 0 ≤ shown ∧ shown < navigationData.length) :
    Adjoined tabWidth (build tabWidth shown) where
  neighbours := fun tab =>
    ⟨leftWidth_add_rightWidth tabWidth shown tab, leftWidth_add_rightWidth tabWidth shown tab,
      rfl, rfl⟩
  first := by
    simp only [build, rightWidth_zero tabWidth isTab.1]
    exact Animated.restsAt_settled 0
  last := by
    simp only [build, leftWidth_last tabWidth isTab.2]
    exact Animated.restsAt_settled 0

theorem Adjoined.rebuild (adjoined : Adjoined tabWidth bar) (motion : Motion)
    (isTab : 0 ≤ shown ∧ shown < navigationData.length) (delay : Nat) :
    Adjoined tabWidth (bar.rebuild motion tabWidth shown delay) where
  neighbours := fun tab => (adjoined.neighbours tab).retarget motion
    (leftWidth_add_rightWidth tabWidth shown tab) delay
  first := by
    simp only [IndicatorBar.rebuild, rightWidth_zero tabWidth isTab.1,
      adjoined.first.retarget_self]
    exact adjoined.first
  last := by
    simp only [IndicatorBar.rebuild, leftWidth_last tabWidth isTab.2,
      adjoined.last.retarget_self]
    exact adjoined.last

theorem Adjoined.elapse (adjoined : Adjoined tabWidth bar) (milliseconds : Nat) :
    Adjoined tabWidth (bar.elapse milliseconds) where
  neighbours := fun tab => (adjoined.neighbours tab).elapse milliseconds
  first := adjoined.first.elapse milliseconds
  last := adjoined.last.elapse milliseconds

/-- What the rows up to a tab leave is what the right spacer of the tab takes. -/
theorem Adjoined.sum_rest (adjoined : Adjoined tabWidth bar) (laws : motion.Laws) (tab : Nat) :
    ((List.range tab).map fun tab => (bar.row tab).rest motion tabWidth).sum =
      (bar.row tab).right.value motion := by
  induction tab with
  | zero => simpa using (adjoined.first.value_eq laws).symm
  | succ tab ih =>
      have shared := (adjoined.neighbours tab).value_add motion
      rw [List.range_succ, List.map_append, List.sum_append, ih]
      simp only [List.map_cons, List.map_nil, List.sum_cons, List.sum_nil, IndicatorRow.rest]
      linarith

theorem Adjoined.sum_rows (adjoined : Adjoined tabWidth bar) (laws : motion.Laws) :
    (bar.rows.map fun row => row.rest motion tabWidth).sum = tabWidth := by
  have all := adjoined.sum_rest laws navigationData.length
  have shared := (adjoined.neighbours (navigationData.length - 1)).value_add motion
  rw [adjoined.last.value_eq laws, zero_add] at shared
  rw [rows, List.map_map]
  exact all.trans shared

theorem sum_le_sum_max_zero (widths : List ℚ) :
    widths.sum ≤ (widths.map (max 0)).sum ∧
      ((widths.map (max 0)).sum = widths.sum ↔ ∀ width ∈ widths, 0 ≤ width) := by
  induction widths with
  | nil => simp
  | cons width widths ih =>
      obtain ⟨le, same_iff⟩ := ih
      have larger : width ≤ max 0 width := le_max_right 0 width
      simp only [List.map_cons, List.sum_cons, List.forall_mem_cons]
      refine ⟨add_le_add larger le, ?_⟩
      constructor
      · intro same
        have first : max 0 width = width := by linarith
        have others : (widths.map (max 0)).sum = widths.sum := by linarith
        exact ⟨max_eq_right_iff.mp first, same_iff.mp others⟩
      · rintro ⟨nonneg, others⟩
        rw [max_eq_right nonneg, same_iff.mpr others]

theorem Adjoined.coloured_sum (adjoined : Adjoined tabWidth bar) (laws : motion.Laws) :
    tabWidth ≤ (bar.rows.map fun row => row.coloured motion tabWidth).sum ∧
    ((bar.rows.map fun row => row.coloured motion tabWidth).sum = tabWidth ↔
      ∀ row ∈ bar.rows, ¬ row.Overflows motion tabWidth) := by
  have widths := sum_le_sum_max_zero (bar.rows.map fun row => row.rest motion tabWidth)
  have coloured : (bar.rows.map fun row => row.coloured motion tabWidth) =
      (bar.rows.map fun row => row.rest motion tabWidth).map (max 0) := by
    rw [List.map_map]
    rfl
  rw [← coloured, adjoined.sum_rows laws] at widths
  exact ⟨widths.1, widths.2.trans (by simp [IndicatorRow.Overflows])⟩

/-! ## Rows at rest -/

theorem rest_width (tabWidth : ℚ) (shown tab : Int) :
    tabWidth - leftWidth tabWidth shown tab - rightWidth tabWidth shown tab =
      if tab = shown then tabWidth else 0 := by
  unfold leftWidth rightWidth
  rcases lt_trichotomy tab shown with below | same | above
  · rw [if_pos (by omega), if_neg (by omega), if_neg (by omega)]
    ring
  · rw [if_neg (by omega), if_neg (by omega), if_pos same]
    ring
  · rw [if_neg (by omega), if_pos (by omega), if_neg (by omega)]
    ring

/-- The spacers are on their way to the widths of the index they were built with. -/
def Aims (tabWidth : ℚ) (bar : IndicatorBar) : Prop :=
  ∀ tab, (bar.row tab).left.target = leftWidth tabWidth bar.shown tab ∧
    (bar.row tab).right.target = rightWidth tabWidth bar.shown tab

theorem aims_build (tabWidth : ℚ) (shown : Int) : (build tabWidth shown).Aims tabWidth :=
  fun _ => ⟨rfl, rfl⟩

theorem aims_rebuild (motion : Motion) (tabWidth : ℚ) (shown : Int) (delay : Nat)
    (bar : IndicatorBar) : (bar.rebuild motion tabWidth shown delay).Aims tabWidth :=
  fun _ => ⟨Animated.target_retarget _ _ _ _, Animated.target_retarget _ _ _ _⟩

theorem Aims.coloured_of_isAtRest (aims : bar.Aims tabWidth) (laws : motion.Laws)
    (nonneg : 0 ≤ tabWidth) (atRest : bar.isAtRest = true) :
    bar.rows.map (fun row => row.coloured motion tabWidth) =
      (List.range navigationData.length).map fun tab : Nat =>
        if (tab : Int) = bar.shown then tabWidth else 0 := by
  rw [rows, List.map_map]
  refine List.map_congr_left fun tab member => ?_
  have ended := List.all_eq_true.mp atRest (bar.row tab) (List.mem_map.mpr ⟨tab, member, rfl⟩)
  simp only [IndicatorRow.hasEnded, Bool.and_eq_true] at ended
  rw [Function.comp_apply, IndicatorRow.coloured, IndicatorRow.rest,
    Animated.value_of_hasEnded laws ended.1, Animated.value_of_hasEnded laws ended.2,
    (aims tab).1, (aims tab).2, rest_width]
  split <;> simp [nonneg]

end IndicatorBar

namespace IndicatorView

open MainBloc (Live)
open MainPage (PageStep)

variable {snapshots : Snapshots} {motion : Motion} {tabWidth : ℚ} {events : List Event}
  {view next : IndicatorView}

/-! ## The bar follows the page -/

def Event.page? : Event → Option MainPage.Event
  | .page event => some event
  | .frame => none

def pageEvents (events : List Event) : List MainPage.Event := events.filterMap Event.page?

theorem page_of_run (ran : (system snapshots motion tabWidth).run
      (initial snapshots motion tabWidth) events = some view) :
    MainPage.system.run .initial (pageEvents events) = some view.page := by
  refine EventSystem.run_induction (motive := fun events view =>
    MainPage.system.run .initial (pageEvents events) = some view.page) rfl ?_ ran
  intro events view event next _ reached stepped
  rw [pageEvents, List.filterMap_append]
  cases event with
  | page event =>
      obtain ⟨page, steppedPage, rfl⟩ := Option.map_eq_some_iff.mp stepped
      exact EventSystem.run_concat_iff.mpr ⟨view.page, reached, steppedPage⟩
  | frame =>
      simp only [system, step, Option.ite_none_right_eq_some, Option.some.injEq] at stepped
      obtain ⟨_, rfl⟩ := stepped
      exact (List.append_nil (events.filterMap Event.page?)).symm ▸ reached

theorem dispose_not_mem_pageEvents (notDisposed : .page .dispose ∉ events) :
    .dispose ∉ pageEvents events := by
  intro member
  obtain ⟨event, member, isDispose⟩ := List.mem_filterMap.mp member
  cases event with
  | page event =>
      cases isDispose
      exact notDisposed member
  | frame => cases isDispose

theorem buildBar_some (motion : Motion) (tabWidth : ℚ) (bloc : MainBloc) (shown : Int)
    (bar : Option IndicatorBar) :
    ∃ built, buildBar motion tabWidth bloc (some shown) bar = some built ∧
      built.shown = shown := by
  cases bar <;> exact ⟨_, rfl, rfl⟩

/-- The invariant of the bar beside a mounted page. -/
structure Follows (tabWidth : ℚ) (view : IndicatorView) : Prop where
  live : Live view.page.bloc.store
  adjoined : ∀ bar, view.bar = some bar → bar.Adjoined tabWidth
  aims : ∀ bar, view.bar = some bar → bar.Aims tabWidth

theorem follows_initial (laws : snapshots.Laws) :
    Follows tabWidth (initial snapshots motion tabWidth) := by
  have isTab : (0 : Int) ≤ 0 ∧ (0 : Int) < navigationData.length := by decide
  rcases laws.first MainPage.initial.bloc.store.index with without | present
  · refine ⟨MainBloc.live_initial, ?_, ?_⟩ <;>
      simp [initial, without, buildBar]
  · have seeded : MainPage.initial.bloc.store.index.value? = some 0 := rfl
    refine ⟨MainBloc.live_initial, ?_, ?_⟩ <;>
      simp only [initial, present, seeded, buildBar, Option.some.injEq] <;>
      rintro bar rfl
    · exact IndicatorBar.adjoined_build tabWidth isTab
    · exact IndicatorBar.aims_build tabWidth 0

theorem Follows.frame (laws : snapshots.Laws) (follows : Follows tabWidth view)
    (isTab : ∀ value ∈ view.page.bloc.store.index.events,
      0 ≤ value ∧ value < navigationData.length) :
    Follows tabWidth (view.frame snapshots motion tabWidth) := by
  obtain ⟨shown, present⟩ := follows.live.index_present
  have published := isTab shown (List.mem_of_getLast? present)
  refine ⟨follows.live, ?_, ?_⟩ <;>
    simp only [IndicatorView.frame, laws.later, present]
  · cases drawn : view.bar with
    | none =>
        rintro bar ⟨⟩
        exact IndicatorBar.adjoined_build tabWidth published
    | some earlier =>
        rintro bar ⟨⟩
        exact ((follows.adjoined earlier drawn).elapse _).rebuild motion published _
  · cases drawn : view.bar with
    | none =>
        rintro bar ⟨⟩
        exact IndicatorBar.aims_build tabWidth shown
    | some earlier =>
        rintro bar ⟨⟩
        exact IndicatorBar.aims_rebuild motion tabWidth shown _ _

theorem follows_of_run (laws : snapshots.Laws) (ran : (system snapshots motion tabWidth).run
      (initial snapshots motion tabWidth) events = some view)
    (notDisposed : .page .dispose ∉ events) : Follows tabWidth view := by
  revert notDisposed
  refine EventSystem.run_induction (motive := fun events view =>
    .page .dispose ∉ events → Follows tabWidth view) (fun _ => follows_initial laws) ?_ ran
  intro events view event next reached ih stepped notDisposed
  simp only [List.mem_append, List.mem_singleton, not_or] at notDisposed
  have follows := ih notDisposed.1
  cases event with
  | page event =>
      obtain ⟨page, steppedPage, rfl⟩ := Option.map_eq_some_iff.mp stepped
      have notDisposing : event ≠ .dispose := fun same => notDisposed.2 (same ▸ rfl)
      have pageStep := MainPage.pageStep_of_step follows.live notDisposing steppedPage
      obtain ⟨_, _, _, live⟩ := pageStep.simulated follows.live
      exact ⟨live, follows.adjoined, follows.aims⟩
  | frame =>
      simp only [system, step, Option.ite_none_right_eq_some, Option.some.injEq] at stepped
      obtain ⟨_, rfl⟩ := stepped
      exact follows.frame laws fun _ => MainPage.index_isTab_of_run (page_of_run reached)
        (dispose_not_mem_pageEvents notDisposed.1)

/-- From the second frame on there are spacers, built with the index of the last frame. -/
theorem exists_bar_of_run (laws : snapshots.Laws) (ran : (system snapshots motion tabWidth).run
      (initial snapshots motion tabWidth) events = some view)
    (notDisposed : .page .dispose ∉ events) (framed : .frame ∈ events) :
    ∃ bar, view.bar = some bar ∧
      ∀ front, events = front ++ [.frame] →
        view.page.bloc.store.index.value? = some bar.shown := by
  revert notDisposed framed
  refine EventSystem.run_induction (motive := fun events view => .page .dispose ∉ events →
    .frame ∈ events → ∃ bar, view.bar = some bar ∧ ∀ front, events = front ++ [.frame] →
      view.page.bloc.store.index.value? = some bar.shown) (fun _ => nofun) ?_ ran
  intro events view event next reached ih stepped notDisposed framed
  simp only [List.mem_append, List.mem_singleton, not_or] at notDisposed framed
  cases event with
  | page event =>
      obtain ⟨page, steppedPage, rfl⟩ := Option.map_eq_some_iff.mp stepped
      have earlier : .frame ∈ events := framed.resolve_right nofun
      obtain ⟨bar, drawn, _⟩ := ih notDisposed.1 earlier
      refine ⟨bar, drawn, fun front same => ?_⟩
      cases (List.append_inj' same rfl).2
  | frame =>
      simp only [system, step, Option.ite_none_right_eq_some, Option.some.injEq] at stepped
      obtain ⟨_, rfl⟩ := stepped
      obtain ⟨shown, present⟩ := (follows_of_run laws reached notDisposed.1).live.index_present
      obtain ⟨bar, drawn, same⟩ := buildBar_some motion tabWidth
        view.page.bloc.store shown (view.bar.map (·.elapse view.sinceFrame))
      refine ⟨bar, ?_, fun _ _ => present.trans (congrArg some same.symm)⟩
      simp only [IndicatorView.frame, laws.later, present, drawn]

/-- In every frame the coloured parts are one tab wide together at least, however page
transitions overlap, and from the second frame on exactly as long as no row overflows.
When all rows have come to rest it is the row of the index of that frame that is
coloured. -/
theorem coloured_width (snapshotLaws : snapshots.Laws) (motionLaws : motion.Laws)
    (nonneg : 0 ≤ tabWidth)
    (ran : (system snapshots motion tabWidth).run (initial snapshots motion tabWidth) events =
      some view)
    (notDisposed : .page .dispose ∉ events) :
    tabWidth ≤ (view.coloured motion tabWidth).sum ∧
    (.frame ∈ events →
      ((view.coloured motion tabWidth).sum = tabWidth ↔ ¬ view.Overflows motion tabWidth) ∧
      ∃ bar, view.bar = some bar ∧
        (∀ front, events = front ++ [.frame] →
          view.page.bloc.store.index.value? = some bar.shown) ∧
        (bar.isAtRest = true → view.coloured motion tabWidth =
          (List.range navigationData.length).map fun tab : Nat =>
            if (tab : Int) = bar.shown then tabWidth else 0)) := by
  have follows := follows_of_run snapshotLaws ran notDisposed
  constructor
  · cases drawn : view.bar with
    | none =>
        have length : navigationData.length = 6 := rfl
        simp only [coloured, drawn, List.sum_replicate, length, nsmul_eq_mul]
        push_cast
        linarith
    | some bar =>
        simp only [coloured, drawn]
        exact ((follows.adjoined bar drawn).coloured_sum motionLaws).1
  · intro framed
    obtain ⟨bar, drawn, shown⟩ := exists_bar_of_run snapshotLaws ran notDisposed framed
    have exactly := ((follows.adjoined bar drawn).coloured_sum motionLaws).2
    refine ⟨?_, bar, drawn, shown, fun atRest => ?_⟩
    · simp only [coloured, Overflows, drawn, exactly, Option.some.injEq, exists_eq_left', not_exists,
        not_and]
    · simp only [coloured, drawn]
      exact (follows.aims bar drawn).coloured_of_isAtRest motionLaws nonneg atRest

/-- A page transition while the indicator is still under way, faster than the one before. -/
def hurriedTaps : List Event :=
  [.frame, .page (.pageTransition 1 false none), .frame, .page (.elapse 10), .frame,
    .page (.pageTransition 5 false none), .frame, .page (.elapse 20), .frame]

theorem coloured_width_hurried : ∃ view,
    (system .delivered .linear 60).run (initial .delivered .linear 60) hurriedTaps = some view ∧
      60 ≤ (view.coloured .linear 60).sum ∧
      ((view.coloured .linear 60).sum = 60 ↔ ¬ view.Overflows .linear 60) := by
  obtain ⟨view, ran⟩ : ∃ view, (system .delivered .linear 60).run
      (initial .delivered .linear 60) hurriedTaps = some view := ⟨_, rfl⟩
  have widths := coloured_width Snapshots.delivered_laws Motion.linear_laws (by decide) ran
    (by decide)
  exact ⟨view, ran, widths.1, (widths.2 (by decide)).1⟩

end IndicatorView

end FacebookApp
