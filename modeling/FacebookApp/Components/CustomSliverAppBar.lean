import Mathlib.Data.List.TakeDrop

/-!
# App bar

The row of the app bar: a title, a flexible gap, and then buttons and gaps in turn. It
is generated from its length, which counts one gap for every two buttons only, so of
three or more buttons the last are left out.
-/

set_option autoImplicit false

namespace FacebookApp

/-- A widget of the row. -/
inductive AppBarWidget (Button : Type) where
  | text (title : String)
  | flexible
  | button (button : Button)
  | sizedBox
  deriving DecidableEq, Repr

namespace CustomSliverAppBar

variable {Button : Type}

/-- `List.generate`, whose generator may throw. -/
def generate {Widget : Type} (generator : Nat → Option Widget) : Nat → Option (List Widget)
  | 0 => some []
  | length + 1 => do
      let widgets ← generate generator length
      return widgets ++ [← generator length]

/-- The generator of `widgetList`. `elementAt` throws beyond the list. -/
def widgetAt (title : String) (buttonList : List Button) (index : Nat) :
    Option (AppBarWidget Button) :=
  if index = 0 then some (.text title)
  else if index = 1 then some .flexible
  else if index % 2 = 0 then buttonList[(index - 1) / 2]?.map .button
  else some .sizedBox

def widgetCount (buttons : Nat) : Nat :=
  (if buttons % 2 = 1 then (buttons - 1) / 2 else buttons / 2) + buttons + 2

def widgetList (title : String) (buttonList : List Button) :
    Option (List (AppBarWidget Button)) :=
  generate (widgetAt title buttonList) (widgetCount buttonList.length)

def button? : AppBarWidget Button → Option Button
  | .button button => some button
  | .text _ | .flexible | .sizedBox => none

def shownButtons (widgets : List (AppBarWidget Button)) : List Button :=
  widgets.filterMap button?

theorem widgetCount_eq (buttons : Nat) : widgetCount buttons = buttons / 2 + buttons + 2 := by
  unfold widgetCount
  split <;> omega

/-- The first widgets hold the first buttons, every other one from the third on. -/
theorem shownButtons_generate (title : String) (buttonList : List Button) {length : Nat}
    (inRow : length ≤ widgetCount buttonList.length) :
    ∃ widgets, generate (widgetAt title buttonList) length = some widgets ∧
      shownButtons widgets = buttonList.take ((length - 1) / 2) := by
  induction length with
  | zero => exact ⟨[], rfl, by simp [shownButtons]⟩
  | succ index ih =>
      obtain ⟨widgets, generated, shown⟩ := ih (Nat.le_of_succ_le inRow)
      have extended (widget : AppBarWidget Button)
          (isNext : widgetAt title buttonList index = some widget) :
          generate (widgetAt title buttonList) (index + 1) = some (widgets ++ [widget]) := by
        simp [generate, generated, isNext]
      by_cases isButton : index ≠ 0 ∧ index % 2 = 0
      · obtain ⟨notTitle, even⟩ := isButton
        have notFlexible : index ≠ 1 := by omega
        have inList : (index - 1) / 2 < buttonList.length := by
          rw [widgetCount_eq] at inRow
          omega
        refine ⟨_, extended (.button buttonList[(index - 1) / 2]) (by
          simp [widgetAt, notTitle, notFlexible, even, inList]), ?_⟩
        have next : (index + 1 - 1) / 2 = (index - 1) / 2 + 1 := by omega
        rw [shownButtons, List.filterMap_append, next, List.take_add_one,
          List.getElem?_eq_getElem inList, ← shown]
        rfl
      · have same : (index + 1 - 1) / 2 = (index - 1) / 2 := by omega
        obtain ⟨widget, isNext, noButton⟩ : ∃ widget,
            widgetAt title buttonList index = some widget ∧ button? widget = none := by
          unfold widgetAt
          split
          · exact ⟨_, rfl, rfl⟩
          · split
            · exact ⟨_, rfl, rfl⟩
            · rename_i notTitle _
              have odd : index % 2 ≠ 0 := fun even => isButton ⟨notTitle, even⟩
              exact ⟨.sizedBox, if_neg odd, rfl⟩
        refine ⟨_, extended widget isNext, ?_⟩
        rw [shownButtons, List.filterMap_append, same, ← shown]
        simp [noButton, shownButtons]

/-- Building the row never fails, and it shows every button exactly if there are at most
two of them. -/
theorem shows_every_button_iff (title : String) (buttonList : List Button) :
    ∃ widgets, widgetList title buttonList = some widgets ∧
      shownButtons widgets <+: buttonList ∧
      (shownButtons widgets = buttonList ↔ buttonList.length ≤ 2) := by
  obtain ⟨widgets, generated, shown⟩ :=
    shownButtons_generate title buttonList (Nat.le_refl (widgetCount buttonList.length))
  refine ⟨widgets, generated, shown ▸ List.take_prefix _ _, ?_⟩
  rw [shown, List.take_eq_self_iff, widgetCount_eq]
  omega

-- Of three buttons the third is left out.
example : (widgetList "메뉴" ["settings", "search", "close"]).map shownButtons =
    some ["settings", "search"] := by
  decide +kernel

end CustomSliverAppBar

end FacebookApp
