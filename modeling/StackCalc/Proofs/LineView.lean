import StackCalc.Proofs.LineInvariant
import StackCalc.Screen.Frame

/-!
# The visible line and its cursor

Viewing a line in `w` columns scrolls the window `[left, right)` and shows the characters in
it, with the cursor column counted from `left`. On every reachable buffer and in every width
the window lies within the line, is as wide as the width or the line allows, and holds the
cursor; so neither subtraction of `left` goes below zero, the cursor column is at most the
length of the visible text, and it falls on the cursor's character whenever the width is not
zero and the cursor is not at the end of the line. The marker goes in at the cursor column.
On the screen, the first line is the prompt and the visible text with tabs drawn as spaces,
and the terminal cursor stands after the prompt at the cursor column, when the prompt and
the width fit the screen's columns.

Main statement (`view_shows_cursor`). The window's part is `Viewport.ShowsCursor`, proved
once for each way `scrollIntoView` moves the window (`scrollIntoView_showsCursor`); the rest
follows from it and from the cursor standing within the line on every reachable buffer.
-/

namespace StackCalc.Edit

namespace Viewport

/-- Whether the cursor is visible, as bounds: inside the window or on its right edge, and
strictly inside unless it is at the end of the line or the window is empty. -/
theorem contains_iff {v : Viewport} {cursor len : Nat} :
    v.contains cursor len ↔ v.left ≤ cursor ∧ cursor ≤ v.right ∧
      (cursor ≠ len → v.left ≠ v.right → cursor < v.right) := by
  unfold contains
  split <;> simp only [Bool.and_eq_true, decide_eq_true_eq] <;> omega

/-- A window of a line of `len` characters shows the cursor in `width` columns: it lies within
the line, is as wide as the width or the line allows, and holds the cursor. -/
structure ShowsCursor (v : Viewport) (cursor len width : Nat) : Prop where
  left_le_right : v.left ≤ v.right
  right_le : v.right ≤ len
  width_eq : v.right - v.left = min width len
  contains : v.contains cursor len

variable {v : Viewport} {cursor len width : Nat}

theorem ShowsCursor.left_le_cursor (h : v.ShowsCursor cursor len width) : v.left ≤ cursor :=
  (contains_iff.mp h.contains).1

theorem ShowsCursor.cursor_le_right (h : v.ShowsCursor cursor len width) : cursor ≤ v.right :=
  (contains_iff.mp h.contains).2.1

/-- In a window of some width, a cursor before the end of the line stands on a shown
character. -/
theorem ShowsCursor.cursor_lt_right (h : v.ShowsCursor cursor len width) (hw : 0 < width)
    (hc : cursor < len) : cursor < v.right := by
  have hwidth := h.width_eq
  -- the window is not empty, for it is as wide as the width or the line
  have hne : v.left ≠ v.right := by
    intro he
    rw [he, Nat.sub_self] at hwidth
    omega
  exact (contains_iff.mp h.contains).2.2 (Nat.ne_of_lt hc) hne

/-- A window `[l, r)` shows the cursor when its bounds say so. -/
theorem showsCursor_of_bounds {l r : Nat} (hlr : l ≤ r) (hr : r ≤ len)
    (hw : r - l = min width len) (hc : l ≤ cursor ∧ cursor ≤ r ∧ (cursor ≠ len → l ≠ r → cursor < r)) :
    (⟨l, r⟩ : Viewport).ShowsCursor cursor len width :=
  ⟨hlr, hr, hw, contains_iff.mpr hc⟩

/-- Scrolling shows the cursor, whatever window it starts from. -/
theorem scrollIntoView_showsCursor (v : Viewport) (width : Nat) (h : cursor ≤ len) :
    (v.scrollIntoView cursor len width).ShowsCursor cursor len width := by
  unfold scrollIntoView
  rw [Nat.min_eq_left h]
  by_cases hfit : len ≤ width
  · -- the whole line fits
    rw [if_pos hfit]
    exact showsCursor_of_bounds (Nat.zero_le _) (Nat.le_refl _) (by omega) (by omega)
  · rw [if_neg hfit]
    by_cases hzero : width = 0
    · -- an empty window at the cursor
      rw [if_pos hzero]
      exact showsCursor_of_bounds (Nat.le_refl _) h (by omega) (by omega)
    · -- the window, put back within the line, keeps its width; it moves left to a cursor
      -- before it, right to one past it, and stays otherwise
      rw [if_neg hzero]
      dsimp only
      split
      · exact showsCursor_of_bounds (by omega) (by omega) (by omega) (by omega)
      · split
        · exact showsCursor_of_bounds (by omega) (by omega) (by omega) (by omega)
        · exact showsCursor_of_bounds (by omega) (by omega) (by omega) (by omega)

end Viewport

/-- The marker goes in at the cursor column, and at the end of the text from a column past it. -/
theorem ViewLine.marked_eq (v : ViewLine) (m : Char) :
    v.marked m = String.ofList (v.text.toList.take v.cursor ++ m :: v.text.toList.drop v.cursor) := by
  unfold ViewLine.marked
  dsimp only
  split
  · rfl
  · -- the cursor is at the end or past it: everything is before it and nothing after
    next hlt =>
    have hend : v.text.toList.length ≤ v.cursor := Nat.le_of_not_lt hlt
    rw [List.take_of_length_le hend, List.drop_of_length_le hend]

end StackCalc.Edit

namespace StackCalc.Screen

/-- With the prompt and the width within the screen's columns, composing a frame does not
overflow, and the cursor stands after the prompt at the cursor column of the first line. -/
theorem composeFrame?_eq_ok {prompt : String} {input : Edit.ViewLine} {width : Nat}
    (h : prompt.length + width ≤ maxColumn) (hk : input.cursor ≤ width) (output : String)
    (stack : List Float) (help : String) :
    composeFrame? prompt input output stack width help =
      .ok (composeFrame prompt input output stack width help) ∧
      (composeFrame prompt input output stack width help).cursor =
        (prompt.length + input.cursor, 0) := by
  have hbound : maxColumn < wordBound := by decide
  have hwidth : addWithin wordBound prompt.length width = .ok (prompt.length + width) :=
    addWithin_eq_ok.mpr ⟨by omega, rfl⟩
  have hcursor : addWithin wordBound prompt.length input.cursor =
      .ok (prompt.length + input.cursor) :=
    addWithin_eq_ok.mpr ⟨by omega, rfl⟩
  refine ⟨?_, ?_⟩
  · simp only [composeFrame?, hwidth, hcursor, ok_bind]
    rfl
  · simp only [composeFrame, Prod.mk.injEq, and_true]
    exact Nat.min_eq_left (by omega)

end StackCalc.Screen

namespace StackCalc.Edit.LineBuffer

variable {n : Nat} {b : LineBuffer}

/-- On every reachable buffer and in every width `w`, viewing leaves a window `[left, right)`
within the line, `min w len` wide, that holds the cursor, with `left` at most the cursor. The
visible text is the line's characters in the window and the cursor column is the cursor less
`left`, at most the text's length; with `w > 0` and the cursor before the end of the line, the
column falls on the cursor's character. The marker goes in at the column. A frame whose prompt
and width fit the screen's columns is composed without overflow, with the prompt and the
visible text, tabs drawn as spaces, on its first line and the terminal cursor after the
prompt at the column. -/
theorem view_shows_cursor (hb : b.Reachable n) (w : Nat) :
    let left := (b.view w).1.viewport.left
    let right := (b.view w).1.viewport.right
    let v := (b.view w).2
    left ≤ right ∧ right ≤ b.size ∧ right - left = min w b.size ∧
      (b.view w).1.viewport.contains b.cursor b.size ∧ left ≤ b.cursor ∧
      v.text.toList = (b.content.drop left).take (right - left) ∧
      v.cursor = b.cursor - left ∧ v.cursor ≤ v.text.length ∧
      (0 < w → b.cursor < b.size →
        v.cursor < v.text.length ∧ v.text.toList[v.cursor]? = b.content[b.cursor]?) ∧
      (∀ m, v.marked m =
        String.ofList (v.text.toList.take v.cursor ++ m :: v.text.toList.drop v.cursor)) ∧
      (∀ (prompt output : String) (stack : List Float) (help : String),
        prompt.length + w ≤ Screen.maxColumn →
        ∃ f, Screen.composeFrame? prompt v output stack w help = .ok f ∧
          f.cursor = (prompt.length + v.cursor, 0) ∧
          f.lines.head? =
            some (prompt ++ String.ofList (v.text.toList.map fun c => if c = '\t' then ' ' else c))) := by
  intro left right v
  have hs : (b.view w).1.viewport.ShowsCursor b.cursor b.size w :=
    Viewport.scrollIntoView_showsCursor b.viewport w hb.invariant.cursor_le
  have hleft : left ≤ b.cursor := hs.left_le_cursor
  have hright : b.cursor ≤ right := hs.cursor_le_right
  have hwidth : right - left = min w b.size := hs.width_eq
  have hsize : right ≤ b.size := hs.right_le
  have hlen : b.size = b.content.length := rfl
  have htext : v.text.toList = (b.content.drop left).take (right - left) := String.toList_ofList
  have hcursor : v.cursor = b.cursor - left := rfl
  -- the window lies within the line, so all of it is shown
  have hlength : v.text.length = right - left := by
    rw [← String.length_toList, htext, List.length_take, List.length_drop]
    omega
  have hle : v.cursor ≤ v.text.length := by omega
  refine ⟨hs.left_le_right, hsize, hwidth, hs.contains, hleft, htext, hcursor, hle,
    ?_, v.marked_eq, ?_⟩
  · intro hw hc
    have hlt : b.cursor < right := hs.cursor_lt_right hw hc
    refine ⟨by omega, ?_⟩
    rw [htext, List.getElem?_take_of_lt (by omega), List.getElem?_drop, hcursor,
      Nat.add_sub_cancel' hleft]
  · intro prompt output stack help hp
    -- the cursor column is at most the window's width, so at most `w`
    have hk : v.cursor ≤ w := by omega
    obtain ⟨hok, hcol⟩ := Screen.composeFrame?_eq_ok hp hk output stack help
    exact ⟨_, hok, hcol, rfl⟩

/-- The line `1 2 +` typed into a buffer whose history keeps two lines, the cursor moved
back two characters, and a view three columns wide, which a prompt `> ` leaves room for. -/
theorem view_shows_cursor_typed :
    let b := ((LineBuffer.empty 2).run? [.insert "1 2 +", .moveBy (-2)]).getD (LineBuffer.empty 2)
    b.Reachable 2 ∧ "> ".length + 3 ≤ Screen.maxColumn ∧
      let left := (b.view 3).1.viewport.left
      let right := (b.view 3).1.viewport.right
      let v := (b.view 3).2
      left ≤ right ∧ right ≤ b.size ∧ right - left = min 3 b.size ∧
        (b.view 3).1.viewport.contains b.cursor b.size ∧ left ≤ b.cursor ∧
        v.text.toList = (b.content.drop left).take (right - left) ∧
        v.cursor = b.cursor - left ∧ v.cursor ≤ v.text.length ∧
        (0 < 3 → b.cursor < b.size →
          v.cursor < v.text.length ∧ v.text.toList[v.cursor]? = b.content[b.cursor]?) ∧
        (∀ m, v.marked m =
          String.ofList (v.text.toList.take v.cursor ++ m :: v.text.toList.drop v.cursor)) ∧
        (∀ (prompt output : String) (stack : List Float) (help : String),
          prompt.length + 3 ≤ Screen.maxColumn →
          ∃ f, Screen.composeFrame? prompt v output stack 3 help = .ok f ∧
            f.cursor = (prompt.length + v.cursor, 0) ∧
            f.lines.head? =
              some (prompt ++ String.ofList (v.text.toList.map fun c => if c = '\t' then ' ' else c))) := by
  intro b
  have hrun : (LineBuffer.empty 2).run? [.insert "1 2 +", .moveBy (-2)] = some b := rfl
  have hb : b.Reachable 2 := Reachable.of_run? .empty hrun
  exact ⟨hb, by decide, view_shows_cursor hb 3⟩

end StackCalc.Edit.LineBuffer
