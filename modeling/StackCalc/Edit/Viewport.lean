import StackCalc.Word

/-!
# The visible window of a line

A window `[left, right)` shows part of a line of `len` characters. Scrolling it to show the
cursor moves it as little as possible: a line that fits is shown whole; otherwise the
window keeps its width, stays inside the line, and moves just far enough that the cursor
stands in it, at its right edge only when the cursor is at the end of the line.

`scroll?` scrolls as the program does in machine words, where a sum that does not fit or a
difference below zero stops it; `scroll?_eq_ok` says that when it does not stop, it scrolls
as `scrollIntoView`.
-/

namespace StackCalc.Edit

/-- The window `[left, right)` of visible character positions. -/
structure Viewport where
  left : Nat
  right : Nat
  deriving Repr, DecidableEq, Inhabited

namespace Viewport

/-- The window that shows nothing, at the start. -/
def initial : Viewport := ⟨0, 0⟩

/-- The number of visible positions. -/
def width (v : Viewport) : Nat := v.right - v.left

/-- Whether the cursor is visible: inside the window, or on its right edge when the cursor is at
the end of the line or the window is empty. -/
def contains (v : Viewport) (cursor len : Nat) : Bool :=
  if cursor = len ∨ v.left = v.right then v.left ≤ cursor && cursor ≤ v.right
  else v.left ≤ cursor && cursor < v.right

/-- Moves the window to show the cursor on a line of `len` characters in `width` columns. -/
def scrollIntoView (v : Viewport) (cursor len width : Nat) : Viewport :=
  let cursor := min cursor len
  if len ≤ width then ⟨0, len⟩
  else if width = 0 then ⟨cursor, cursor⟩
  else
    let right := min (v.left + width) len
    let left := right - width
    if cursor < left then ⟨cursor, cursor + width⟩
    else if right ≤ cursor then
      let right := min (cursor + 1) len
      ⟨right - width, right⟩
    else ⟨left, right⟩

/-- Scrolls as `scrollIntoView` does, in machine words: the left edge plus the width, the
cursor plus the width when the window moves left, and the cursor plus one when it moves
right are sums that may not fit, and the width taken from the right edge is a difference
that may go below zero. Either fault stops the scrolling. -/
def scroll? (v : Viewport) (cursor len width : Nat) : Except Overflow Viewport := do
  let cursor := min cursor len
  if len ≤ width then return ⟨0, len⟩
  if width = 0 then return ⟨cursor, cursor⟩
  let right := min (← addWithin wordBound v.left width) len
  let left ← subWithin right width
  if cursor < left then return ⟨cursor, ← addWithin wordBound cursor width⟩
  if right ≤ cursor then
    let right := min (← addWithin wordBound cursor 1) len
    return ⟨← subWithin right width, right⟩
  return ⟨left, right⟩

/-- Scrolling in machine words, when nothing overflows, is scrolling. -/
theorem scroll?_eq_ok {v w : Viewport} {cursor len width : Nat}
    (h : v.scroll? cursor len width = .ok w) : w = v.scrollIntoView cursor len width := by
  unfold scroll? at h
  unfold scrollIntoView
  by_cases h1 : len ≤ width
  · simp only [h1, if_true] at h ⊢
    cases h; rfl
  simp only [h1, if_false] at h ⊢
  by_cases h2 : width = 0
  · simp only [h2, if_true] at h ⊢
    cases h; rfl
  simp only [h2, if_false] at h ⊢
  -- each step that has a value has the plain sum or difference
  obtain ⟨r, hr, h⟩ := bind_eq_ok.mp h
  obtain ⟨l, hl, h⟩ := bind_eq_ok.mp h
  obtain ⟨-, rfl⟩ := addWithin_eq_ok.mp hr
  obtain ⟨-, rfl⟩ := subWithin_eq_ok.mp hl
  split at h
  · obtain ⟨s, hs, h⟩ := bind_eq_ok.mp h
    obtain ⟨-, rfl⟩ := addWithin_eq_ok.mp hs
    cases h
    rw [if_pos ‹_›]
  · rw [if_neg ‹_›]
    split at h
    · obtain ⟨t, ht, h⟩ := bind_eq_ok.mp h
      obtain ⟨u, hu, h⟩ := bind_eq_ok.mp h
      obtain ⟨-, rfl⟩ := addWithin_eq_ok.mp ht
      obtain ⟨-, rfl⟩ := subWithin_eq_ok.mp hu
      cases h
      rw [if_pos ‹_›]
    · cases h
      rw [if_neg ‹_›]

end Viewport

end StackCalc.Edit
