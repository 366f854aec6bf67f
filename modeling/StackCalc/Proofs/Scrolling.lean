import Mathlib.Data.Nat.Dist
import StackCalc.Proofs.LineView

/-!
# How far the window scrolls

Scrolling a window of `width` columns over a line of `len` characters first puts the window
back within the line with its width kept, which gives the re-anchored left edge
`reanchoredLeft`; then it moves the window just far enough to show the cursor. The left edges
of the windows of that width that lie within the line and show the cursor form an interval,
and the new left edge is the re-anchored one clamped into it (`leastMove`). So it is the edge
of that interval nearest to the re-anchored one, and scrolling again to the same cursor
leaves the window where it is.

Main statement (`scroll?_moves_least`): in machine words, when the left edge plus the width
and the line's length plus one fit in a word, scrolling neither overflows nor goes below
zero, it ends at `leastMove`, whose left edge is the nearest that shows the cursor, and a
second scroll with the same arguments changes nothing. For the window of a line buffer those
two sums always fit, as long as its lines are held in memory (`HeldReachable.scroll?_eq_ok`).
-/

namespace StackCalc.Edit

namespace Viewport

/-- The left edge of the window put back within the line with its width kept. -/
def reanchoredLeft (v : Viewport) (len width : Nat) : Nat :=
  min (v.left + width) len - width

/-- A left edge `x` clamped between the least and the greatest left edge of a window of
`width` columns within a line of `len` characters that shows the cursor `c`: the cursor
plus one less the width, and the cursor or the last edge of the line. -/
def clampLeft (c len width x : Nat) : Nat :=
  min (len - width) (min c (max x (c + 1 - width)))

/-- The window that shows the cursor after the least move: the whole line when it fits, an
empty window at the cursor in no columns, and otherwise `width` columns from the re-anchored
left edge clamped. -/
def leastMove (v : Viewport) (cursor len width : Nat) : Viewport :=
  let c := min cursor len
  if len ≤ width then ⟨0, len⟩
  else if width = 0 then ⟨c, c⟩
  else
    let l := clampLeft c len width (v.reanchoredLeft len width)
    ⟨l, l + width⟩

/-- The window of `width` columns from the left edge `l` lies within the line and shows the
cursor, and no other such window has its left edge nearer to `l₀`. -/
def NearestShowing (l l₀ cursor len width : Nat) : Prop :=
  l + width ≤ len ∧ (⟨l, l + width⟩ : Viewport).contains cursor len ∧
    ∀ l', l' + width ≤ len → (⟨l', l' + width⟩ : Viewport).contains cursor len →
      Nat.dist l l₀ ≤ Nat.dist l' l₀

variable {v : Viewport} {cursor len width : Nat}

/-- The clamped edge leaves room for the window within the line. -/
theorem clampLeft_add_le (c len width x : Nat) (h : width ≤ len) :
    clampLeft c len width x + width ≤ len := by
  unfold clampLeft
  omega

/-- A cursor before the window's re-anchored left edge is clamped to itself. -/
theorem clampLeft_of_lt {c len width x : Nat} (hx : x + width ≤ len) (hc : c < x) :
    clampLeft c len width x = c := by
  unfold clampLeft
  omega

/-- A cursor at or past the window's right edge puts the left edge `width` columns before the
column after it, or before the end of the line. -/
theorem clampLeft_of_ge {c len width x : Nat} (hw : 0 < width) (hc : c ≤ len)
    (hx : x + width ≤ c) : clampLeft c len width x = min (c + 1) len - width := by
  unfold clampLeft
  omega

/-- A cursor inside the window leaves its left edge. -/
theorem clampLeft_of_mem {c len width x : Nat} (hx : x + width ≤ len) (hlo : x ≤ c)
    (hhi : c < x + width) : clampLeft c len width x = x := by
  unfold clampLeft
  omega

/-- Scrolling moves the window as `leastMove` says: each branch of the scroll (moving left to a
cursor before the window, right to one past it, or staying) is one side of the clamp. -/
theorem scrollIntoView_eq_leastMove (v : Viewport) (cursor len width : Nat) :
    v.scrollIntoView cursor len width = v.leastMove cursor len width := by
  unfold scrollIntoView leastMove reanchoredLeft
  by_cases hfit : len ≤ width
  · rw [if_pos hfit, if_pos hfit]
  rw [if_neg hfit, if_neg hfit]
  by_cases hzero : width = 0
  · rw [if_pos hzero, if_pos hzero]
  rw [if_neg hzero, if_neg hzero]
  dsimp only
  -- name the clamped cursor and the re-anchored right edge, with the bounds the branches use
  have hc : min cursor len ≤ len := Nat.min_le_right _ _
  have hr : width ≤ min (v.left + width) len ∧ min (v.left + width) len ≤ len := by omega
  generalize min cursor len = c at hc ⊢
  generalize min (v.left + width) len = r at hr ⊢
  have hedge : r - width + width = r := Nat.sub_add_cancel hr.1
  split
  · next hbefore =>
      -- the cursor is before the window: its own column becomes the left edge
      rw [clampLeft_of_lt (by omega) hbefore]
  · split
    · next _ hpast =>
        -- the cursor is at or past the right edge: it becomes the last shown column
        rw [clampLeft_of_ge (by omega) hc (by omega)]
        congr 1
        omega
    · next hafter hinside =>
        -- the cursor is inside: the window stays
        rw [clampLeft_of_mem (by omega) (by omega) (by omega), hedge]

/-- In machine words the scroll overflows nowhere when the left edge plus the width and the
line's length plus one fit in a word: the re-anchored right edge is at least the width, and
so is the cursor plus one when the window moves right. -/
theorem scroll?_of_fits (hleft : v.left + width < wordBound) (hlen : len + 1 < wordBound) :
    v.scroll? cursor len width = .ok (v.scrollIntoView cursor len width) := by
  unfold scroll? scrollIntoView
  by_cases hfit : len ≤ width
  · simp only [hfit, if_true]
    rfl
  simp only [hfit, if_false]
  by_cases hzero : width = 0
  · simp only [hzero, if_true]
    rfl
  simp only [hzero, if_false]
  have hright : width ≤ min (v.left + width) len := by omega
  rw [addWithin_eq_ok.mpr ⟨hleft, rfl⟩, ok_bind, subWithin_eq_ok.mpr ⟨hright, rfl⟩, ok_bind]
  split
  · have hsum : min cursor len + width < wordBound := by omega
    rw [addWithin_eq_ok.mpr ⟨hsum, rfl⟩, ok_bind]
    rfl
  · split
    · next _ hpast =>
      have hsum : min cursor len + 1 < wordBound := by omega
      have hmove : width ≤ min (min cursor len + 1) len := by omega
      rw [addWithin_eq_ok.mpr ⟨hsum, rfl⟩, ok_bind, subWithin_eq_ok.mpr ⟨hmove, rfl⟩, ok_bind]
      rfl
    · rfl

/-- A window of some width shows the cursor exactly when the cursor is one of its columns, or
stands on its right edge at the end of the line. -/
theorem contains_window_iff {l : Nat} (hw : 0 < width) :
    (⟨l, l + width⟩ : Viewport).contains cursor len ↔
      l ≤ cursor ∧ (cursor < l + width ∨ cursor = len ∧ cursor = l + width) := by
  rw [contains_iff]
  dsimp only
  constructor
  · rintro ⟨hl, hr, hin⟩
    omega
  · rintro ⟨hl, hr⟩
    omega

/-- Clamped into an interval, a number is nearer to where it was than any number of the
interval. -/
theorem dist_clamp_le {lo hi x y : Nat} (hlo : lo ≤ y) (hhi : y ≤ hi) :
    Nat.dist (min hi (max x lo)) x ≤ Nat.dist y x := by
  unfold Nat.dist
  omega

/-- Clamped into the left edges of the windows that show the cursor, an edge becomes the
nearest of them. -/
theorem clampLeft_nearest {c len width : Nat} (hc : c ≤ len) (hw : 0 < width)
    (hlen : width < len) (x : Nat) :
    NearestShowing (clampLeft c len width x) x c len width := by
  have hwithin := clampLeft_add_le c len width x (Nat.le_of_lt hlen)
  refine ⟨hwithin, (contains_window_iff hw).mpr (by unfold clampLeft; omega), ?_⟩
  intro l' hl' hshow
  have hbounds := (contains_window_iff hw).mp hshow
  by_cases hend : c = len
  · -- the end of the line is shown by the last window only
    have hlast : l' = len - width := by omega
    have hclamp : clampLeft c len width x = len - width := by
      unfold clampLeft
      omega
    rw [hlast, hclamp]
  · -- otherwise the edges that show the cursor are those from the cursor plus one less the
    -- width to the cursor or the last edge, and the clamp is into that interval
    have hclamp : clampLeft c len width x = min (min (len - width) c) (max x (c + 1 - width)) := by
      unfold clampLeft
      rw [Nat.min_assoc]
    rw [hclamp]
    exact dist_clamp_le (by omega) (by omega)

/-- After the least move the window's left edge is, among the windows within the line that
show the cursor, the nearest to the re-anchored one. -/
theorem leastMove_nearest (hw : 0 < width) (hlen : width < len) :
    NearestShowing (v.leastMove cursor len width).left (v.reanchoredLeft len width)
      (min cursor len) len width := by
  unfold leastMove
  rw [if_neg (by omega), if_neg (by omega)]
  exact clampLeft_nearest (Nat.min_le_right _ _) hw hlen _

/-- An edge clamped once is clamped already. -/
theorem clampLeft_clampLeft (c len width x : Nat) (hw : 0 < width) :
    clampLeft c len width (clampLeft c len width x) = clampLeft c len width x := by
  unfold clampLeft
  omega

/-- Scrolling again to the same cursor leaves the window after the least move where it is: the
moved window lies within the line, so re-anchoring keeps it, and its edge is clamped already. -/
theorem leastMove_leastMove (v : Viewport) (cursor len width : Nat) :
    (v.leastMove cursor len width).leastMove cursor len width = v.leastMove cursor len width := by
  unfold leastMove reanchoredLeft
  by_cases hfit : len ≤ width
  · simp only [hfit, if_true]
  by_cases hzero : width = 0
  · simp only [hzero, if_true]
  simp only [hfit, hzero, if_false]
  have hwithin := clampLeft_add_le (min cursor len) len width
    (min (v.left + width) len - width) (by omega)
  rw [Nat.min_eq_left hwithin, Nat.add_sub_cancel, clampLeft_clampLeft _ _ _ _ (by omega)]

/-- Scrolling in machine words, with the left edge plus the width and the line's length plus
one within a word, makes the least move: it neither overflows nor goes below zero, it ends at
`leastMove`, whose left edge is, among the windows within the line that show the cursor, the
nearest to the re-anchored one, and a second scroll with the same arguments changes nothing. -/
theorem scroll?_moves_least (v : Viewport) (cursor len width : Nat)
    (hleft : v.left + width < wordBound) (hlen : len + 1 < wordBound) :
    v.scroll? cursor len width = .ok (v.leastMove cursor len width) ∧
      (0 < width → width < len →
        NearestShowing (v.leastMove cursor len width).left (v.reanchoredLeft len width)
          (min cursor len) len width) ∧
      (v.leastMove cursor len width).scroll? cursor len width =
        .ok (v.leastMove cursor len width) := by
  have hfirst := @scroll?_of_fits v cursor len width hleft hlen
  rw [scrollIntoView_eq_leastMove] at hfirst
  -- the moved window ends within the line, so the second scroll fits in a word as well
  have hmoved : (v.leastMove cursor len width).left + width < wordBound := by
    unfold leastMove
    split
    · dsimp only
      omega
    · split
      · dsimp only
        omega
      · have hwithin := clampLeft_add_le (min cursor len) len width
          (v.reanchoredLeft len width) (by omega)
        dsimp only
        omega
  have hsecond := @scroll?_of_fits _ cursor len width hmoved hlen
  rw [scrollIntoView_eq_leastMove, leastMove_leastMove] at hsecond
  exact ⟨hfirst, fun hw hw' => leastMove_nearest hw hw', hsecond⟩

/-- Scrolling left to a cursor before the window, as the window of columns 8 to 13 over a line
of 20 does for the cursor at 6 in 5 columns. -/
theorem scroll?_moves_least_left :
    ((⟨8, 13⟩ : Viewport).left + 5 < wordBound ∧ 20 + 1 < wordBound) ∧
      (⟨8, 13⟩ : Viewport).scroll? 6 20 5 = .ok ⟨6, 11⟩ ∧
      (⟨6, 11⟩ : Viewport).scroll? 6 20 5 = .ok ⟨6, 11⟩ := by
  have hleft : (⟨8, 13⟩ : Viewport).left + 5 < wordBound := by decide
  have hlen : 20 + 1 < wordBound := by decide
  have hmove : (⟨8, 13⟩ : Viewport).leastMove 6 20 5 = ⟨6, 11⟩ := by decide
  have h := scroll?_moves_least ⟨8, 13⟩ 6 20 5 hleft hlen
  rw [hmove] at h
  exact ⟨⟨hleft, hlen⟩, h.1, h.2.2⟩

/-- A line that fits in the width is shown whole in machine words too: nothing is added or
taken away before. -/
theorem scroll?_of_le (hfit : len ≤ width) :
    v.scroll? cursor len width = .ok (v.scrollIntoView cursor len width) := by
  unfold scroll? scrollIntoView
  simp only [hfit, if_true]
  rfl

end Viewport

/-! ## Scrolling a line buffer in machine words

A program holds a line in fewer than `2 ^ 63` bytes, and a character takes at least one, so
every line on the way of a run is shorter than `lineBound`. The window of a buffer reached so
then starts before `lineBound`, as scrolling puts its left edge at most at the cursor, and so
scrolling the buffer in any width neither overflows nor goes below zero in machine words
(`HeldReachable.scroll?_eq_ok`). -/

/-- The lines a program holds have fewer characters than this. -/
def lineBound : Nat := Nat.pow 2 63

theorem lineBound_pos : 0 < lineBound := by decide

namespace LineBuffer

/-- The buffers requests reach from the empty buffer whose history keeps `n` lines, when every
line on the way is shorter than `lineBound`, as the lines a program holds are. -/
inductive HeldReachable (n : Nat) : LineBuffer → Prop
  | empty : HeldReachable n (LineBuffer.empty n)
  | step {b b' : LineBuffer} {op : LineOp} : HeldReachable n b → b.serve? op = some b' →
      b'.size < lineBound → HeldReachable n b'

variable {n : Nat} {b : LineBuffer}

theorem HeldReachable.reachable (h : b.HeldReachable n) : b.Reachable n := by
  induction h with
  | empty => exact .empty
  | step _ hstep _ ih => exact .step ih hstep

theorem HeldReachable.size_lt (h : b.HeldReachable n) : b.size < lineBound := by
  cases h with
  | empty => exact lineBound_pos
  | step _ _ hsize => exact hsize

/-- The window of a buffer held in memory starts before `lineBound`. -/
theorem HeldReachable.left_lt (h : b.HeldReachable n) : b.viewport.left < lineBound := by
  induction h with
  | empty => exact lineBound_pos
  | @step b b' op hb hstep _ ih =>
    rw [(serve?_frame hstep).2]
    cases op with
    | commit => exact lineBound_pos
    | recomputeViewport w | view w =>
      -- scrolling puts the left edge at most at the cursor, which is within the line
      have hleft := (Viewport.left_le_scrollIntoView b.viewport b.cursor b.size w).2
      have hcursor := hb.reachable.invariant.cursor_le
      have hsize := hb.size_lt
      exact Nat.lt_of_le_of_lt (Nat.le_trans hleft hcursor) hsize
    | insert _ | backspace | deleteForward | deleteToStart | deleteToEnd | clear | moveBy _
      | moveToStart | moveToEnd | historyPrev | historyNext => exact ih

/-- A buffer held in memory scrolls in machine words as it scrolls in numbers, in any width:
the left edge plus the width, the cursor plus the width or one, and the width taken from the
right edge all stay within a word. -/
theorem HeldReachable.scroll?_eq_ok (h : b.HeldReachable n) (width : Nat) :
    b.viewport.scroll? b.cursor b.size width = .ok (b.recomputeViewport width).viewport := by
  by_cases hfit : b.size ≤ width
  · exact Viewport.scroll?_of_le hfit
  · -- the width is below the line's length, and both are below half a word
    have hleft := h.left_lt
    have hsize := h.size_lt
    have hword : wordBound = lineBound + lineBound := by decide
    exact Viewport.scroll?_of_fits (by omega) (by omega)

end LineBuffer

end StackCalc.Edit
