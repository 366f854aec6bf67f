import StackCalc.Edit.LineBuffer

/-!
# What every run of a line buffer keeps

A line buffer serves requests: edits of the line, cursor moves, history steps, submission,
and scrolling or viewing in a width. From the empty buffer whose history keeps up to `n`
lines, any sequence of requests is served without stopping the program, and every buffer
reached satisfies `Invariant n`:

* the cursor stands within the line;
* the history keeps at most `n` lines;
* while an entry is shown, its index is in the history and the line is that entry;
* while editing, the draft is the line.

Viewing a buffer in any width subtracts the window's left edge from its right edge and from
the cursor, and neither is smaller than the left edge after scrolling.

The main statement is `run?_empty_invariant`. It rests on the step lemma
`Invariant.serve?`: every request a buffer with the invariant serves succeeds and keeps the
invariant. The edits keep the draft clause because each of them caches the draft; the
browsing clause holds because the only requests that show an entry check its index first.
-/

namespace StackCalc.Edit

/-- The requests a line buffer serves. -/
inductive LineOp where
  | insert (text : String)
  | backspace
  | deleteForward
  | deleteToStart
  | deleteToEnd
  | clear
  | moveBy (delta : Int)
  | moveToStart
  | moveToEnd
  | historyPrev
  | historyNext
  | commit
  | recomputeViewport (width : Nat)
  | view (width : Nat)

namespace History

theorem capacity_push (h : History) (line : String) : (h.push line).1.capacity = h.capacity := by
  unfold push
  split <;> rfl

/-- A history within its capacity stays so after a submission. -/
theorem size_push_le (h : History) (line : String) (hs : h.size ≤ h.capacity) :
    (h.push line).1.size ≤ h.capacity := by
  unfold push
  split
  · next hacc =>
    have hcap : h.capacity ≠ 0 := by
      simp only [accepts, Bool.and_eq_true, bne_iff_ne] at hacc
      exact hacc.1.2
    simp only [size, List.length_append, List.length_cons, List.length_nil] at hs ⊢
    split <;> simp <;> omega
  · exact hs

end History

namespace Viewport

/-- After scrolling, the left edge is at most the right edge and at most the cursor. -/
theorem left_le_scrollIntoView (v : Viewport) (cursor len width : Nat) :
    (v.scrollIntoView cursor len width).left ≤ (v.scrollIntoView cursor len width).right ∧
      (v.scrollIntoView cursor len width).left ≤ cursor := by
  unfold scrollIntoView
  by_cases hfit : len ≤ width
  · rw [if_pos hfit]
    exact ⟨Nat.zero_le _, Nat.zero_le _⟩
  · rw [if_neg hfit]
    by_cases hzero : width = 0
    · rw [if_pos hzero]
      exact ⟨Nat.le_refl _, Nat.min_le_left _ _⟩
    · -- the window keeps its width: each branch puts the left edge at most at the cursor
      rw [if_neg hzero]
      dsimp only
      split
      · dsimp only
        omega
      · split
        · dsimp only
          omega
        · dsimp only
          omega

end Viewport

namespace LineBuffer

/-- Serves one request; `none` when it stops the program. -/
def serve? (b : LineBuffer) : LineOp → Option LineBuffer
  | .insert t => b.insert t
  | .backspace => b.backspace
  | .deleteForward => b.deleteForward
  | .deleteToStart => b.deleteToStart
  | .deleteToEnd => b.deleteToEnd
  | .clear => some b.clear
  | .moveBy d => some (b.moveBy d)
  | .moveToStart => some b.moveToStart
  | .moveToEnd => some b.moveToEnd
  | .historyPrev => some b.historyPrev
  | .historyNext => some b.historyNext
  | .commit => some b.commit.1
  | .recomputeViewport w => some (b.recomputeViewport w)
  | .view w => some (b.view w).1

/-- Serves requests in order; `none` when one stops the program. -/
def run? (b : LineBuffer) : List LineOp → Option LineBuffer
  | [] => some b
  | op :: ops => (b.serve? op).bind fun b' => b'.run? ops

/-- The buffers that requests reach from the empty buffer whose history keeps `n` lines. -/
inductive Reachable (n : Nat) : LineBuffer → Prop
  | empty : Reachable n (LineBuffer.empty n)
  | step {b b' : LineBuffer} {op : LineOp} : Reachable n b → b.serve? op = some b' → Reachable n b'

/-- What every buffer reachable from the empty buffer of capacity `n` satisfies. -/
structure Invariant (n : Nat) (b : LineBuffer) : Prop where
  cursor_le : b.cursor ≤ b.size
  capacity_eq : b.history.capacity = n
  size_le : b.history.size ≤ n
  browsing : ∀ i, b.mode = .browsing i → i < b.history.size ∧ b.history.get? i = some b.text
  editing : b.mode = .editing → b.draft = b.content

theorem invariant_empty (n : Nat) : (LineBuffer.empty n).Invariant n where
  cursor_le := Nat.le_refl 0
  capacity_eq := rfl
  size_le := Nat.zero_le n
  browsing := fun _ h => nomatch h
  editing := fun _ => rfl

variable {n : Nat} {b : LineBuffer}

/-- An edit that leaves the history alone and the cursor within the new line, and then caches
the draft, keeps the invariant. -/
theorem Invariant.cacheDraft (h : b.Invariant n) {content : List Char} {cursor : Nat}
    (hc : cursor ≤ content.length) :
    (cacheDraft { b with content, cursor }).Invariant n where
  cursor_le := hc
  capacity_eq := h.capacity_eq
  size_le := h.size_le
  browsing := fun _ hm => nomatch hm
  editing := fun _ => rfl

/-- A cursor move within the line keeps the invariant. -/
theorem Invariant.withCursor (h : b.Invariant n) {cursor : Nat} (hc : cursor ≤ b.size) :
    ({ b with cursor } : LineBuffer).Invariant n where
  cursor_le := hc
  capacity_eq := h.capacity_eq
  size_le := h.size_le
  browsing := h.browsing
  editing := h.editing

/-- Scrolling keeps the invariant. -/
theorem Invariant.withViewport (h : b.Invariant n) (v : Viewport) :
    ({ b with viewport := v } : LineBuffer).Invariant n where
  cursor_le := h.cursor_le
  capacity_eq := h.capacity_eq
  size_le := h.size_le
  browsing := h.browsing
  editing := h.editing

/-- Showing an entry that the history has keeps the invariant, whatever the draft. -/
theorem invariant_showEntry {i : Nat} (hcap : b.history.capacity = n) (hsize : b.history.size ≤ n)
    (hi : i < b.history.size) : (b.showEntry i).Invariant n := by
  obtain ⟨e, he⟩ : ∃ e, b.history.get? i = some e :=
    ⟨b.history.entries[i], List.getElem?_eq_getElem hi⟩
  refine ⟨?_, hcap, hsize, ?_, ?_⟩
  · simp [showEntry, load, size]
  · intro j hj
    simp only [showEntry, load, EditMode.browsing.injEq] at hj
    subst hj
    simp [showEntry, load, text, he, hi]
  · intro hm
    simp [showEntry, load] at hm

theorem Invariant.historyPrev (h : b.Invariant n) : b.historyPrev.Invariant n := by
  unfold LineBuffer.historyPrev
  split
  · -- from editing the newest entry is shown, when the history has one
    next hm =>
    split
    · exact h
    · next hne =>
      have hpos : 0 < b.history.size := by
        simp only [History.isEmpty, List.isEmpty_iff] at hne
        simpa [History.size, List.length_pos_iff] using hne
      exact invariant_showEntry h.capacity_eq h.size_le (by simp; omega)
  · exact h
  · -- the entry before a shown one is in the history too
    next i hm =>
    exact invariant_showEntry h.capacity_eq h.size_le (by have := (h.browsing _ hm).1; omega)

theorem Invariant.historyNext (h : b.Invariant n) : b.historyNext.Invariant n := by
  unfold LineBuffer.historyNext
  split
  · exact h
  · next i hm =>
    split
    · -- past the newest entry the draft comes back
      refine ⟨?_, h.capacity_eq, h.size_le, (fun _ hm' => nomatch hm'), fun _ => rfl⟩
      simp [load, size]
    · next hlt => exact invariant_showEntry h.capacity_eq h.size_le (by omega)

theorem Invariant.commit (h : b.Invariant n) : b.commit.1.Invariant n where
  cursor_le := Nat.le_refl 0
  capacity_eq := by simp [LineBuffer.commit, History.capacity_push, h.capacity_eq]
  size_le := by
    have := History.size_push_le b.history b.text (by rw [h.capacity_eq]; exact h.size_le)
    simpa [LineBuffer.commit, h.capacity_eq] using this
  browsing := fun _ hm => nomatch hm
  editing := fun _ => rfl

/-- Every request a buffer with the invariant serves succeeds and keeps the invariant. -/
theorem Invariant.serve? (h : b.Invariant n) (op : LineOp) :
    ∃ b', b.serve? op = some b' ∧ b'.Invariant n := by
  have hk := h.cursor_le
  unfold size at hk
  cases op with
  | insert t =>
    refine ⟨_, insert_eq b t, h.cacheDraft ?_⟩
    simp [String.length_toList]
    omega
  | backspace =>
    refine ⟨_, backspace_eq b h.cursor_le, ?_⟩
    split
    · exact h.cacheDraft hk
    · exact h.cacheDraft (by simp; omega)
  | deleteForward =>
    refine ⟨_, deleteForward_eq b, ?_⟩
    split
    · exact h.cacheDraft (by simp; omega)
    · exact h.cacheDraft hk
  | deleteToStart => exact ⟨_, deleteToStart_eq b, h.cacheDraft (Nat.zero_le _)⟩
  | deleteToEnd => exact ⟨_, deleteToEnd_eq b, h.cacheDraft (by simp; omega)⟩
  | clear => exact ⟨_, rfl, h.cacheDraft (Nat.le_refl 0)⟩
  | moveBy d =>
    refine ⟨_, rfl, h.withCursor ?_⟩
    -- the move is clamped to the line, also when it goes back past the start
    have := h.cursor_le
    split
    · omega
    · exact Nat.min_le_right _ _
  | moveToStart => exact ⟨_, rfl, h.withCursor (Nat.zero_le _)⟩
  | moveToEnd => exact ⟨_, rfl, h.withCursor (Nat.le_refl _)⟩
  | historyPrev => exact ⟨_, rfl, h.historyPrev⟩
  | historyNext => exact ⟨_, rfl, h.historyNext⟩
  | commit => exact ⟨_, rfl, h.commit⟩
  | recomputeViewport w => exact ⟨_, rfl, h.withViewport _⟩
  | view w => exact ⟨_, rfl, h.withViewport _⟩

/-- A run from a buffer with the invariant serves every request and keeps the invariant. -/
theorem Invariant.run? (h : b.Invariant n) (ops : List LineOp) :
    ∃ b', b.run? ops = some b' ∧ b'.Invariant n := by
  -- the step lemma carries the invariant from each request to the next
  induction ops generalizing b with
  | nil => exact ⟨b, rfl, h⟩
  | cons op ops ih =>
    obtain ⟨b', hstep, h'⟩ := h.serve? op
    obtain ⟨b'', hrun, h''⟩ := ih h'
    exact ⟨b'', by rw [LineBuffer.run?, hstep, Option.bind_some, hrun], h''⟩

theorem Reachable.invariant (h : b.Reachable n) : b.Invariant n := by
  induction h with
  | empty => exact invariant_empty n
  | step _ hstep ih =>
    -- the step lemma's buffer is the one the request reached
    obtain ⟨b', hb', h'⟩ := ih.serve? _
    rw [hstep] at hb'
    cases hb'
    exact h'

/-- The buffers a run of requests reaches from a reachable buffer are reachable. -/
theorem Reachable.of_run? (hb : b.Reachable n) {ops : List LineOp} {b' : LineBuffer}
    (h : b.run? ops = some b') : b'.Reachable n := by
  induction ops generalizing b with
  | nil =>
    cases h
    exact hb
  | cons op ops ih =>
    obtain ⟨b₁, hs, h⟩ := Option.bind_eq_some_iff.mp h
    exact ih (.step hb hs) h

/-! ## The history and the window after a request -/

/-- The history a request leaves: a commit pushes the line it returns, and no other request
changes the history. -/
def historyAfter (b : LineBuffer) : LineOp → History
  | .commit => (b.history.push b.commit.2).1
  | _ => b.history

/-- The window a request leaves: a commit puts it back at the start, scrolling and viewing
scroll it to show the cursor, and no other request moves it. -/
def windowAfter (b : LineBuffer) : LineOp → Viewport
  | .commit => Viewport.initial
  | .recomputeViewport w | .view w => b.viewport.scrollIntoView b.cursor b.size w
  | _ => b.viewport

theorem historyPrev_frame (b : LineBuffer) :
    b.historyPrev.history = b.history ∧ b.historyPrev.viewport = b.viewport := by
  unfold LineBuffer.historyPrev
  split
  · split <;> exact ⟨rfl, rfl⟩
  · exact ⟨rfl, rfl⟩
  · exact ⟨rfl, rfl⟩

theorem historyNext_frame (b : LineBuffer) :
    b.historyNext.history = b.history ∧ b.historyNext.viewport = b.viewport := by
  unfold LineBuffer.historyNext
  split
  · exact ⟨rfl, rfl⟩
  · split <;> exact ⟨rfl, rfl⟩

/-- A buffer that an edit makes, when the edit keeps the history and the window, has them. -/
theorem frame_of_map_eq_some {α : Type} {b b' : LineBuffer} {o : Option α} {f : α → LineBuffer}
    (h : o.map f = some b') (hf : ∀ a, (f a).history = b.history ∧ (f a).viewport = b.viewport) :
    b'.history = b.history ∧ b'.viewport = b.viewport := by
  obtain ⟨a, -, rfl⟩ := Option.map_eq_some_iff.mp h
  exact hf a

/-- What a served request does to the history and the window, whatever it does to the line. -/
theorem serve?_frame {b b' : LineBuffer} {op : LineOp} (h : b.serve? op = some b') :
    b'.history = b.historyAfter op ∧ b'.viewport = b.windowAfter op := by
  -- the edits change the line through `cacheDraft`, which keeps both
  cases op with
  | insert _ | deleteToStart | deleteToEnd => exact frame_of_map_eq_some h fun _ => ⟨rfl, rfl⟩
  | backspace =>
    simp only [serve?, LineBuffer.backspace] at h
    split at h
    · cases h
      exact ⟨rfl, rfl⟩
    · exact frame_of_map_eq_some h fun _ => ⟨rfl, rfl⟩
  | deleteForward =>
    simp only [serve?, LineBuffer.deleteForward] at h
    split at h
    · exact frame_of_map_eq_some h fun _ => ⟨rfl, rfl⟩
    · cases h
      exact ⟨rfl, rfl⟩
  | historyPrev =>
    cases h
    exact historyPrev_frame b
  | historyNext =>
    cases h
    exact historyNext_frame b
  | clear | moveBy _ | moveToStart | moveToEnd | commit | recomputeViewport _ | view _ =>
    cases h
    exact ⟨rfl, rfl⟩

/-- From the empty buffer whose history keeps up to `n` lines, every sequence of requests is
served without stopping the program, and the buffer it reaches has its cursor within the
line, at most `n` lines of history, the shown entry at a valid index and on the line, and
while editing the draft on the line. Viewing it in any width subtracts nothing larger from
anything smaller: after scrolling, the left edge is at most the right edge and the cursor. -/
theorem run?_empty_invariant (n : Nat) (ops : List LineOp) :
    ∃ b, (LineBuffer.empty n).run? ops = some b ∧ b.Invariant n ∧
      ∀ w, (b.recomputeViewport w).viewport.left ≤ (b.recomputeViewport w).viewport.right ∧
        (b.recomputeViewport w).viewport.left ≤ b.cursor := by
  obtain ⟨b, hrun, hinv⟩ := (invariant_empty n).run? ops
  refine ⟨b, hrun, hinv, fun w => ?_⟩
  exact Viewport.left_le_scrollIntoView b.viewport b.cursor b.size w

end LineBuffer

end StackCalc.Edit
