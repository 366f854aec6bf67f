import StackCalc.Proofs.LineInvariant

/-!
# Walking the history

While the line is being edited, stepping back and forth through the history moves a position
`p` between `0` and the number `L` of entries: back one entry but not before the oldest,
forward one but not past `L`, which stands for the draft. Cursor moves and scrolling leave `p`
alone. Whatever the walk, the history and the draft stay as they were; the history pointer is
`p`; at `p = L` the draft is edited again, and before it the entry at `p` is shown; and a
history step that moves `p` puts the cursor at the end of what it shows.

Main statement (`walk_history`). `WalksAt h d p` says that a buffer stands at position `p` of
a walk over the history `h` from the draft `d`. What a history step does from such a buffer is
one equation in `p` (`WalksAt.historyPrev_eq`, `WalksAt.historyNext_eq`); from these, each
request of a walk keeps it, at the position `LineOp.walkStep` gives (`WalksAt.serve?`), so a
whole walk does (`WalksAt.run?`). A walk starts at `p = L` from every reachable buffer being
edited, whose draft is its line.
-/

namespace StackCalc.Edit

namespace LineOp

/-- The requests of a walk: history steps, cursor moves and scrolling, which change no text
of their own. -/
def walksHistory : LineOp → Bool
  | .historyPrev | .historyNext | .moveBy _ | .moveToStart | .moveToEnd
  | .recomputeViewport _ | .view _ => true
  | _ => false

/-- The position a request moves a walk over `size` entries to: back one but not before the
oldest entry, forward one but not past the draft at `size`. -/
def walkStep (size p : Nat) : LineOp → Nat
  | .historyPrev => if 0 < p then p - 1 else p
  | .historyNext => if p < size then p + 1 else p
  | _ => p

end LineOp

/-- The position after a sequence of requests. -/
def walk (size p : Nat) (ops : List LineOp) : Nat :=
  ops.foldl (LineOp.walkStep size) p

namespace LineBuffer

/-- The buffer stands at position `p` of a walk over the history `h` from the draft `d`: it
keeps `h` and `d`, its history pointer is `p`, and it edits the draft at `p = h.size` and
shows the entry at `p` before that. -/
structure WalksAt (h : History) (d : List Char) (p : Nat) (b : LineBuffer) : Prop where
  history_eq : b.history = h
  draft_eq : b.draft = d
  pointer_eq : b.historyPointer = p
  le_size : p ≤ h.size
  at_draft : p = h.size → b.mode = .editing ∧ b.content = d
  at_entry : p < h.size → b.mode = .browsing p ∧ h.get? p = some b.text

variable {h : History} {d : List Char} {p : Nat} {b : LineBuffer}

/-- While an entry is shown, the walk stands before the draft, at that entry. -/
theorem WalksAt.of_browsing (hw : b.WalksAt h d p) {i : Nat} (hm : b.mode = .browsing i) :
    i = p ∧ p < h.size := by
  have hi : i = p := by
    have := hw.pointer_eq
    simp only [historyPointer, hm] at this
    exact this
  refine ⟨hi, Nat.lt_of_le_of_ne hw.le_size fun he => ?_⟩
  rw [(hw.at_draft he).1] at hm
  cases hm

/-- While the draft is edited, the walk stands at the draft. -/
theorem WalksAt.of_editing (hw : b.WalksAt h d p) (hm : b.mode = .editing) : p = h.size := by
  have := hw.pointer_eq
  simp only [historyPointer, hm] at this
  rw [← this, hw.history_eq]

theorem WalksAt.withCursor (hw : b.WalksAt h d p) (k : Nat) :
    ({ b with cursor := k } : LineBuffer).WalksAt h d p :=
  ⟨hw.history_eq, hw.draft_eq, hw.pointer_eq, hw.le_size, hw.at_draft, hw.at_entry⟩

theorem WalksAt.withViewport (hw : b.WalksAt h d p) (v : Viewport) :
    ({ b with viewport := v } : LineBuffer).WalksAt h d p :=
  ⟨hw.history_eq, hw.draft_eq, hw.pointer_eq, hw.le_size, hw.at_draft, hw.at_entry⟩

/-- Showing an entry of the history stands the walk at that entry. -/
theorem walksAt_showEntry (hh : b.history = h) (hd : b.draft = d) {i : Nat} (hi : i < h.size) :
    (b.showEntry i).WalksAt h d i := by
  obtain ⟨e, he⟩ : ∃ e, h.get? i = some e := ⟨h.entries[i], List.getElem?_eq_getElem hi⟩
  refine ⟨hh, hd, rfl, Nat.le_of_lt hi, fun hs => absurd hs (Nat.ne_of_lt hi), fun _ => ⟨rfl, ?_⟩⟩
  simp [showEntry, load, text, hh, he]

/-- What a step back does from a position of a walk: with an entry before the position that
entry is shown, the draft kept; at the oldest entry, or with no history, nothing changes. -/
theorem WalksAt.historyPrev_eq (hw : b.WalksAt h d p) :
    b.historyPrev = if 0 < p then { b with draft := d }.showEntry (p - 1) else b := by
  unfold LineBuffer.historyPrev
  split
  · next hm =>
    have hp := hw.of_editing hm
    split
    · -- with no history the walk stands at `0`
      next hempty =>
      have hsize : h.size = 0 := by
        simpa [History.isEmpty, History.size, hw.history_eq] using hempty
      rw [if_neg (by omega)]
    · -- leaving the draft caches the line, which is the draft
      next hempty =>
      have hpos : 0 < h.size := by
        simpa [History.isEmpty, History.size, List.length_pos_iff, hw.history_eq] using hempty
      rw [if_pos (by omega), (hw.at_draft hp).2, hp, hw.history_eq]
  · next hm =>
    rw [if_neg (by rw [← (hw.of_browsing hm).1]; exact Nat.lt_irrefl 0)]
  · next i hm =>
    obtain ⟨hp, -⟩ := hw.of_browsing hm
    rw [if_pos (by omega), ← hp, Nat.succ_sub_one, ← hw.draft_eq]

/-- What a step forward does from a position of a walk: before the newest entry the next one
is shown; from the newest the draft comes back; at the draft nothing changes. -/
theorem WalksAt.historyNext_eq (hw : b.WalksAt h d p) :
    b.historyNext = if p < h.size then
      (if p + 1 = h.size then { b with mode := .editing }.load d else b.showEntry (p + 1))
    else b := by
  unfold LineBuffer.historyNext
  split
  · next hm => rw [if_neg (by rw [hw.of_editing hm]; exact Nat.lt_irrefl _)]
  · next i hm =>
    obtain ⟨hp, hlt⟩ := hw.of_browsing hm
    subst hp
    rw [if_pos hlt, hw.history_eq, hw.draft_eq]
    -- past the newest entry exactly when the next position is the draft's
    by_cases hlast : i + 1 = h.size
    · rw [if_pos (by omega), if_pos hlast]
    · rw [if_neg (by omega), if_neg hlast]

/-- Bringing the draft back stands the walk at the draft. -/
theorem walksAt_load_draft (hh : b.history = h) (hd : b.draft = d) :
    ({ b with mode := .editing }.load d).WalksAt h d h.size :=
  ⟨hh, hd, by simp [historyPointer, load, hh], Nat.le_refl _, fun _ => ⟨rfl, rfl⟩,
    fun hlt => absurd hlt (Nat.lt_irrefl _)⟩

/-- Stepping back moves the walk back one entry, not before the oldest. -/
theorem WalksAt.historyPrev (hw : b.WalksAt h d p) :
    b.historyPrev.WalksAt h d (LineOp.walkStep h.size p .historyPrev) := by
  rw [hw.historyPrev_eq]
  by_cases hp : 0 < p
  · rw [if_pos hp, LineOp.walkStep, if_pos hp]
    exact walksAt_showEntry (b := { b with draft := d }) hw.history_eq rfl
      (show p - 1 < h.size by have := hw.le_size; omega)
  · rw [if_neg hp, LineOp.walkStep, if_neg hp]
    exact hw

/-- Stepping forward moves the walk on one entry, and past the newest back to the draft. -/
theorem WalksAt.historyNext (hw : b.WalksAt h d p) :
    b.historyNext.WalksAt h d (LineOp.walkStep h.size p .historyNext) := by
  rw [hw.historyNext_eq, LineOp.walkStep]
  by_cases hlt : p < h.size
  · rw [if_pos hlt, if_pos hlt]
    by_cases hlast : p + 1 = h.size
    · rw [if_pos hlast, hlast]
      exact walksAt_load_draft hw.history_eq hw.draft_eq
    · rw [if_neg hlast]
      exact walksAt_showEntry hw.history_eq hw.draft_eq (by omega)
  · rw [if_neg hlt, if_neg hlt]
    exact hw

/-- Each request of a walk is served and moves the walk as `walkStep` says. -/
theorem WalksAt.serve? (hw : b.WalksAt h d p) {op : LineOp} (hop : op.walksHistory) :
    ∃ b', b.serve? op = some b' ∧ b'.WalksAt h d (LineOp.walkStep h.size p op) := by
  cases op with
  | historyPrev => exact ⟨_, rfl, hw.historyPrev⟩
  | historyNext => exact ⟨_, rfl, hw.historyNext⟩
  | moveBy delta => exact ⟨_, rfl, hw.withCursor _⟩
  | moveToStart => exact ⟨_, rfl, hw.withCursor _⟩
  | moveToEnd => exact ⟨_, rfl, hw.withCursor _⟩
  | recomputeViewport w => exact ⟨_, rfl, hw.withViewport _⟩
  | view w => exact ⟨_, rfl, hw.withViewport _⟩
  | _ => cases hop

/-- A walk of any length is served, and ends at the position the steps give. -/
theorem WalksAt.run? (hw : b.WalksAt h d p) {ops : List LineOp}
    (hops : ∀ op ∈ ops, op.walksHistory) :
    ∃ b', b.run? ops = some b' ∧ b'.WalksAt h d (walk h.size p ops) := by
  -- the position is carried along with the buffer, one request at a time
  induction ops generalizing b p with
  | nil => exact ⟨b, rfl, hw⟩
  | cons op ops ih =>
    obtain ⟨b₁, hstep, hw₁⟩ := hw.serve? (hops op (List.mem_cons_self ..))
    obtain ⟨b₂, hrun, hw₂⟩ := ih hw₁ fun op' hop' => hops op' (List.mem_cons_of_mem op hop')
    exact ⟨b₂, by rw [LineBuffer.run?, hstep, Option.bind_some, hrun], hw₂⟩

theorem load_cursor (b : LineBuffer) (cs : List Char) : (b.load cs).cursor = (b.load cs).size :=
  rfl

/-- A step back that moves the walk puts the cursor at the end of the entry it shows. -/
theorem WalksAt.historyPrev_cursor (hw : b.WalksAt h d p)
    (hmove : LineOp.walkStep h.size p .historyPrev ≠ p) :
    b.historyPrev.cursor = b.historyPrev.size := by
  have hp : 0 < p := Nat.pos_of_ne_zero fun h0 => hmove (by simp [LineOp.walkStep, h0])
  rw [hw.historyPrev_eq, if_pos hp]
  exact load_cursor _ _

/-- A step forward that moves the walk puts the cursor at the end of what it shows, the next
entry or the draft. -/
theorem WalksAt.historyNext_cursor (hw : b.WalksAt h d p)
    (hmove : LineOp.walkStep h.size p .historyNext ≠ p) :
    b.historyNext.cursor = b.historyNext.size := by
  have hlt : p < h.size := Nat.lt_of_not_le fun hle => hmove (by simp [LineOp.walkStep, hle])
  rw [hw.historyNext_eq, if_pos hlt]
  split
  · exact load_cursor _ _
  · exact load_cursor _ _

/-- A walk starts at the draft from every reachable buffer being edited. -/
theorem walksAt_start {n : Nat} (hb : b.Reachable n) (hm : b.mode = .editing) :
    b.WalksAt b.history b.content b.history.size := by
  have hd := hb.invariant.editing hm
  refine ⟨rfl, hd, by simp [historyPointer, hm], Nat.le_refl _, fun _ => ⟨hm, rfl⟩, ?_⟩
  intro hlt
  exact absurd hlt (Nat.lt_irrefl _)

/-- From a reachable buffer being edited, with line `d` and a history of `L` entries, every
sequence of history steps, cursor moves and scrolling is served and walks a position `p` from
`L`: back one but not below `0`, forward one but not past `L`. After it the history and the
draft `d` are unchanged and the history pointer is `p`; at `p = L` the draft `d` is edited,
below `L` the entry at `p` is shown. A further history step that moves `p` leaves the cursor
at the end of the line it shows. -/
theorem walk_history {n : Nat} (hb : b.Reachable n) (hm : b.mode = .editing) {ops : List LineOp}
    (hops : ∀ op ∈ ops, op.walksHistory) :
    ∃ b', b.run? ops = some b' ∧
      b'.WalksAt b.history b.content (walk b.history.size b.history.size ops) ∧
      (LineOp.walkStep b.history.size (walk b.history.size b.history.size ops) .historyPrev ≠
          walk b.history.size b.history.size ops →
        b'.historyPrev.cursor = b'.historyPrev.size) ∧
      (LineOp.walkStep b.history.size (walk b.history.size b.history.size ops) .historyNext ≠
          walk b.history.size b.history.size ops →
        b'.historyNext.cursor = b'.historyNext.size) := by
  obtain ⟨b', hrun, hw⟩ := (walksAt_start hb hm).run? hops
  exact ⟨b', hrun, hw, hw.historyPrev_cursor, hw.historyNext_cursor⟩

/-- Two lines submitted and a third being typed; then back to the oldest line, forward one,
the cursor moved to the start and the line viewed one column wide. -/
theorem walk_history_two_lines :
    let b := ((LineBuffer.empty 2).run?
      [.insert "1 2", .commit, .insert "3 4", .commit, .insert "5"]).getD (LineBuffer.empty 2)
    let ops : List LineOp := [.historyPrev, .historyPrev, .historyNext, .moveToStart, .view 1]
    b.Reachable 2 ∧ b.mode = .editing ∧ (∀ op ∈ ops, op.walksHistory) ∧
      ∃ b', b.run? ops = some b' ∧
        b'.WalksAt b.history b.content (walk b.history.size b.history.size ops) ∧
        (LineOp.walkStep b.history.size (walk b.history.size b.history.size ops) .historyPrev ≠
            walk b.history.size b.history.size ops →
          b'.historyPrev.cursor = b'.historyPrev.size) ∧
        (LineOp.walkStep b.history.size (walk b.history.size b.history.size ops) .historyNext ≠
            walk b.history.size b.history.size ops →
          b'.historyNext.cursor = b'.historyNext.size) := by
  intro b ops
  have hrun : (LineBuffer.empty 2).run?
      [.insert "1 2", .commit, .insert "3 4", .commit, .insert "5"] = some b := rfl
  have hb : b.Reachable 2 := Reachable.of_run? .empty hrun
  have hm : b.mode = .editing := rfl
  have hops : ∀ op ∈ ops, op.walksHistory := by decide
  exact ⟨hb, hm, hops, walk_history hb hm hops⟩

end LineBuffer

end StackCalc.Edit
