import Mathlib.Data.List.Destutter
import Mathlib.Data.List.DropRight
import StackCalc.Proofs.LineInvariant

/-!
# What the history keeps

Submitting lines one after another to an empty history of capacity `n` keeps exactly the last
`n` of the submitted lines once the blank ones are dropped and every run of equal lines is
merged into one (`pushAll_keeps_recent_distinct`): in the library's words, the history holds
`((lines.filter notBlank).destutter (· ≠ ·)).rtake n`. A submission is kept exactly when the
capacity is not zero, the line is not blank, and it differs from the newest non-blank line
submitted before it. Submitting the same lines through a line buffer, each typed and then
submitted, fills its history the same way; indeed every run of requests on a line buffer
changes its history only by pushing the lines its commits return (`run?_history`).

The history compares a line with its newest entry, not with the submitted lines, so the two
descriptions agree only because the newest entry survives every eviction. That is the
invariant `History.Shows`: the history holds the window of the last `capacity` merged lines,
a window that ends where the merged lines end (`getLast?_rtake`), while merging keeps the
last line (`getLast?_destutter_ne`). One submission keeps the invariant (`Shows.push`), and a
run of them by induction on the lines (`Shows.pushAll`).
-/

namespace StackCalc

namespace Text

/-- Whether a text keeps a character once blanks are trimmed off both ends. -/
def notBlank (s : String) : Bool := !(trimBlank s).isEmpty

/-- A list whose front blanks were dropped and whose characters are all blank is empty: its
first character would not have been dropped. -/
theorem dropWhile_eq_nil_of_forall {cs : List Char}
    (h : ∀ c ∈ cs.dropWhile isBlank, isBlank c) : cs.dropWhile isBlank = [] := by
  by_contra hne
  have hhead := List.head_dropWhile_not isBlank hne
  rw [h _ (List.head_mem hne)] at hhead
  cases hhead

/-- Trimming leaves nothing exactly when every character is blank. -/
theorem trimBlankChars_eq_nil_iff (cs : List Char) :
    trimBlankChars cs = [] ↔ ∀ c ∈ cs, isBlank c := by
  unfold trimBlankChars
  rw [List.reverse_eq_nil_iff, List.dropWhile_eq_nil_iff]
  simp only [List.mem_reverse]
  constructor
  · intro h
    exact List.dropWhile_eq_nil_iff.mp (dropWhile_eq_nil_of_forall h)
  · intro h c hc
    exact h c ((List.dropWhile_sublist _).subset hc)

/-- A text is not blank exactly when some character of it is not blank. -/
theorem notBlank_eq (s : String) : notBlank s = !isBlankText s := by
  have h : (trimBlank s).isEmpty = isBlankText s := by
    rw [Bool.eq_iff_iff, String.isEmpty_iff, trimBlank, String.ofList_eq_empty_iff,
      trimBlankChars_eq_nil_iff, isBlankText, List.all_eq_true]
  rw [notBlank, h]

end Text

namespace Edit

open Text (notBlank)

/-! ## Merging runs of equal lines, and the window of the last ones -/

section Merge

variable {α : Type} [DecidableEq α]

/-- Merging after one more element: it is dropped when it repeats the last one. -/
theorem destutter'_ne_concat (a x : α) (l : List α) :
    (l ++ [x]).destutter' (· ≠ ·) a =
      if (a :: l).getLast? = some x then l.destutter' (· ≠ ·) a
      else l.destutter' (· ≠ ·) a ++ [x] := by
  induction l generalizing a with
  | nil =>
    by_cases h : a = x
    · subst h
      simp
    · simp [h]
  | cons b l ih =>
    rw [List.cons_append, List.getLast?_cons_cons]
    by_cases hab : a = b
    · -- a repeated element is skipped, and the running element stays `a`
      subst hab
      rw [List.destutter'_cons_neg _ (not_not.mpr rfl),
        List.destutter'_cons_neg _ (not_not.mpr rfl), ih a]
    · rw [List.destutter'_cons_pos _ hab, List.destutter'_cons_pos _ hab, ih b]
      split <;> rfl

theorem destutter_ne_concat (l : List α) (x : α) :
    (l ++ [x]).destutter (· ≠ ·) =
      if l.getLast? = some x then l.destutter (· ≠ ·) else l.destutter (· ≠ ·) ++ [x] := by
  cases l with
  | nil => simp
  | cons a l =>
    rw [List.cons_append, List.destutter_cons', List.destutter_cons', destutter'_ne_concat]

/-- Merging keeps the last element. -/
theorem getLast?_destutter_ne (l : List α) : (l.destutter (· ≠ ·)).getLast? = l.getLast? := by
  induction l using List.reverseRecOn with
  | nil => rfl
  | append_singleton l x ih =>
    rw [destutter_ne_concat, List.getLast?_concat]
    split
    · next h => rw [ih, h]
    · exact List.getLast?_concat

end Merge

/-- A window of the last `n` elements, `n` not zero, ends where the list ends. -/
theorem getLast?_rtake {α : Type} (l : List α) {n : Nat} (hn : 0 < n) :
    (l.rtake n).getLast? = l.getLast? := by
  rw [List.rtake, List.getLast?_drop]
  cases l with
  | nil => rfl
  | cons a l =>
    rw [if_neg (by simp only [List.length_cons]; omega)]

/-- Dropping the oldest element of a full window of `n` elements, or none of one that is not
full, leaves the window of the last `n - 1`. -/
theorem evict_rtake {α : Type} (l : List α) {n : Nat} (hn : 0 < n) :
    (if n ≤ (l.rtake n).length then (l.rtake n).drop 1 else l.rtake n) = l.rtake (n - 1) := by
  simp only [List.rtake, List.length_drop]
  split
  · rw [List.drop_drop]
    congr 1
    omega
  · congr 1
    omega

/-! ## The history as a window -/

namespace History

/-- Submits lines in order. -/
def pushAll (h : History) (lines : List String) : History :=
  lines.foldl (fun h line => (h.push line).1) h

theorem pushAll_cons (h : History) (line : String) (lines : List String) :
    h.pushAll (line :: lines) = (h.push line).1.pushAll lines := rfl

theorem pushAll_append (h : History) (lines more : List String) :
    h.pushAll (lines ++ more) = (h.pushAll lines).pushAll more :=
  List.foldl_append

/-- The flag of a submission is whether the history accepts the line. -/
theorem push_snd (h : History) (line : String) : (h.push line).2 = h.accepts line := by
  unfold push
  split
  · next hacc => exact hacc.symm
  · next hacc => exact (Bool.eq_false_iff.mpr hacc).symm

theorem accepts_eq_true_iff (h : History) (line : String) :
    h.accepts line = true ↔ notBlank line ∧ 0 < h.capacity ∧ h.last? ≠ some line := by
  simp [accepts, Text.notBlank_eq, Nat.pos_iff_ne_zero, and_assoc]

/-- A line the history refuses leaves it as it was. -/
theorem push_of_not_accepts {h : History} {line : String} (hacc : h.accepts line = false) :
    (h.push line).1 = h := by
  simp [push, hacc]

/-- The history holds the window of the last `capacity` lines of `F`, runs of equal lines
merged. -/
def Shows (h : History) (F : List String) : Prop :=
  h.entries = (F.destutter (· ≠ ·)).rtake h.capacity

theorem shows_empty (n : Nat) : (empty n).Shows [] := by
  simp [Shows, empty, List.rtake_nil]

variable {h : History} {F : List String}

/-- The newest entry is the last line of `F`: it survives every eviction. -/
theorem Shows.last? (hs : h.Shows F) (hcap : 0 < h.capacity) : h.last? = F.getLast? := by
  rw [History.last?, hs, getLast?_rtake _ hcap, getLast?_destutter_ne]

/-- A submission is kept exactly when the capacity is not zero, the line is not blank, and it
differs from the last line of `F`. -/
theorem Shows.push_kept_iff (hs : h.Shows F) (line : String) :
    (h.push line).2 = true ↔ 0 < h.capacity ∧ notBlank line ∧ F.getLast? ≠ some line := by
  rw [push_snd, accepts_eq_true_iff]
  constructor
  · rintro ⟨hb, hcap, hlast⟩
    exact ⟨hcap, hb, hs.last? hcap ▸ hlast⟩
  · rintro ⟨hcap, hb, hlast⟩
    exact ⟨hb, hcap, (hs.last? hcap).symm ▸ hlast⟩

/-- One submission keeps the invariant, with the line added to `F` when it is not blank. -/
theorem Shows.push (hs : h.Shows F) (line : String) :
    (h.push line).1.Shows (F ++ [line].filter notBlank) := by
  unfold Shows
  rw [capacity_push]
  by_cases hb : notBlank line
  · rw [List.filter_singleton, hb, cond_true]
    cases hcap : h.capacity with
    | zero =>
      -- a history of capacity zero keeps nothing
      rw [List.rtake_zero]
      have hacc : h.accepts line = false := by
        simp [accepts, hcap]
      rw [push_of_not_accepts hacc, hs, hcap, List.rtake_zero]
    | succ m =>
      rw [destutter_ne_concat]
      by_cases hlast : F.getLast? = some line
      · -- a repeat of the newest line is refused
        have hacc : h.accepts line = false := by
          rw [← Bool.not_eq_true, accepts_eq_true_iff, hs.last? (by omega), hlast]
          simp
        rw [if_pos hlast, push_of_not_accepts hacc, hs, hcap]
      · -- a new line evicts the oldest entry of a full history and goes at the end
        have hacc : h.accepts line = true := by
          rw [accepts_eq_true_iff, hs.last? (by omega)]
          exact ⟨hb, by omega, hlast⟩
        have hevict := @evict_rtake String (F.destutter (· ≠ ·)) (m + 1) (Nat.succ_pos m)
        rw [Nat.add_sub_cancel] at hevict
        rw [if_neg hlast, List.rtake_concat_succ, ← hevict]
        have hent : h.entries = (F.destutter (· ≠ ·)).rtake (m + 1) := hcap ▸ hs
        simp only [History.push, hacc, if_true, hent, hcap]
  · -- a blank line is refused
    have hacc : h.accepts line = false := by
      rw [← Bool.not_eq_true, accepts_eq_true_iff]
      exact fun hacc' => hb hacc'.1
    rw [List.filter_singleton, Bool.eq_false_iff.mpr hb, cond_false, List.append_nil,
      push_of_not_accepts hacc]
    exact hs

theorem capacity_pushAll (h : History) (lines : List String) :
    (h.pushAll lines).capacity = h.capacity := by
  induction lines generalizing h with
  | nil => rfl
  | cons line lines ih => rw [pushAll_cons, ih, capacity_push]

/-- Submitting lines keeps the invariant, with their non-blank ones added to `F`. -/
theorem Shows.pushAll (hs : h.Shows F) (lines : List String) :
    (h.pushAll lines).Shows (F ++ lines.filter notBlank) := by
  induction lines generalizing h F with
  | nil =>
    rw [List.filter_nil, List.append_nil]
    exact hs
  | cons line lines ih =>
    have h' := ih (hs.push line)
    rwa [List.append_assoc, ← List.filter_append, List.singleton_append] at h'

end History

/-! ## Submitting through a line buffer -/

namespace LineBuffer

/-- The buffer between two lines: an empty line being edited, no draft, the window at the
start, and a history. -/
def idle (h : History) : LineBuffer := ⟨[], 0, h, .editing, [], Viewport.initial⟩

@[simp]
theorem idle_history (h : History) : (idle h).history = h := rfl

theorem empty_eq_idle (n : Nat) : LineBuffer.empty n = idle (History.empty n) := rfl

/-- Typing a line into an idle buffer gives the line, the cursor after it. -/
theorem idle_insert (h : History) (line : String) :
    (idle h).insert line = some (cacheDraft { idle h with
      content := line.toList, cursor := line.length }) := by
  rw [insert_eq]
  simp [idle]

/-- Typing a line into an idle buffer and submitting it submits that line. -/
theorem idle_insert_commit (h : History) (line : String) :
    ((idle h).insert line).map commit = some (idle (h.push line).1, line) := by
  rw [idle_insert, Option.map_some]
  simp only [commit, text, cacheDraft, idle, String.ofList_toList]

/-- Typing each line into an idle buffer and submitting it pushes the lines in order. -/
theorem idle_run?_typed (h : History) (lines : List String) :
    (idle h).run? (lines.flatMap fun line => [.insert line, .commit]) =
      some (idle (h.pushAll lines)) := by
  induction lines generalizing h with
  | nil => rfl
  | cons line lines ih =>
    have hline := idle_insert_commit h line
    rw [idle_insert, Option.map_some, Option.some_inj] at hline
    simp only [List.flatMap_cons, List.cons_append, List.nil_append, run?, serve?,
      idle_insert, Option.bind_some, hline, ih, History.pushAll_cons]

/-- The lines a request submits: the line a commit returns; no other request submits one. -/
def submits (b : LineBuffer) : LineOp → List String
  | .commit => [b.commit.2]
  | _ => []

/-- The lines the commits of a run return, in order, up to a request that stops the program. -/
def submitted (b : LineBuffer) : List LineOp → List String
  | [] => []
  | op :: ops =>
    match b.serve? op with
    | some b' => b.submits op ++ b'.submitted ops
    | none => []

/-- A request changes the history only by submitting: a commit pushes the line it returns, and
every other request leaves the history as it was. -/
theorem serve?_history {b b' : LineBuffer} {op : LineOp} (h : b.serve? op = some b') :
    b'.history = b.history.pushAll (b.submits op) := by
  rw [(serve?_frame h).1]
  cases op <;> rfl

/-- A run pushes onto the history the lines its commits return, in order, and nothing else. -/
theorem run?_history {b b' : LineBuffer} {ops : List LineOp} (h : b.run? ops = some b') :
    b'.history = b.history.pushAll (b.submitted ops) := by
  -- the step lemma carries the history from each request to the next
  induction ops generalizing b with
  | nil =>
    cases h
    rfl
  | cons op ops ih =>
    obtain ⟨b₁, hs, h⟩ := Option.bind_eq_some_iff.mp h
    rw [submitted, hs, History.pushAll_append, ← serve?_history hs]
    exact ih h

end LineBuffer

/-- Lines submitted to an empty history of capacity `n` leave in it exactly the last `n` of
the non-blank lines with every run of equal lines merged into one. Each submission is kept
exactly when `n` is not zero, the line is not blank, and it differs from the newest
non-blank line submitted before it. Typing each line into an empty line buffer of history
capacity `n` and submitting it fills the buffer's history the same way; and every run of
requests on that buffer leaves in its history exactly the lines its commits returned, pushed
in order, so the last `n` of them once blank ones are dropped and repeats merged. -/
theorem pushAll_keeps_recent_distinct (n : Nat) (lines : List String) :
    ((History.empty n).pushAll lines).entries =
        ((lines.filter notBlank).destutter (· ≠ ·)).rtake n ∧
      (∀ (pre : List String) (line : String),
        (((History.empty n).pushAll pre).push line).2 = true ↔
          0 < n ∧ notBlank line ∧ (pre.filter notBlank).getLast? ≠ some line) ∧
      (∃ b, (LineBuffer.empty n).run? (lines.flatMap fun line => [.insert line, .commit]) =
          some b ∧ b.history = (History.empty n).pushAll lines) ∧
      ∀ (ops : List LineOp) (b : LineBuffer), (LineBuffer.empty n).run? ops = some b →
        b.history = (History.empty n).pushAll ((LineBuffer.empty n).submitted ops) ∧
          b.history.entries =
            ((((LineBuffer.empty n).submitted ops).filter notBlank).destutter (· ≠ ·)).rtake n := by
  have hshows (pre : List String) :
      ((History.empty n).pushAll pre).Shows (pre.filter notBlank) := by
    simpa using (History.shows_empty n).pushAll pre
  have hcap (pre : List String) : ((History.empty n).pushAll pre).capacity = n :=
    History.capacity_pushAll _ pre
  refine ⟨?_, ?_, ?_, ?_⟩
  · rw [hshows lines, hcap]
  · intro pre line
    rw [(hshows pre).push_kept_iff, hcap]
  · refine ⟨LineBuffer.idle ((History.empty n).pushAll lines), ?_, rfl⟩
    rw [LineBuffer.empty_eq_idle, LineBuffer.idle_run?_typed]
  · intro ops b h
    -- the empty buffer's history is the empty history
    have hhist : b.history = (History.empty n).pushAll ((LineBuffer.empty n).submitted ops) :=
      LineBuffer.run?_history h
    refine ⟨hhist, ?_⟩
    rw [hhist, hshows, hcap]

end Edit

end StackCalc
