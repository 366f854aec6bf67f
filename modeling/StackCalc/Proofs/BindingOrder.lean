import Mathlib.Data.List.Induction
import StackCalc.Edit.Keymap

/-!
# The order of the binding table

The program builds its keymap by walking the binding table in the order its hash map gives,
binding each pair that reads and skipping the rest; a later pair for a key replaces an earlier
one. That order is not fixed, so the keymap is well defined only if it does not depend on it.

Different notations can read as one key (`^a`, `^A`, `C-a` and `C-A` are all control-a), so
two entries of the table conflict when they read as the same key and name different commands.
Main statement (`ofPairs_lookup_order_free`): the keymap's lookup is the same for every order
of the table exactly when no two entries conflict; then a key is bound to a command exactly
when some entry reads as that key and command; and entries that do not read never change the
keymap.

The step lemma is `lookup_ofPairs_concat_of_ok`: the pair taken last decides its own key and
leaves the others. Every run lemma follows from it by induction from the end of the table.
-/

namespace StackCalc.Edit

namespace Keymap

/-- Two entries of a binding table read as one key and name different commands. -/
def Conflicts (B : List (String × String)) : Prop :=
  ∃ p ∈ B, ∃ q ∈ B, ∃ k c₁ c₂, Key.parse p.1 = .ok k ∧ Key.parse q.1 = .ok k ∧
    LineCommand.parse p.2 = .ok c₁ ∧ LineCommand.parse q.2 = .ok c₂ ∧ c₁ ≠ c₂

/-- A pair reads as a binding when both its key notation and its command name read. -/
theorem readBinding_eq_ok {p : String × String} {k : Key} {c : LineCommand} :
    readBinding p = .ok (k, c) ↔ Key.parse p.1 = .ok k ∧ LineCommand.parse p.2 = .ok c := by
  unfold readBinding
  cases Key.parse p.1 with
  | error e =>
    constructor
    · intro h
      cases h
    · rintro ⟨h, -⟩
      cases h
  | ok k' =>
    cases LineCommand.parse p.2 with
    | error e =>
      constructor
      · intro h
        cases h
      · rintro ⟨-, h⟩
        cases h
    | ok c' =>
      constructor
      · intro h
        cases h
        exact ⟨rfl, rfl⟩
      · rintro ⟨⟨⟩, ⟨⟩⟩
        rfl

/-- Binding a key decides it and leaves every other key's binding. -/
theorem lookup_bind (m : Keymap) (k k' : Key) (c : LineCommand) :
    (m.bind k c).lookup k' = if k' = k then some c else m.lookup k' := by
  unfold bind lookup
  rw [List.find?_cons]
  by_cases h : k' = k
  · subst h
    simp
  · have hne : (k == k') = false := beq_eq_false_iff_ne.mpr (Ne.symm h)
    simp only [hne, List.find?_filter, if_neg h]
    -- a pair for `k'` is never a pair for `k`, so the filter keeps all of them
    congr 2
    funext e
    by_cases he : e.1 = k'
    · simp [he, h]
    · simp [he]

/-- The table with one more pair at the end: a pair that reads is bound over the rest. -/
theorem ofPairs_concat_of_ok {B : List (String × String)} {p : String × String} {k : Key}
    {c : LineCommand} (h : readBinding p = .ok (k, c)) :
    ofPairs (B ++ [p]) = (ofPairs B).bind k c := by
  unfold ofPairs
  rw [List.foldl_append, List.foldl_cons, List.foldl_nil, h]

/-- A pair at the end that does not read changes nothing. -/
theorem ofPairs_concat_of_error {B : List (String × String)} {p : String × String}
    {e : BindingError} (h : readBinding p = .error e) :
    ofPairs (B ++ [p]) = ofPairs B := by
  unfold ofPairs
  rw [List.foldl_append, List.foldl_cons, List.foldl_nil, h]

/-- The pair taken last decides the key it reads as and leaves the others. -/
theorem lookup_ofPairs_concat_of_ok {B : List (String × String)} {p : String × String}
    {k : Key} {c : LineCommand} (h : readBinding p = .ok (k, c)) (k' : Key) :
    (ofPairs (B ++ [p])).lookup k' = if k' = k then some c else (ofPairs B).lookup k' := by
  rw [ofPairs_concat_of_ok h, lookup_bind]

/-- Entries that do not read never change the keymap. -/
theorem ofPairs_filter_reads (B : List (String × String)) :
    ofPairs (B.filter fun p => (readBinding p).toBool) = ofPairs B := by
  induction B using List.reverseRecOn with
  | nil => rfl
  | append_singleton B p ih =>
    rw [List.filter_append]
    cases h : readBinding p with
    | error e =>
      have hdrop : [p].filter (fun p => (readBinding p).toBool) = [] := by
        simp [h, Except.toBool]
      rw [hdrop, List.append_nil, ih, ofPairs_concat_of_error h]
    | ok r =>
      obtain ⟨k, c⟩ := r
      have hkeep : [p].filter (fun p => (readBinding p).toBool) = [p] := by
        simp [h, Except.toBool]
      rw [hkeep, ofPairs_concat_of_ok h, ofPairs_concat_of_ok h, ih]

/-- A key is bound only to a command some entry reads as, with the key. -/
theorem exists_of_lookup_ofPairs {B : List (String × String)} {k : Key} {c : LineCommand}
    (h : (ofPairs B).lookup k = some c) : ∃ p ∈ B, readBinding p = .ok (k, c) := by
  induction B using List.reverseRecOn with
  | nil => simp [ofPairs, empty, lookup] at h
  | append_singleton B p ih =>
    cases hp : readBinding p with
    | error e =>
      rw [ofPairs_concat_of_error hp] at h
      obtain ⟨q, hq, hread⟩ := ih h
      exact ⟨q, List.mem_append_left _ hq, hread⟩
    | ok r =>
      obtain ⟨k', c'⟩ := r
      rw [lookup_ofPairs_concat_of_ok hp] at h
      split at h
      · -- the last pair decided the key
        next hk =>
        cases h
        subst hk
        exact ⟨p, List.mem_append_right _ (List.mem_singleton_self p), hp⟩
      · obtain ⟨q, hq, hread⟩ := ih h
        exact ⟨q, List.mem_append_left _ hq, hread⟩

/-- A key some entry reads as is bound. -/
theorem lookup_ofPairs_isSome {B : List (String × String)} {p : String × String} {k : Key}
    {c : LineCommand} (hp : p ∈ B) (h : readBinding p = .ok (k, c)) :
    ((ofPairs B).lookup k).isSome := by
  induction B using List.reverseRecOn with
  | nil => cases hp
  | append_singleton B q ih =>
    cases hq : readBinding q with
    | error e =>
      rw [ofPairs_concat_of_error hq]
      rcases List.mem_append.mp hp with hp | hp
      · exact ih hp
      · rw [List.mem_singleton.mp hp, hq] at h
        cases h
    | ok r =>
      obtain ⟨k', c'⟩ := r
      rw [lookup_ofPairs_concat_of_ok hq]
      split
      · rfl
      · next hk =>
        rcases List.mem_append.mp hp with hp | hp
        · exact ih hp
        · -- the last pair reads as another key, so it is not `p`
          rw [List.mem_singleton.mp hp, hq] at h
          cases h
          exact absurd rfl hk

/-- Without conflicts, a key is bound to a command exactly when some entry reads as both. -/
theorem lookup_ofPairs_iff {B : List (String × String)} (hB : ¬ Conflicts B) (k : Key)
    (c : LineCommand) :
    (ofPairs B).lookup k = some c ↔ ∃ p ∈ B, readBinding p = .ok (k, c) := by
  constructor
  · exact exists_of_lookup_ofPairs
  · rintro ⟨p, hp, hread⟩
    obtain ⟨c', hc'⟩ := Option.isSome_iff_exists.mp (lookup_ofPairs_isSome hp hread)
    obtain ⟨q, hq, hread'⟩ := exists_of_lookup_ofPairs hc'
    -- the entry the keymap kept and `p` read as one key, so they name one command
    have hsame : c' = c := by
      by_cases hne : c' = c
      · exact hne
      · obtain ⟨hqk, hqc⟩ := readBinding_eq_ok.mp hread'
        obtain ⟨hpk, hpc⟩ := readBinding_eq_ok.mp hread
        exact absurd ⟨q, hq, p, hp, k, c', c, hqk, hpk, hqc, hpc, hne⟩ hB
    rw [hc', hsame]

/-- Reordering the table keeps its entries, and so its conflicts. -/
theorem Conflicts.of_perm {B B' : List (String × String)} (hperm : B'.Perm B)
    (h : Conflicts B') : Conflicts B := by
  obtain ⟨p, hp, q, hq, rest⟩ := h
  exact ⟨p, hperm.mem_iff.mp hp, q, hperm.mem_iff.mp hq, rest⟩

/-- Without conflicts, every order of the table gives the same lookup. -/
theorem lookup_ofPairs_perm {B B' : List (String × String)} (hB : ¬ Conflicts B)
    (hperm : B'.Perm B) : (ofPairs B').lookup = (ofPairs B).lookup := by
  have hB' : ¬ Conflicts B' := fun h => hB (h.of_perm hperm)
  funext k
  apply Option.ext
  intro c
  rw [lookup_ofPairs_iff hB' k c, lookup_ofPairs_iff hB k c]
  constructor
  · rintro ⟨p, hp, hread⟩
    exact ⟨p, hperm.mem_iff.mp hp, hread⟩
  · rintro ⟨p, hp, hread⟩
    exact ⟨p, hperm.mem_iff.mpr hp, hread⟩

/-- The order in which an entry that reads is taken last: the rest of the table, then it. -/
theorem perm_erase_concat {B : List (String × String)} {p : String × String} (hp : p ∈ B) :
    (B.erase p ++ [p]).Perm B :=
  (List.perm_append_singleton p (B.erase p)).trans (List.perm_cons_erase hp).symm

/-- Two conflicting entries each decide their key when taken last, so two orders of the table
give different lookups. -/
theorem Conflicts.order_matters {B : List (String × String)} (h : Conflicts B) :
    ∃ π₁ π₂, π₁.Perm B ∧ π₂.Perm B ∧ (ofPairs π₁).lookup ≠ (ofPairs π₂).lookup := by
  obtain ⟨p, hp, q, hq, k, c₁, c₂, hpk, hqk, hpc, hqc, hne⟩ := h
  have hp' : readBinding p = .ok (k, c₁) := readBinding_eq_ok.mpr ⟨hpk, hpc⟩
  have hq' : readBinding q = .ok (k, c₂) := readBinding_eq_ok.mpr ⟨hqk, hqc⟩
  refine ⟨B.erase p ++ [p], B.erase q ++ [q], perm_erase_concat hp, perm_erase_concat hq, ?_⟩
  intro heq
  have hk := congrFun heq k
  rw [lookup_ofPairs_concat_of_ok hp', lookup_ofPairs_concat_of_ok hq', if_pos rfl,
    if_pos rfl] at hk
  exact hne (Option.some.inj hk)

/-- The keymap of a binding table does not depend on the order the table is walked in exactly
when no two entries read as one key with different commands. Then a key is bound to a
command exactly when some entry reads as both; and, in every order, entries whose key or
command does not read never change the keymap. -/
theorem ofPairs_lookup_order_free (B : List (String × String)) :
    ((∀ π, π.Perm B → (ofPairs π).lookup = (ofPairs B).lookup) ↔ ¬ Conflicts B) ∧
      (¬ Conflicts B → ∀ k c, (ofPairs B).lookup k = some c ↔
        ∃ p ∈ B, Key.parse p.1 = .ok k ∧ LineCommand.parse p.2 = .ok c) ∧
      ∀ π, π.Perm B → ofPairs (π.filter fun p => (readBinding p).toBool) = ofPairs π := by
  refine ⟨⟨?_, fun hB π hπ => lookup_ofPairs_perm hB hπ⟩, ?_, fun π _ => ofPairs_filter_reads π⟩
  · -- two orders that differ cannot both agree with the table's own order
    intro hsame hconf
    obtain ⟨π₁, π₂, h₁, h₂, hne⟩ := hconf.order_matters
    exact hne ((hsame π₁ h₁).trans (hsame π₂ h₂).symm)
  · intro hB k c
    rw [lookup_ofPairs_iff hB k c]
    simp only [readBinding_eq_ok]

end Keymap

end StackCalc.Edit
