import Mathlib.Data.List.Nodup
import StackCalc.Front.Program

/-!
# Layers of the configuration

The configuration is built in layers: the built-in defaults, then the file that
`--config` names, then the command line's options, and it is checked last. A layer sets
its settings and bindings over those below it, key by key.

The document reader is a parameter of merging. The layering laws hold for any reader that
refuses a text or gives tables that are maps, each key at most once: merging such a document
overrides the configuration's tables entry-wise with them (`mergeDocument_overrides`).
Merging is atomic: a text the reader refuses, or a file that cannot be read, merges nothing
and reports the fault. The library's own reader `Document.read?` is such a reader
(`read?_keys_distinct`), as every entry is added through `addEntry`, which refuses a key
already there; so the laws hold of the program's runs (`config_layers_override_read?`).

Main statement (`config_layers_override`): merging a text fails exactly when the reader
refuses it and otherwise overrides entry-wise; merging a file merges its text, and reports a
file that cannot be read; and after the layering of a run that validates, every setting is
the command line's value, else the file's, else the default, and the prompt, history size
and width read back exactly the value stored, never a default in its place.
-/

namespace StackCalc.Config

namespace Document

/-- Adding an entry keeps the keys distinct, as a key already there is refused. -/
theorem addEntry_keys {entries e : List (String × Setting)} {k : String} {v : Setting}
    (h : (entries.map (·.1)).Nodup) (he : addEntry entries k v = some e) :
    (e.map (·.1)).Nodup := by
  unfold addEntry at he
  split at he
  · cases he
  · next hnot =>
    cases he
    have hk : ∀ x ∈ entries, x.1 ≠ k := by
      intro x hx hxk
      exact hnot (List.any_eq_true.mpr ⟨x, hx, by simp [hxk]⟩)
    rw [List.map_append, List.map_singleton]
    exact List.nodup_append.mpr ⟨h, List.nodup_singleton k, by simpa using hk⟩

theorem inlineEntries_keys {fuel : Nat} {acc e : List (String × Setting)} {cs r : List Char}
    (h : (acc.map (·.1)).Nodup) (he : inlineEntries fuel acc cs = some (e, r)) :
    (e.map (·.1)).Nodup := by
  induction fuel generalizing acc cs with
  | zero => cases he
  | succ fuel ih =>
    unfold inlineEntries at he
    split at he
    · split at he
      · cases he
        exact h
      · cases he
    · obtain ⟨⟨ks, r₁⟩, -, he⟩ := Option.bind_eq_some_iff.mp he
      dsimp only at he
      split at he
      · simp only [Option.bind_eq_bind, Option.bind_some] at he
        split at he
        · obtain ⟨⟨v, r₃⟩, -, he⟩ := Option.bind_eq_some_iff.mp he
          dsimp only at he
          obtain ⟨acc', hacc', he⟩ := Option.bind_eq_some_iff.mp he
          have hkeys := addEntry_keys h hacc'
          split at he
          · exact ih hkeys he
          · cases he
            exact hkeys
          · cases he
        · cases he
      · cases he

namespace State

/-- Each table read so far gives a key at most once. -/
def KeysDistinct (s : State) : Prop :=
  ∀ p, ((s.part p).entries.map (·.1)).Nodup

theorem part_setPart (s : State) (p q : Part) (t : PartState) :
    (s.setPart p t).part q = if q = p then t else s.part q := by
  cases p <;> cases q <;> simp [setPart, part]

theorem KeysDistinct.setPart {s : State} (h : s.KeysDistinct) {p : Part} {t : PartState}
    (ht : (t.entries.map (·.1)).Nodup) : (s.setPart p t).KeysDistinct := by
  intro q
  rw [part_setPart]
  split
  · exact ht
  · exact h q

theorem KeysDistinct.openTable {s s' : State} (h : s.KeysDistinct) {p : Part}
    (ho : s.openTable p = some s') : s'.KeysDistinct := by
  unfold State.openTable at ho
  split at ho
  · cases ho
    exact KeysDistinct.setPart h (h p)
  · cases ho

theorem KeysDistinct.addTo {s s' : State} (h : s.KeysDistinct) {p : Part} {o : Origin}
    {k : String} {v : Setting} (ha : s.addTo p o k v = some s') : s'.KeysDistinct := by
  unfold State.addTo at ha
  dsimp only at ha
  split at ha
  · cases ha
  · obtain ⟨entries, hentries, ha⟩ := Option.bind_eq_some_iff.mp ha
    cases ha
    exact KeysDistinct.setPart h (addEntry_keys (h p) hentries)

theorem KeysDistinct.setInline {s s' : State} (h : s.KeysDistinct) {p : Part}
    {entries : List (String × Setting)} (he : (entries.map (·.1)).Nodup)
    (hs : s.setInline p entries = some s') : s'.KeysDistinct := by
  unfold State.setInline at hs
  split at hs
  · cases hs
    exact KeysDistinct.setPart h he
  · cases hs

end State

theorem header_keys {s s' : State} {cs r : List Char} (h : s.KeysDistinct)
    (hh : header s cs = some (s', r)) : s'.KeysDistinct := by
  unfold header at hh
  obtain ⟨⟨ks, r₁⟩, -, hh⟩ := Option.bind_eq_some_iff.mp hh
  dsimp only at hh
  split at hh
  · simp only [Option.bind_eq_bind, Option.bind_some] at hh
    split at hh
    · obtain ⟨p, -, hh⟩ := Option.bind_eq_some_iff.mp hh
      obtain ⟨s₁, hs₁, hh⟩ := Option.bind_eq_some_iff.mp hh
      cases hh
      exact h.openTable hs₁
    · simp at hh
  · simp at hh

theorem keyValue_keys {s s' : State} {cs r : List Char} (h : s.KeysDistinct)
    (hk : keyValue s cs = some (s', r)) : s'.KeysDistinct := by
  unfold keyValue at hk
  obtain ⟨⟨ks, r₁⟩, -, hk⟩ := Option.bind_eq_some_iff.mp hk
  dsimp only at hk
  split at hk
  · simp only [Option.bind_eq_bind, Option.bind_some] at hk
    split at hk
    · -- a pair under a table header
      obtain ⟨⟨v, r₂⟩, -, hk⟩ := Option.bind_eq_some_iff.mp hk
      obtain ⟨s₁, hs₁, hk⟩ := Option.bind_eq_some_iff.mp hk
      cases hk
      exact h.addTo hs₁
    · -- an inline table for a whole table
      obtain ⟨p, -, hk⟩ := Option.bind_eq_some_iff.mp hk
      obtain ⟨⟨entries, r₂⟩, hentries, hk⟩ := Option.bind_eq_some_iff.mp hk
      obtain ⟨s₁, hs₁, hk⟩ := Option.bind_eq_some_iff.mp hk
      cases hk
      exact h.setInline (inlineEntries_keys (by simp) hentries) hs₁
    · -- a date for a whole table
      split at hk
      · obtain ⟨p, -, hk⟩ := Option.bind_eq_some_iff.mp hk
        obtain ⟨⟨dt, r₂⟩, -, hk⟩ := Option.bind_eq_some_iff.mp hk
        obtain ⟨s₁, hs₁, hk⟩ := Option.bind_eq_some_iff.mp hk
        cases hk
        exact h.setInline (by simp) hs₁
      · cases hk
    · -- a dotted pair at the top of the document
      obtain ⟨p, -, hk⟩ := Option.bind_eq_some_iff.mp hk
      obtain ⟨⟨v, r₂⟩, -, hk⟩ := Option.bind_eq_some_iff.mp hk
      obtain ⟨s₁, hs₁, hk⟩ := Option.bind_eq_some_iff.mp hk
      cases hk
      exact h.addTo hs₁
    · cases hk
  · simp at hk

theorem items_keys {fuel : Nat} {s s' : State} {cs : List Char} (h : s.KeysDistinct)
    (hi : items fuel s cs = some s') : s'.KeysDistinct := by
  induction fuel generalizing s cs with
  | zero => cases hi
  | succ fuel ih =>
    unfold items at hi
    obtain ⟨rest, -, hi⟩ := Option.bind_eq_some_iff.mp hi
    split at hi
    · cases hi
      exact h
    · cases hi
    · obtain ⟨⟨s₁, r₁⟩, hs₁, hi⟩ := Option.bind_eq_some_iff.mp hi
      obtain ⟨r₂, -, hi⟩ := Option.bind_eq_some_iff.mp hi
      exact ih (header_keys h hs₁) hi
    · obtain ⟨⟨s₁, r₁⟩, hs₁, hi⟩ := Option.bind_eq_some_iff.mp hi
      obtain ⟨r₂, -, hi⟩ := Option.bind_eq_some_iff.mp hi
      exact ih (keyValue_keys h hs₁) hi

theorem bindingsOf_keys {entries : List (String × Setting)} {bs : List (String × String)}
    (h : bindingsOf entries = some bs) : bs.map (·.1) = entries.map (·.1) := by
  induction entries generalizing bs with
  | nil =>
    cases h
    rfl
  | cons e rest ih =>
    unfold bindingsOf at h
    rw [List.mapM_cons] at h
    obtain ⟨b, hb, h⟩ := Option.bind_eq_some_iff.mp h
    obtain ⟨bs', hbs', h⟩ := Option.bind_eq_some_iff.mp h
    cases h
    -- an entry that reads as a binding keeps its key
    have hkey : b.1 = e.1 := by
      split at hb
      · cases hb
        rfl
      · cases hb
    rw [List.map_cons, List.map_cons, hkey, ih hbs']

/-- A configuration document gives each setting and each binding at most once. -/
theorem read?_keys_distinct {text : String} {d : Document} (h : Document.read? text = some d) :
    (d.settings.map (·.1)).Nodup ∧ (d.bindings.map (·.1)).Nodup := by
  unfold Document.read? at h
  obtain ⟨s, hs, h⟩ := Option.bind_eq_some_iff.mp h
  obtain ⟨bs, hbs, h⟩ := Option.bind_eq_some_iff.mp h
  cases h
  have hkeys := items_keys (fun p => by cases p <;> simp [State.part]) hs
  refine ⟨hkeys .settings, ?_⟩
  dsimp only
  rw [bindingsOf_keys hbs]
  exact hkeys .keybindings

end Document

namespace Table

variable {α : Type}

/-- The value of a key in a table that starts with an entry. -/
theorem get?_cons (k₀ : String) (v₀ : α) (t : Table α) (k : String) :
    get? ((k₀, v₀) :: t) k = if k = k₀ then some v₀ else get? t k := by
  unfold get?
  rw [List.find?_cons]
  by_cases h : k = k₀
  · subst h
    simp
  · have hne : (k₀ == k) = false := beq_eq_false_iff_ne.mpr (Ne.symm h)
    simp [hne, h]

/-- A key that no entry has has no value. -/
theorem get?_eq_none {t : Table α} {k : String} (h : k ∉ t.map (·.1)) : get? t k = none := by
  induction t with
  | nil => rfl
  | cons e t ih =>
    obtain ⟨k₀, v₀⟩ := e
    have hk : k ≠ k₀ := fun hk => h (by simp [hk])
    rw [get?_cons, if_neg hk]
    exact ih (fun hm => h (List.mem_cons_of_mem _ hm))

/-- Setting a key gives it the value and leaves every other key's value, in every table. -/
theorem get?_insert (t : Table α) (k k' : String) (v : α) :
    get? (t.insert k v) k' = if k' = k then some v else get? t k' := by
  induction t with
  | nil =>
    unfold insert
    rw [get?_cons]
  | cons e t ih =>
    obtain ⟨k₀, v₀⟩ := e
    unfold insert
    by_cases hlt : k < k₀
    · -- the key goes in front
      rw [if_pos hlt, get?_cons, get?_cons]
    · rw [if_neg hlt]
      by_cases heq : k = k₀
      · -- the key's value is replaced
        subst heq
        rw [if_pos rfl, get?_cons, get?_cons]
        by_cases hk : k' = k <;> simp [hk]
      · -- the key goes further on
        rw [if_neg heq, get?_cons, ih, get?_cons]
        by_cases hk : k' = k
        · subst hk
          simp [heq]
        · simp [hk]

/-- Setting the entries of a map, each key once, over a table: each key takes the map's value
if it has one, and keeps the table's otherwise. -/
theorem get?_insertAll (t : Table α) (pairs : List (String × α))
    (h : (pairs.map (·.1)).Nodup) (k : String) :
    get? (t.insertAll pairs) k = (get? pairs k).or (get? t k) := by
  induction pairs generalizing t with
  | nil => rfl
  | cons p pairs ih =>
    obtain ⟨k₀, v₀⟩ := p
    rw [List.map_cons, List.nodup_cons] at h
    unfold insertAll
    rw [List.foldl_cons]
    rw [show pairs.foldl (fun t p => t.insert p.1 p.2) (t.insert k₀ v₀) =
      (t.insert k₀ v₀).insertAll pairs from rfl, ih _ h.2, get?_insert, get?_cons]
    by_cases hk : k = k₀
    · -- the map's own entry for the key is its only one
      subst hk
      rw [if_pos rfl, if_pos rfl, get?_eq_none h.1]
      rfl
    · rw [if_neg hk, if_neg hk]

end Table

/-- The tables of `c'` are those of `c` overridden entry-wise by the tables of the document. -/
def Overrides (c' c : Config) (d : Document) : Prop :=
  ∀ k, c'.get? k = (Table.get? d.settings k).or (c.get? k) ∧
    Table.get? c'.bindings k = (Table.get? d.bindings k).or (Table.get? c.bindings k)

/-- Merging a document whose tables are maps overrides the configuration with them
entry-wise. -/
theorem mergeDocument_overrides (c : Config) {d : Document}
    (hkeys : (d.settings.map (·.1)).Nodup ∧ (d.bindings.map (·.1)).Nodup) :
    Overrides (c.mergeDocument d) c d := by
  intro k
  exact ⟨Table.get?_insertAll _ _ hkeys.1 k, Table.get?_insertAll _ _ hkeys.2 k⟩

section Reader

/-! ## Merging with a reader whose tables are maps

The document reader is a parameter. What merging needs of it is that the tables of a document
it reads give each key at most once, as the maps a document is read into do. -/

variable {readDocument : String → Option Document}

/-- Merging a text fails exactly on a text the reader refuses, and otherwise overrides the
configuration entry-wise with the document's tables. -/
theorem mergeText?_overrides (c : Config)
    (hmaps : ∀ t d, readDocument t = some d →
      (d.settings.map (·.1)).Nodup ∧ (d.bindings.map (·.1)).Nodup) (t : String) :
    (c.mergeText? readDocument t = none ↔ readDocument t = none) ∧
      ∀ c', c.mergeText? readDocument t = some c' →
        ∃ d, readDocument t = some d ∧ Overrides c' c d := by
  unfold mergeText?
  constructor
  · exact Option.map_eq_none_iff
  · intro c' h
    obtain ⟨d, hd, rfl⟩ := Option.map_eq_some_iff.mp h
    exact ⟨d, hd, mergeDocument_overrides c (hmaps t d hd)⟩

/-- Merging a file merges its text when it can be read, and reports it otherwise. -/
theorem mergeFile_eq_ok (c : Config) (read : String → Except ReadFault String) (path : String)
    (c' : Config) :
    c.mergeFile readDocument read path = .ok c' ↔
      ∃ text, read path = .ok text ∧ c.mergeText? readDocument text = some c' := by
  unfold mergeFile
  cases hread : read path with
  | error f =>
    constructor
    · intro h
      cases h
    · rintro ⟨_, h, _⟩
      cases h
  | ok text =>
    dsimp only
    split
    · next c'' hmerge =>
      constructor
      · intro h
        cases h
        exact ⟨text, rfl, hmerge⟩
      · rintro ⟨_, ⟨⟩, h⟩
        rw [hmerge] at h
        cases h
        rfl
    · next hmerge =>
      constructor
      · intro h
        cases h
      · rintro ⟨_, ⟨⟩, h⟩
        rw [hmerge] at h
        cases h

/-- A file that cannot be read is reported with its path and the fault, and nothing merges. -/
theorem mergeFile_unreadable (c : Config) {read : String → Except ReadFault String}
    {path : String} {f : ReadFault} (h : read path = .error f) :
    c.mergeFile readDocument read path = .error (.unreadable path f) := by
  unfold mergeFile
  rw [h]

end Reader

/-- Setting a key gives it the value and leaves every other setting. -/
theorem get?_set (c : Config) (k k' : String) (v : Setting) :
    (c.set k v).get? k' = if k' = k then some v else c.get? k' :=
  Table.get?_insert _ _ _ _

/-- A count that passes its check is absent, or an integer that is not negative. -/
theorem checkCount_ok {c : Config} {k : String} (h : c.checkCount k = .ok ()) (v : Setting)
    (hv : c.get? k = some v) : ∃ i, v = .int i ∧ 0 ≤ i := by
  unfold checkCount at h
  rw [hv] at h
  cases v with
  | int i =>
    refine ⟨i, rfl, ?_⟩
    by_cases hi : 0 ≤ i
    · exact hi
    · dsimp only at h
      rw [if_neg hi] at h
      cases h
  | bool b => cases h
  | string s => cases h

/-- A prompt that passes its check is absent, or a text. -/
theorem checkPrompt_ok {c : Config} (h : c.checkPrompt = .ok ()) (v : Setting)
    (hv : c.get? promptKey = some v) : ∃ s, v = .string s := by
  unfold checkPrompt at h
  rw [hv] at h
  cases v with
  | string s => exact ⟨s, rfl⟩
  | bool b => cases h
  | int i => cases h

/-- A count stored as an integer that is not negative reads as itself. -/
theorem getCount?_of_get? {c : Config} {k : String} {i : Int} (hv : c.get? k = some (.int i))
    (hi : 0 ≤ i) : c.getCount? k = some i.toNat := by
  unfold getCount? getInt?
  rw [hv]
  dsimp only
  rw [if_pos hi]

/-- A configuration that validates reads its prompt, history size and width as they are
stored: no stored value gives way to a default. -/
theorem validate_reads_stored {c : Config} (h : c.validate = .ok ()) :
    (∀ v, c.get? promptKey = some v → v = .string c.prompt) ∧
      (∀ v, c.get? historySizeKey = some v → v = .int c.historySize) ∧
      (∀ v, c.get? widthKey = some v → v = .int c.width) := by
  unfold validate at h
  obtain ⟨_, hhistory, h⟩ := bind_eq_ok.mp h
  obtain ⟨_, hwidth, hprompt⟩ := bind_eq_ok.mp h
  refine ⟨fun v hv => ?_, fun v hv => ?_, fun v hv => ?_⟩
  · obtain ⟨s, rfl⟩ := checkPrompt_ok hprompt v hv
    unfold prompt getString?
    rw [hv]
    rfl
  · -- a count read back is the integer stored, as it is not negative
    obtain ⟨i, rfl, hi⟩ := checkCount_ok hhistory v hv
    unfold historySize
    rw [getCount?_of_get? hv hi, Option.getD_some, Int.toNat_of_nonneg hi]
  · obtain ⟨i, rfl, hi⟩ := checkCount_ok hwidth v hv
    unfold width
    rw [getCount?_of_get? hv hi, Option.getD_some, Int.toNat_of_nonneg hi]

end StackCalc.Config

namespace StackCalc.Cli

open Config

/-- The setting the command line gives for a key: the prompt as a text, and the history size
and the width as integers capped at the largest a setting holds. -/
def Options.setting? (o : Options) (k : String) : Option Setting :=
  if k = promptKey then o.prompt.map .string
  else if k = historySizeKey then o.historySize.map fun n => .int (min n maxSettingInt)
  else if k = widthKey then o.width.map fun n => .int (min n maxSettingInt)
  else none

/-- The command line's options are set over the configuration, each on its own key. -/
theorem Options.get?_applyTo (o : Options) (c : Config) (k : String) :
    (o.applyTo c).get? k = (o.setting? k).or (c.get? k) := by
  have hph : promptKey ≠ historySizeKey := by decide
  have hpw : promptKey ≠ widthKey := by decide
  have hhw : historySizeKey ≠ widthKey := by decide
  obtain ⟨expression, line, tui, prompt, historySize, width, config, verbose⟩ := o
  unfold applyTo setting?
  by_cases hp : k = promptKey
  · subst hp
    cases prompt <;> cases historySize <;> cases width <;>
      simp [get?_set, hph, hpw, Setting.ofCount]
  · by_cases hh : k = historySizeKey
    · subst hh
      cases prompt <;> cases historySize <;> cases width <;>
        simp [get?_set, hph.symm, hhw, Setting.ofCount]
    · by_cases hw : k = widthKey
      · subst hw
        cases prompt <;> cases historySize <;> cases width <;>
          simp [get?_set, hpw.symm, hhw.symm, Setting.ofCount]
      · cases prompt <;> cases historySize <;> cases width <;>
          simp [get?_set, hp, hh, hw]

end StackCalc.Cli

namespace StackCalc.Front

open Config

variable {readDocument : String → Option Document}

/-- A run's configuration, when it validates, is the command line's options set over the
defaults, or over the defaults with the file `--config` names merged. -/
theorem runConfig_eq_ok {o : Cli.Options} {read : String → Except ReadFault String}
    {c : Config} (h : runConfig readDocument o read = .ok c) :
    ∃ c₁, (o.config = none ∧ c₁ = Config.defaults ∨
        ∃ path, o.config = some path ∧
          Config.defaults.mergeFile readDocument read path = .ok c₁) ∧
      c = o.applyTo c₁ ∧ c.validate = .ok () := by
  unfold runConfig at h
  dsimp only at h
  split at h
  · next path hpath =>
    obtain ⟨c₁, h₁, h⟩ := bind_eq_ok.mp h
    obtain ⟨_, hvalid, h⟩ := bind_eq_ok.mp h
    cases h
    exact ⟨c₁, Or.inr ⟨path, hpath, h₁⟩, rfl, hvalid⟩
  · next hnone =>
    obtain ⟨c₁, h₁, h⟩ := bind_eq_ok.mp h
    obtain ⟨_, hvalid, h⟩ := bind_eq_ok.mp h
    cases h₁
    cases h
    exact ⟨Config.defaults, Or.inl ⟨hnone, rfl⟩, rfl, hvalid⟩

/-- After the layering of a run that validates, every setting is the command line's value,
else the value in the file `--config` names, else the default; and the prompt, history size
and width read back exactly the value stored for them, which is there for each, as the
defaults hold all three. -/
theorem runConfig_precedence {o : Cli.Options} {read : String → Except ReadFault String}
    (hmaps : ∀ t d, readDocument t = some d →
      (d.settings.map (·.1)).Nodup ∧ (d.bindings.map (·.1)).Nodup)
    {c : Config} (h : runConfig readDocument o read = .ok c) :
    ∃ file : Table Setting,
      (o.config = none → file = []) ∧
      (∀ path, o.config = some path → ∃ text d, read path = .ok text ∧
        readDocument text = some d ∧ file = d.settings) ∧
      (∀ k, c.get? k = (o.setting? k).or ((Table.get? file k).or (Config.defaults.get? k))) ∧
      c.get? promptKey = some (.string c.prompt) ∧
      c.get? historySizeKey = some (.int c.historySize) ∧
      c.get? widthKey = some (.int c.width) := by
  obtain ⟨c₁, h₁, rfl, hvalid⟩ := runConfig_eq_ok h
  -- the file layer: nothing without `--config`, else the document the file holds
  have hfile : ∃ file : Table Setting, (o.config = none → file = []) ∧
      (∀ path, o.config = some path → ∃ text d, read path = .ok text ∧
        readDocument text = some d ∧ file = d.settings) ∧
      ∀ k, c₁.get? k = (Table.get? file k).or (Config.defaults.get? k) := by
    rcases h₁ with ⟨hnone, rfl⟩ | ⟨path, hpath, hmerge⟩
    · refine ⟨[], fun _ => rfl, fun p hp => ?_, fun _ => rfl⟩
      rw [hnone] at hp
      cases hp
    · obtain ⟨text, hread, htext⟩ := (mergeFile_eq_ok _ _ _ _).mp hmerge
      obtain ⟨d, hd, hover⟩ := (mergeText?_overrides _ hmaps text).2 c₁ htext
      refine ⟨d.settings, fun hp => ?_, fun p hp => ?_, fun k => (hover k).1⟩
      · rw [hpath] at hp
        cases hp
      · rw [hpath] at hp
        cases hp
        exact ⟨text, d, hread, hd, rfl⟩
  obtain ⟨file, hnone, hsome, hlayers⟩ := hfile
  have hlaw : ∀ k, (o.applyTo c₁).get? k =
      (o.setting? k).or ((Table.get? file k).or (Config.defaults.get? k)) := by
    intro k
    rw [Cli.Options.get?_applyTo, hlayers]
  -- a key the defaults hold has a value after every layer
  have hpresent (k : String) (v : Setting) (hk : Config.defaults.get? k = some v) :
      ∃ v', (o.applyTo c₁).get? k = some v' := by
    rw [hlaw, hk]
    cases o.setting? k with
    | some a => exact ⟨a, rfl⟩
    | none =>
      cases Table.get? file k with
      | some b => exact ⟨b, rfl⟩
      | none => exact ⟨v, rfl⟩
  obtain ⟨hprompt, hhistory, hwidth⟩ := validate_reads_stored hvalid
  refine ⟨file, hnone, hsome, hlaw, ?_, ?_, ?_⟩
  · obtain ⟨v, hv⟩ := hpresent promptKey _ rfl
    rw [hv, hprompt v hv]
  · obtain ⟨v, hv⟩ := hpresent historySizeKey _ rfl
    rw [hv, hhistory v hv]
  · obtain ⟨v, hv⟩ := hpresent widthKey _ rfl
    rw [hv, hwidth v hv]

/-- Layering the configuration overrides key by key and is atomic, for any document reader
that refuses a text or reads its tables as maps. Merging a text fails exactly when the reader
refuses it, and otherwise sets the document's settings and bindings over the configuration's,
keeping the keys the document does not give. Merging a file merges its text, and a file that
cannot be read is reported and merges nothing. After the layering of a run that validates
(defaults, the file `--config` names, the command line), every setting is the command line's
value (a count capped at the largest integer a setting holds), else the file's, else the
default, and the prompt, history size and width read back exactly that value. -/
theorem config_layers_override (readDocument : String → Option Document)
    (hmaps : ∀ t d, readDocument t = some d →
      (d.settings.map (·.1)).Nodup ∧ (d.bindings.map (·.1)).Nodup) :
    (∀ (c : Config) (t : String),
      (c.mergeText? readDocument t = none ↔ readDocument t = none) ∧
        ∀ c', c.mergeText? readDocument t = some c' →
          ∃ d, readDocument t = some d ∧ Overrides c' c d) ∧
    (∀ (c : Config) (read : String → Except ReadFault String) (path : String),
      (∀ f, read path = .error f →
        c.mergeFile readDocument read path = .error (.unreadable path f)) ∧
        ∀ c', c.mergeFile readDocument read path = .ok c' ↔
          ∃ text, read path = .ok text ∧ c.mergeText? readDocument text = some c') ∧
    (∀ (o : Cli.Options) (read : String → Except ReadFault String) (c : Config),
      runConfig readDocument o read = .ok c →
      ∃ file : Table Setting,
        (o.config = none → file = []) ∧
        (∀ path, o.config = some path → ∃ text d, read path = .ok text ∧
          readDocument text = some d ∧ file = d.settings) ∧
        (∀ k, c.get? k = (o.setting? k).or ((Table.get? file k).or (Config.defaults.get? k))) ∧
        c.get? promptKey = some (.string c.prompt) ∧
        c.get? historySizeKey = some (.int c.historySize) ∧
        c.get? widthKey = some (.int c.width)) :=
  ⟨fun c => mergeText?_overrides c hmaps,
    fun c read path => ⟨fun _ h => mergeFile_unreadable c h, mergeFile_eq_ok c read path⟩,
    fun _ _ _ h => runConfig_precedence hmaps h⟩

/-- The library's own reader reads tables as maps, so the layering holds of the runs of the
program, which read their configuration files with it. -/
theorem config_layers_override_read? :
    (∀ t d, Document.read? t = some d →
      (d.settings.map (·.1)).Nodup ∧ (d.bindings.map (·.1)).Nodup) ∧
    (∀ (c : Config) (t : String),
      (c.mergeText? Document.read? t = none ↔ Document.read? t = none) ∧
        ∀ c', c.mergeText? Document.read? t = some c' →
          ∃ d, Document.read? t = some d ∧ Overrides c' c d) ∧
    (∀ (c : Config) (read : String → Except ReadFault String) (path : String),
      (∀ f, read path = .error f →
        c.mergeFile Document.read? read path = .error (.unreadable path f)) ∧
        ∀ c', c.mergeFile Document.read? read path = .ok c' ↔
          ∃ text, read path = .ok text ∧ c.mergeText? Document.read? text = some c') ∧
    (∀ (o : Cli.Options) (read : String → Except ReadFault String) (c : Config),
      runConfig Document.read? o read = .ok c →
      ∃ file : Table Setting,
        (o.config = none → file = []) ∧
        (∀ path, o.config = some path → ∃ text d, read path = .ok text ∧
          Document.read? text = some d ∧ file = d.settings) ∧
        (∀ k, c.get? k = (o.setting? k).or ((Table.get? file k).or (Config.defaults.get? k))) ∧
        c.get? promptKey = some (.string c.prompt) ∧
        c.get? historySizeKey = some (.int c.historySize) ∧
        c.get? widthKey = some (.int c.width)) :=
  ⟨fun _ _ h => Document.read?_keys_distinct h,
    config_layers_override Document.read? fun _ _ h => Document.read?_keys_distinct h⟩

end StackCalc.Front
