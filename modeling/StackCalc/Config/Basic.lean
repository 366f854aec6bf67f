import StackCalc.Text.Quoted

/-!
# Settings and bindings

A configuration is a table of settings, each a flag, an integer or a text, and a table of
key bindings from key notation to command name. Both tables are kept in increasing order of
key, each key once, so that setting a key again replaces its value.

Three settings have a meaning: `prompt` (a text), `history_size` and `width` (integers that
are not negative). Validation checks them in that order and reports the first bad one;
reading one that is missing or bad gives its default.
-/

namespace StackCalc.Config

/-- A setting's value. -/
inductive Setting where
  | bool (b : Bool)
  | int (i : Int)
  | string (s : String)
  deriving Repr, DecidableEq, Inhabited

/-- The largest integer a setting holds: `2 ^ 63 - 1`. -/
def maxSettingInt : Nat := Nat.pow 2 63 - 1

/-- A count as a setting, capped at the largest integer a setting holds. -/
def Setting.ofCount (n : Nat) : Setting :=
  .int (min n maxSettingInt)

/-- How a setting is shown in a message: `Bool(true)`, `Int(3)`, `String("w")`. -/
def Setting.describe : Setting → String
  | .bool b => "Bool(" ++ (if b then "true" else "false") ++ ")"
  | .int i => "Int(" ++ toString i ++ ")"
  | .string s => "String(" ++ Text.quote s ++ ")"

/-- A table from text keys, in increasing order of key, each key once. -/
abbrev Table (α : Type) := List (String × α)

namespace Table

/-- Sets a key, replacing its value if it has one and keeping the order. -/
def insert {α : Type} : Table α → String → α → Table α
  | [], k, v => [(k, v)]
  | (k', v') :: rest, k, v =>
    if k < k' then (k, v) :: (k', v') :: rest
    else if k = k' then (k, v) :: rest
    else (k', v') :: insert rest k v

/-- The value of a key. -/
def get? {α : Type} (t : Table α) (k : String) : Option α :=
  (t.find? (·.1 == k)).map (·.2)

/-- Sets the keys of pairs in order; of two pairs for one key the later wins. -/
def insertAll {α : Type} (t : Table α) (pairs : List (String × α)) : Table α :=
  pairs.foldl (fun t p => t.insert p.1 p.2) t

end Table

/-- The setting keys that have a meaning. -/
def promptKey : String := "prompt"
def historySizeKey : String := "history_size"
def widthKey : String := "width"

/-- The prompt unless one is set. -/
def defaultPrompt : String := "> "
/-- The number of history lines kept unless one is set. -/
def defaultHistorySize : Nat := 50
/-- The width of the visible line unless one is set. -/
def defaultWidth : Nat := 42

/-- Why a file could not be read. -/
inductive ReadFault where
  /-- No file or directory has the path. -/
  | notFound
  /-- The path names a directory. -/
  | isDirectory
  /-- The path goes through a file as if it were a directory. -/
  | notDirectory
  /-- The path, or one name in it, is longer than the system takes. -/
  | nameTooLong
  /-- The path holds a NUL character, which no system path can hold. -/
  | nulByte
  /-- The file's bytes are not text in UTF-8. -/
  | invalidUtf8
  deriving Repr, DecidableEq, Inhabited

/-- The system's text for a read fault. -/
def ReadFault.message : ReadFault → String
  | .notFound => "No such file or directory (os error 2)"
  | .isDirectory => "Is a directory (os error 21)"
  | .notDirectory => "Not a directory (os error 20)"
  | .nameTooLong => "File name too long (os error 36)"
  | .nulByte => "file name contained an unexpected NUL byte"
  | .invalidUtf8 => "stream did not contain valid UTF-8"

/-- Why a setting is refused. -/
inductive InvalidReason where
  /-- A count below zero. -/
  | negative (i : Int)
  /-- A count that is not an integer. -/
  | notInteger (v : Setting)
  /-- A prompt that is not a text. -/
  | notString (v : Setting)
  deriving Repr, DecidableEq, Inhabited

/-- The text of a refusal. -/
def InvalidReason.message : InvalidReason → String
  | .negative i => toString i ++ " is negative"
  | .notInteger v => "expected an integer, got " ++ v.describe
  | .notString v => "expected a string, got " ++ v.describe

/-- Why a configuration could not be built. -/
inductive ConfigError where
  /-- The file could not be read. -/
  | unreadable (path : String) (fault : ReadFault)
  /-- The file is not a configuration document. -/
  | malformed (path : String)
  /-- A setting has a value it cannot have. -/
  | invalid (key : String) (reason : InvalidReason)
  deriving Repr, DecidableEq, Inhabited

/-- The text of a configuration error. A malformed document is reported without detail. -/
def ConfigError.message : ConfigError → String
  | .unreadable path fault => "cannot read config file " ++ path ++ ": " ++ fault.message
  | .malformed path => "invalid config file " ++ path ++ ": <toml error>"
  | .invalid key reason => "invalid value for `" ++ key ++ "`: " ++ reason.message

end StackCalc.Config

namespace StackCalc

/-- Settings and key bindings. -/
structure Config where
  settings : Config.Table Config.Setting
  /-- Key notation to command name. -/
  bindings : Config.Table String
  deriving Repr, Inhabited

namespace Config

/-- The configuration with nothing set. -/
def empty : Config := ⟨[], []⟩

/-- Sets a setting. -/
def set (c : Config) (k : String) (v : Setting) : Config :=
  { c with settings := c.settings.insert k v }

/-- Binds key notation to a command name. -/
def bind (c : Config) (key command : String) : Config :=
  { c with bindings := c.bindings.insert key command }

/-- The value of a setting. -/
def get? (c : Config) (k : String) : Option Setting := c.settings.get? k

/-- A flag setting. -/
def getBool? (c : Config) (k : String) : Option Bool :=
  match c.get? k with
  | some (.bool b) => some b
  | _ => none

/-- An integer setting. -/
def getInt? (c : Config) (k : String) : Option Int :=
  match c.get? k with
  | some (.int i) => some i
  | _ => none

/-- A text setting. -/
def getString? (c : Config) (k : String) : Option String :=
  match c.get? k with
  | some (.string s) => some s
  | _ => none

/-- A count setting: an integer that is not negative. -/
def getCount? (c : Config) (k : String) : Option Nat :=
  match c.getInt? k with
  | some i => if 0 ≤ i then some i.toNat else none
  | none => none

/-- The prompt. -/
def prompt (c : Config) : String := (c.getString? promptKey).getD defaultPrompt

/-- The number of history lines kept. -/
def historySize (c : Config) : Nat := (c.getCount? historySizeKey).getD defaultHistorySize

/-- The width of the visible line. -/
def width (c : Config) : Nat := (c.getCount? widthKey).getD defaultWidth

/-- Checks a count setting. -/
def checkCount (c : Config) (k : String) : Except ConfigError Unit :=
  match c.get? k with
  | none => .ok ()
  | some (.int i) => if 0 ≤ i then .ok () else .error (.invalid k (.negative i))
  | some v => .error (.invalid k (.notInteger v))

/-- Checks the prompt setting. -/
def checkPrompt (c : Config) : Except ConfigError Unit :=
  match c.get? promptKey with
  | none => .ok ()
  | some (.string _) => .ok ()
  | some v => .error (.invalid promptKey (.notString v))

/-- Checks the settings with a meaning, `history_size`, then `width`, then `prompt`. -/
def validate (c : Config) : Except ConfigError Unit := do
  c.checkCount historySizeKey
  c.checkCount widthKey
  c.checkPrompt

end Config

end StackCalc
