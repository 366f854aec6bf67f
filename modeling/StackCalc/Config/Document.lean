import StackCalc.Config.Basic
import StackCalc.Config.DateTime

/-!
# Configuration documents

A configuration document is a TOML document with at most two tables, `settings` and
`keybindings`. A setting is a boolean, an integer that fits in 64 bits, or a string; a
binding is a string. Reading accepts exactly the TOML documents of that shape and refuses
every other text: other keys, other kinds of values (floats, dates, arrays, nested tables),
a table or key given twice, and anything outside the TOML grammar. A date or time given for
a whole table is seen as a table of one string entry, its canonical text under the key
`dateTimeKey`, so `settings = 1979-05-27` sets that key to the string `1979-05-27`.

The grammar is that of TOML 1.0: comments, bare, quoted and dotted keys, table headers,
inline tables, basic and literal strings on one line or several, decimal integers with
optional sign and underscores between digits, and hexadecimal, octal and binary integers.
-/

namespace StackCalc.Config

namespace Document

/-- Skips spaces and tabs. -/
def skipSpaces : List Char → List Char
  | ' ' :: cs => skipSpaces cs
  | '\t' :: cs => skipSpaces cs
  | cs => cs

theorem length_skipSpaces_le (cs : List Char) : (skipSpaces cs).length ≤ cs.length := by
  induction cs with
  | nil => simp [skipSpaces]
  | cons c cs ih =>
    unfold skipSpaces
    split <;> simp_all <;> omega

/-- Whether a character may stand in a comment: a tab, or any character but the ASCII
controls and delete. -/
def isCommentChar (c : Char) : Bool :=
  c == '\t' || (0x20 ≤ c.toNat && c.toNat != 0x7F)

/-- Skips blank lines, comments and the spaces before the next item; `none` on a character a
comment may not hold. The flag says whether a comment is open. -/
def skipTrivia : Bool → List Char → Option (List Char)
  | _, [] => some []
  | _, '\n' :: r => skipTrivia false r
  | _, '\r' :: '\n' :: r => skipTrivia false r
  | true, c :: r => if isCommentChar c then skipTrivia true r else none
  | false, ' ' :: r => skipTrivia false r
  | false, '\t' :: r => skipTrivia false r
  | false, '#' :: r => skipTrivia true r
  | false, cs => some cs

/-- Ends the line of an item: spaces, a comment, then a line break or the end of the text;
returns the text after the line break. The flag says whether a comment is open. -/
def lineEnd : Bool → List Char → Option (List Char)
  | _, [] => some []
  | _, '\n' :: r => some r
  | _, '\r' :: '\n' :: r => some r
  | true, c :: r => if isCommentChar c then lineEnd true r else none
  | false, ' ' :: r => lineEnd false r
  | false, '\t' :: r => lineEnd false r
  | false, '#' :: r => lineEnd true r
  | false, _ => none

/-- Whether a character may stand in a string: the same characters as in a comment. -/
def isStringChar (c : Char) : Bool :=
  isCommentChar c

/-- The value of hexadecimal digits. -/
def hexValue? (cs : List Char) : Option Nat :=
  cs.foldlM (fun acc c =>
    if c.isDigit then some (16 * acc + (c.toNat - '0'.toNat))
    else if 'a' ≤ c ∧ c ≤ 'f' then some (16 * acc + (c.toNat - 'a'.toNat + 10))
    else if 'A' ≤ c ∧ c ≤ 'F' then some (16 * acc + (c.toNat - 'A'.toNat + 10))
    else none) 0

/-- The character of a Unicode escape, if its code point is a scalar value. -/
def escapedChar? (cs : List Char) : Option Char := do
  let n ← hexValue? cs
  if n < 0xD800 ∨ (0xDFFF < n ∧ n ≤ 0x10FFFF) then some (Char.ofNat n) else none

/-- The one-letter escapes of basic strings. -/
def simpleEscape? : Char → Option Char
  | 'b' => some (Char.ofNat 8)
  | 't' => some '\t'
  | 'n' => some '\n'
  | 'f' => some (Char.ofNat 12)
  | 'r' => some '\r'
  | '"' => some '"'
  | '\\' => some '\\'
  | _ => none

/-- A basic string after its opening quote, with the characters read so far reversed. -/
def basicString (acc : List Char) : List Char → Option (String × List Char)
  | [] => none
  | '"' :: r => some (String.ofList acc.reverse, r)
  | '\\' :: 'u' :: a :: b :: c :: d :: r => do
    basicString ((← escapedChar? [a, b, c, d]) :: acc) r
  | '\\' :: 'U' :: a :: b :: c :: d :: e :: f :: g :: h :: r => do
    basicString ((← escapedChar? [a, b, c, d, e, f, g, h]) :: acc) r
  | '\\' :: e :: r => do basicString ((← simpleEscape? e) :: acc) r
  | c :: r => if isStringChar c then basicString (c :: acc) r else none

/-- A literal string after its opening quote. -/
def literalString (acc : List Char) : List Char → Option (String × List Char)
  | [] => none
  | '\'' :: r => some (String.ofList acc.reverse, r)
  | c :: r => if isStringChar c then literalString (c :: acc) r else none

/-- Drops the line break that may follow the opening delimiter of a string on several lines. -/
def dropFirstBreak : List Char → List Char
  | '\n' :: r => r
  | '\r' :: '\n' :: r => r
  | cs => cs

/-- Whether the text after a backslash is blank up to the end of its line. -/
def endsLine (cs : List Char) : Bool :=
  match skipSpaces cs with
  | '\n' :: _ => true
  | '\r' :: '\n' :: _ => true
  | _ => false

/-- A basic string on several lines, after its opening delimiter. While trimming (the flag),
blanks and line breaks after a backslash at the end of a line are dropped. -/
def multilineBasic : Bool → List Char → List Char → Option (String × List Char)
  | _, _, [] => none
  | true, acc, c :: r =>
    if c == ' ' || c == '\t' || c == '\n' then multilineBasic true acc r
    else if c == '\r' then
      match r with
      | '\n' :: r' => multilineBasic true acc r'
      | _ => none
    else multilineBasic false acc (c :: r)
  | false, acc, c :: r =>
    match c, r with
    | '"', '"' :: '"' :: '"' :: '"' :: r' => some (String.ofList ('"' :: '"' :: acc).reverse, r')
    | '"', '"' :: '"' :: '"' :: r' => some (String.ofList ('"' :: acc).reverse, r')
    | '"', '"' :: '"' :: r' => some (String.ofList acc.reverse, r')
    | '\\', r' =>
      if endsLine r' then multilineBasic true acc r'
      else
        match r' with
        | 'u' :: a :: b :: c :: d :: r'' => do
          multilineBasic false ((← escapedChar? [a, b, c, d]) :: acc) r''
        | 'U' :: a :: b :: c :: d :: e :: f :: g :: h :: r'' => do
          multilineBasic false ((← escapedChar? [a, b, c, d, e, f, g, h]) :: acc) r''
        | e :: r'' => do multilineBasic false ((← simpleEscape? e) :: acc) r''
        | [] => none
    | '\r', '\n' :: r' => multilineBasic false ('\n' :: acc) r'
    | c, r => if c == '\n' || isStringChar c then multilineBasic false (c :: acc) r else none
termination_by trimming _ cs => 2 * cs.length + if trimming then 1 else 0

/-- A literal string on several lines, after its opening delimiter. -/
def multilineLiteral (acc : List Char) : List Char → Option (String × List Char)
  | [] => none
  | '\'' :: '\'' :: '\'' :: '\'' :: '\'' :: r => some (String.ofList ('\'' :: '\'' :: acc).reverse, r)
  | '\'' :: '\'' :: '\'' :: '\'' :: r => some (String.ofList ('\'' :: acc).reverse, r)
  | '\'' :: '\'' :: '\'' :: r => some (String.ofList acc.reverse, r)
  | '\r' :: '\n' :: r => multilineLiteral ('\n' :: acc) r
  | c :: r => if c == '\n' || isStringChar c then multilineLiteral (c :: acc) r else none

/-- Whether a character may stand in a bare key. -/
def isBareKeyChar (c : Char) : Bool :=
  c.isAlphanum || c == '_' || c == '-'

/-- One key: bare, or a basic or literal string. -/
def simpleKey : List Char → Option (String × List Char)
  | '"' :: r => basicString [] r
  | '\'' :: r => literalString [] r
  | cs =>
    let k := cs.takeWhile isBareKeyChar
    if k.isEmpty then none else some (String.ofList k, cs.drop k.length)

/-- A dotted key: keys separated by points, with spaces around the points. -/
def dottedKey : Nat → List Char → Option (List String × List Char)
  | 0, _ => none
  | fuel + 1, cs => do
    let (k, r) ← simpleKey cs
    match skipSpaces r with
    | '.' :: r' =>
      let (ks, r'') ← dottedKey fuel (skipSpaces r')
      some (k :: ks, r'')
    | _ => some ([k], r)

/-- The value of digits in a base, with single underscores between digits; `seen` says
whether a digit came just before. -/
def digitsIn (base : Nat) (acc : Nat) (seen : Bool) : List Char → Option Nat
  | [] => if seen then some acc else none
  | '_' :: r => if seen then digitsIn base acc false r else none
  | c :: r =>
    let d := if c.isDigit then c.toNat - '0'.toNat
      else if 'a' ≤ c ∧ c ≤ 'z' then c.toNat - 'a'.toNat + 10
      else if 'A' ≤ c ∧ c ≤ 'Z' then c.toNat - 'A'.toNat + 10
      else base
    if d < base then digitsIn base (base * acc + d) true r else none

/-- An unsigned decimal integer: zero, or digits without a leading zero. -/
def decimal? : List Char → Option Nat
  | ['0'] => some 0
  | '0' :: _ => none
  | cs => digitsIn 10 0 false cs

/-- A TOML integer in the 64-bit range. -/
def integer? (cs : List Char) : Option Int := do
  let i : Int ← match cs with
    | '0' :: 'x' :: r => digitsIn 16 0 false r
    | '0' :: 'o' :: r => digitsIn 8 0 false r
    | '0' :: 'b' :: r => digitsIn 2 0 false r
    | '+' :: r => decimal? r
    | '-' :: r => (decimal? r).map fun n => -(n : Int)
    | r => decimal? r
  if -(Nat.pow 2 63 : Int) ≤ i ∧ i < (Nat.pow 2 63 : Int) then some i else none

/-- Whether a character may stand in a bare value: a number, a date, a boolean. -/
def isValueChar (c : Char) : Bool :=
  c.isAlphanum || c == '_' || c == '+' || c == '-' || c == '.' || c == ':'

/-- A value that is a setting: a string, a boolean or an integer. -/
def scalar : List Char → Option (Setting × List Char)
  | '"' :: '"' :: '"' :: r => do
    let (s, r) ← multilineBasic false [] (dropFirstBreak r)
    some (.string s, r)
  | '"' :: r => do
    let (s, r) ← basicString [] r
    some (.string s, r)
  | '\'' :: '\'' :: '\'' :: r => do
    let (s, r) ← multilineLiteral [] (dropFirstBreak r)
    some (.string s, r)
  | '\'' :: r => do
    let (s, r) ← literalString [] r
    some (.string s, r)
  | cs =>
    let t := cs.takeWhile isValueChar
    let r := cs.drop t.length
    match t with
    | ['t', 'r', 'u', 'e'] => some (.bool true, r)
    | ['f', 'a', 'l', 's', 'e'] => some (.bool false, r)
    | _ => (integer? t).map fun i => (.int i, r)

/-- The key of the one entry that a date or time given for a whole table is seen as. -/
def dateTimeKey : String := "$__toml_private_datetime"

/-- Adds an entry to the entries of a table, refusing a key it already has. -/
def addEntry (entries : List (String × Setting)) (k : String) (v : Setting) :
    Option (List (String × Setting)) :=
  if entries.any (·.1 == k) then none else some (entries ++ [(k, v)])

/-- The entries of an inline table after its opening brace: `key = value` pairs of settings
separated by commas, on one line, without a comma after the last. -/
def inlineEntries : Nat → List (String × Setting) → List Char →
    Option (List (String × Setting) × List Char)
  | 0, _, _ => none
  | fuel + 1, acc, cs =>
    match skipSpaces cs with
    | '}' :: r => if acc.isEmpty then some (acc, r) else none
    | cs => do
      let (ks, r) ← dottedKey cs.length cs
      let k ← match ks with
        | [k] => some k
        | _ => none
      let r ← match skipSpaces r with
        | '=' :: r => some (skipSpaces r)
        | _ => none
      let (v, r) ← scalar r
      let acc ← addEntry acc k v
      match skipSpaces r with
      | ',' :: r => inlineEntries fuel acc r
      | '}' :: r => some (acc, r)
      | _ => none

/-- The two tables of a configuration document. -/
inductive Part where
  | settings
  | keybindings
  deriving Repr, DecidableEq, Inhabited

/-- The table a key names. -/
def Part.ofKey? : String → Option Part
  | "settings" => some .settings
  | "keybindings" => some .keybindings
  | _ => none

/-- How a table came to be defined. -/
inductive Origin where
  /-- By a table header. -/
  | header
  /-- By dotted keys at the top of the document. -/
  | dotted
  /-- By an inline table. -/
  | inline
  deriving Repr, DecidableEq, Inhabited

/-- A table as read so far. -/
structure PartState where
  origin : Option Origin := none
  entries : List (String × Setting) := []
  deriving Repr, Inhabited

/-- What is read so far: the table that key-value pairs go to (`none` for the top of the
document) and the two tables. -/
structure State where
  target : Option Part := none
  settings : PartState := {}
  keybindings : PartState := {}
  deriving Repr, Inhabited

namespace State

/-- One of the two tables. -/
def part (s : State) : Part → PartState
  | .settings => s.settings
  | .keybindings => s.keybindings

/-- Replaces one of the two tables. -/
def setPart (s : State) : Part → PartState → State
  | .settings, t => { s with settings := t }
  | .keybindings, t => { s with keybindings := t }

/-- A table header: the table must not be defined yet. -/
def openTable (s : State) (p : Part) : Option State :=
  match (s.part p).origin with
  | none => some { s.setPart p { s.part p with origin := some .header } with target := some p }
  | some _ => none

/-- A pair `k = v` added to a table defined by `origin`, which must be how it was defined so
far, if at all. -/
def addTo (s : State) (p : Part) (origin : Origin) (k : String) (v : Setting) : Option State := do
  let t := s.part p
  if t.origin.isSome ∧ t.origin ≠ some origin then none
  else
    let entries ← addEntry t.entries k v
    some (s.setPart p ⟨some origin, entries⟩)

/-- An inline table given as the whole of a table: it must not be defined yet. -/
def setInline (s : State) (p : Part) (entries : List (String × Setting)) : Option State :=
  match (s.part p).origin with
  | none => some (s.setPart p ⟨some .inline, entries⟩)
  | some _ => none

end State

/-- A table header after its opening bracket. -/
def header (s : State) (cs : List Char) : Option (State × List Char) := do
  let (ks, r) ← dottedKey cs.length (skipSpaces cs)
  let r ← match skipSpaces r with
    | ']' :: r => some r
    | _ => none
  let p ← match ks with
    | [k] => Part.ofKey? k
    | _ => none
  let s ← s.openTable p
  some (s, r)

/-- A key-value pair. -/
def keyValue (s : State) (cs : List Char) : Option (State × List Char) := do
  let (ks, r) ← dottedKey cs.length cs
  let r ← match skipSpaces r with
    | '=' :: r => some (skipSpaces r)
    | _ => none
  match s.target, ks, r with
  | some p, [k], r => do
    let (v, r) ← scalar r
    some (← s.addTo p .header k v, r)
  | none, [t], '{' :: r => do
    let p ← Part.ofKey? t
    let (entries, r) ← inlineEntries r.length [] r
    some (← s.setInline p entries, r)
  | none, [t], r@(c :: _) =>
    if c.isDigit then do
      let p ← Part.ofKey? t
      let (dt, r) ← DateTime.read? r
      some (← s.setInline p [(dateTimeKey, .string dt.text)], r)
    else none
  | none, [t, k], r => do
    let p ← Part.ofKey? t
    let (v, r) ← scalar r
    some (← s.addTo p .dotted k v, r)
  | _, _, _ => none

/-- Reads items until the text is used up. -/
def items : Nat → State → List Char → Option State
  | 0, _, _ => none
  | fuel + 1, s, cs => do
    match ← skipTrivia false cs with
    | [] => some s
    | '[' :: '[' :: _ => none
    | '[' :: r => do
      let (s, r) ← header s r
      items fuel s (← lineEnd false r)
    | r => do
      let (s, r) ← keyValue s r
      items fuel s (← lineEnd false r)

end Document

/-- The settings and bindings of a configuration document, in the order written. -/
structure Document where
  settings : List (String × Setting)
  bindings : List (String × String)
  deriving Repr, Inhabited

namespace Document

/-- The bindings of the keybindings table: every value must be a string. -/
def bindingsOf (entries : List (String × Setting)) : Option (List (String × String)) :=
  entries.mapM fun
    | (k, .string s) => some (k, s)
    | _ => none

/-- Reads a configuration document; `none` for any text that is not one. -/
def read? (text : String) : Option Document := do
  let cs := text.toList
  -- a byte order mark may open the text
  let cs := match cs with
    | c :: r => if c.toNat = 0xFEFF then r else c :: r
    | [] => []
  let s ← items (cs.length + 1) {} cs
  some ⟨s.settings.entries, ← bindingsOf s.keybindings.entries⟩

end Document

end StackCalc.Config
