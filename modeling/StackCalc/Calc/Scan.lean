import StackCalc.Calc.Error
import StackCalc.Decimal.Literal
import StackCalc.Text.Utf8

/-!
# Reading postfix text

The text is read from the left. Spaces, tabs, newlines and commas separate tokens and are
otherwise skipped. A digit starts a literal, which runs over the digits that follow and at
most one point; a second point ends it. An operator symbol is a token of its own. Any other
character is an unexpected character at its byte offset, and reading goes on after it, so
the items of a text are its tokens and faults in order.

`next?` reads one item and returns the text after it, which is always shorter (`next?_shorter`);
`scan` repeats it until the text is used up. A `Scanner` is the same reading done one call at a
time: it keeps the text not read yet between calls, and a call that finds only separators
reads them all and gives nothing.
-/

namespace StackCalc.Calc

/-- An item of read text: a token, or the fault at a place where the text leaves the grammar. -/
abbrev Item := Except CalcError Token

/-- Characters that separate tokens. -/
def isSeparator (c : Char) : Bool :=
  c == ' ' || c == '\t' || c == '\n' || c == ','

/-- The rest of a literal after its first digit: digits, and a point unless one was seen;
returns the literal's characters and the text after them. -/
def literalSpan : List Char → Bool → List Char × List Char
  | [], _ => ([], [])
  | c :: cs, seenPoint =>
    if c.isDigit then
      let r := literalSpan cs seenPoint
      (c :: r.1, r.2)
    else if c == '.' && !seenPoint then
      let r := literalSpan cs true
      (c :: r.1, r.2)
    else ([], c :: cs)

theorem literalSpan_append (cs : List Char) (seenPoint : Bool) :
    (literalSpan cs seenPoint).1 ++ (literalSpan cs seenPoint).2 = cs := by
  induction cs generalizing seenPoint with
  | nil => rfl
  | cons c cs ih =>
    unfold literalSpan
    split
    · simp [ih]
    · split
      · simp [ih]
      · rfl

theorem length_literalSpan_le (cs : List Char) (seenPoint : Bool) :
    (literalSpan cs seenPoint).2.length ≤ cs.length := by
  have h := congrArg List.length (literalSpan_append cs seenPoint)
  rw [List.length_append] at h
  omega

/-- The item a literal stands for: its nearest binary64 value, or a fault if that is infinite. -/
def literalItem (lit : List Char) : Item :=
  match Decimal.readLiteral? lit with
  | some v => .ok (.number v)
  | none => .error (.invalidNumber (String.ofList lit))

/-- The next item of the text `cs`, which starts at byte offset `pos`: the item, the text
after it, and the byte offset of that text; `none` when only separators are left. -/
def next? : List Char → Nat → Option (Item × List Char × Nat)
  | [], _ => none
  | c :: cs, pos =>
    if isSeparator c then next? cs (pos + c.utf8Size)
    else if c.isDigit then
      let (lit, rest) := literalSpan cs false
      -- a literal is ASCII, one byte a character
      some (literalItem (c :: lit), rest, pos + 1 + lit.length)
    else
      let item : Item := match Operator.ofChar? c with
        | some op => .ok (.operator op)
        | none => .error (.unexpectedChar c pos)
      some (item, cs, pos + c.utf8Size)

theorem next?_shorter {cs : List Char} {pos : Nat} {item : Item} {rest : List Char} {pos' : Nat}
    (h : next? cs pos = some (item, rest, pos')) : rest.length < cs.length := by
  induction cs generalizing pos with
  | nil => simp [next?] at h
  | cons c cs ih =>
    unfold next? at h
    split at h
    · exact Nat.lt_succ_of_lt (ih h)
    · split at h
      · cases h
        exact Nat.lt_succ_of_le (length_literalSpan_le cs false)
      · cases h
        exact Nat.lt_succ_self _

/-- The items of the text `cs` starting at byte offset `pos`. -/
def scanFrom (cs : List Char) (pos : Nat) : List Item :=
  match h : next? cs pos with
  | none => []
  | some (item, rest, pos') =>
    have : rest.length < cs.length := next?_shorter h
    item :: scanFrom rest pos'
termination_by cs.length

/-- The items of a text. -/
def scan (text : String) : List Item :=
  scanFrom text.toList 0

/-- A reader part way through a text: the characters not read yet, and the byte offset of the
first of them. -/
structure Scanner where
  rest : List Char
  pos : Nat

namespace Scanner

/-- A reader at the start of a text. -/
def new (text : String) : Scanner :=
  ⟨text.toList, 0⟩

/-- One call of the reader: the next item and the reader after it. When only separators are
left it reads them all and gives nothing. -/
def next (s : Scanner) : Option Item × Scanner :=
  match next? s.rest s.pos with
  | some (item, rest, pos) => (some item, ⟨rest, pos⟩)
  | none => (none, ⟨[], s.pos + Text.Utf8.byteSize s.rest⟩)

end Scanner

end StackCalc.Calc
