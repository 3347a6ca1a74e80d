/-
  The words, texts and brackets that JSON is made of.

  Scanners take a list of characters and give back what they read with what is
  left, or the fault that stopped them.  A text may be read or only passed
  over: `scanText` decodes it and insists on paired surrogates, `passText` does
  not.
-/
import Pagewright.Json.Fault

namespace Pagewright.Json

/-- Reads a value from the front of a text. -/
abbrev Reader (α : Type) : Type := List Char → Except Fault (α × List Char)

/-! ## Blanks and words -/

/-- The four characters that may stand between tokens. -/
def isBlank (c : Char) : Bool := c == ' ' || c == '\t' || c == '\n' || c == '\r'

/-- What is left after leading blanks. -/
def skipBlanks (s : List Char) : List Char := s.dropWhile isBlank

/-- Passes over the rest of a word whose first letter has been read. -/
def passWord : List Char → List Char → Except Fault (List Char)
  | [], s => .ok s
  | _ :: _, [] => .error ⟨.endOfValue, [], 0⟩
  | w :: ws, c :: s => if c = w then passWord ws s else .error ⟨.expectedWord, c :: s, 1⟩

/-! ## Escapes -/

/-- The value of a digit to base sixteen. -/
def hexValue? (c : Char) : Option Nat :=
  if '0' ≤ c ∧ c ≤ '9' then some (c.toNat - 48)
  else if 'a' ≤ c ∧ c ≤ 'f' then some (c.toNat - 87)
  else if 'A' ≤ c ∧ c ≤ 'F' then some (c.toNat - 55)
  else none

/-- The number written by the four digits in front. -/
def hexQuad (s : List Char) : Except Fault Nat :=
  if byteLength (s.take 4) < 4 then .error ⟨.endOfText, [], 0⟩
  else match (s.take 4).mapM hexValue? with
    | some [a, b, c, d] => .ok (((a * 16 + b) * 16 + c) * 16 + d)
    | _ => .error ⟨.invalidEscape, s, 4⟩

/-- Whether a code unit is the first of a surrogate pair. -/
def isLeading (n : Nat) : Bool := 0xD800 ≤ n && n ≤ 0xDBFF

/-- Whether a code unit is the second of a surrogate pair. -/
def isTrailing (n : Nat) : Bool := 0xDC00 ≤ n && n ≤ 0xDFFF

/-- The trailing half of a pair, which must be there: its number. -/
def trailingHalf : List Char → Except Fault Nat
  | [] => .error ⟨.endOfText, [], 0⟩
  | b :: s =>
    if b ≠ '\\' then .error ⟨.unfinishedSurrogate, b :: s, 1⟩
    else match s with
      | [] => .error ⟨.endOfText, [], 0⟩
      | u :: s =>
        if u ≠ 'u' then .error ⟨.unfinishedSurrogate, u :: s, 1⟩
        else do
          let n ← hexQuad s
          if isTrailing n then .ok n else .error ⟨.loneSurrogate, s.drop 4, 0⟩

/-- The character that a letter after a backslash stands for. -/
def shortEscape? (c : Char) : Option Char :=
  if c = '"' then some '"'
  else if c = '\\' then some '\\'
  else if c = '/' then some '/'
  else if c = 'b' then some '\x08'
  else if c = 'f' then some '\x0c'
  else if c = 'n' then some '\n'
  else if c = 'r' then some '\r'
  else if c = 't' then some '\t'
  else none

/-- What stands after a backslash: the character, and how many characters it
    is written with. -/
def scanEscape : List Char → Except Fault (Char × Nat)
  | [] => .error ⟨.endOfText, [], 0⟩
  | c :: s =>
    if c = 'u' then do
      let n ← hexQuad s
      if isTrailing n then .error ⟨.loneSurrogate, s.drop 4, 0⟩
      else if isLeading n then
        let m ← trailingHalf (s.drop 4)
        .ok (Char.ofNat (0x10000 + (n - 0xD800) * 0x400 + (m - 0xDC00)), 11)
      else .ok (Char.ofNat n, 5)
    else match shortEscape? c with
      | some d => .ok (d, 1)
      | none => .error ⟨.invalidEscape, c :: s, 1⟩

/-- How many characters an escape takes that is only passed over. -/
def passEscape : List Char → Except Fault Nat
  | [] => .error ⟨.endOfText, [], 0⟩
  | c :: s =>
    if c = 'u' then (fun _ => 5) <$> hexQuad s
    else if (shortEscape? c).isSome then .ok 1
    else .error ⟨.invalidEscape, c :: s, 1⟩

/-! ## Texts -/

/-- Adds a character to the front of what has been read. -/
def consResult (c : Char) :
    Except Fault (List Char × List Char) → Except Fault (List Char × List Char)
  | .ok (cs, s) => .ok (c :: cs, s)
  | .error f => .error f

/-- The characters up to the closing quote.  The first `k` characters belong
    to an escape that has been read. -/
def scanText : Nat → List Char → Except Fault (List Char × List Char)
  | _, [] => .error ⟨.endOfText, [], 0⟩
  | k + 1, _ :: s => scanText k s
  | 0, c :: s =>
    if c = '"' then .ok ([], s)
    else if c = '\\' then
      match scanEscape s with
      | .ok (d, k) => consResult d (scanText k s)
      | .error f => .error f
    else if c.toNat < 0x20 then .error ⟨.controlCharacter, c :: s, 1⟩
    else consResult c (scanText 0 s)

/-- What is left after the closing quote. -/
def passText : Nat → List Char → Except Fault (List Char)
  | _, [] => .error ⟨.endOfText, [], 0⟩
  | k + 1, _ :: s => passText k s
  | 0, c :: s =>
    if c = '"' then .ok s
    else if c = '\\' then
      match passEscape s with
      | .ok k => passText k s
      | .error f => .error f
    else if c.toNat < 0x20 then .error ⟨.controlCharacter, c :: s, 0⟩
    else passText 0 s

/-- The text whose opening quote has been read. -/
def scanString : Reader String := fun s => do
  let (cs, s) ← scanText 0 s
  .ok (String.ofList cs, s)

/-! ## Lists and objects -/

/-- What comes next in a list or an object. -/
inductive Next where
  /-- The closing bracket; `left` is what follows it. -/
  | done (left : List Char)
  /-- Another element, or another key after its opening quote. -/
  | more (left : List Char)
  deriving DecidableEq, Repr

/-- Looks for the next element of a list. -/
def nextElement (first : Bool) (s : List Char) : Except Fault Next :=
  match skipBlanks s with
  | [] => .error ⟨.endOfList, [], 0⟩
  | c :: s =>
    if c = ']' then .ok (.done s)
    else if first then .ok (.more (c :: s))
    else if c = ',' then
      match skipBlanks s with
      | [] => .error ⟨.endOfValue, [], 0⟩
      | d :: s => if d = ']' then .error ⟨.trailingComma, d :: s, 1⟩ else .ok (.more (d :: s))
    else .error ⟨.expectedListEnd, c :: s, 1⟩

/-- Looks for the next key of an object. -/
def nextKey (first : Bool) (s : List Char) : Except Fault Next :=
  match skipBlanks s with
  | [] => .error ⟨.endOfObject, [], 0⟩
  | c :: s =>
    if c = '\x7d' then .ok (.done s)
    else if first then
      if c = '"' then .ok (.more s) else .error ⟨.keyNotText, c :: s, 1⟩
    else if c = ',' then
      match skipBlanks s with
      | [] => .error ⟨.endOfValue, [], 0⟩
      | d :: s =>
        if d = '"' then .ok (.more s)
        else if d = '\x7d' then .error ⟨.trailingComma, d :: s, 1⟩
        else .error ⟨.keyNotText, d :: s, 1⟩
    else .error ⟨.expectedObjectEnd, c :: s, 1⟩

/-- Passes over the colon after a key. -/
def passColon (s : List Char) : Except Fault (List Char) :=
  match skipBlanks s with
  | [] => .error ⟨.endOfObject, [], 0⟩
  | c :: s => if c = ':' then .ok s else .error ⟨.expectedColon, c :: s, 1⟩

end Pagewright.Json
