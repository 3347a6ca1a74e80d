/-
  The blanks, comments, texts and keys that TOML is made of.

  A scanner gives back what it read and what is left, or nothing if the text
  is not well formed.
-/

namespace Pagewright.Toml

/-- Reads something from the front of a text. -/
abbrev Scanner (α : Type) : Type := List Char → Option (α × List Char)

/-! ## Blanks and comments -/

/-- Whether a character is a blank inside a line. -/
def isBlank (c : Char) : Bool := c == ' ' || c == '\t'

/-- What follows the blanks. -/
def skipBlanks (s : List Char) : List Char := s.dropWhile isBlank

/-- The characters of texts and comments: no control but the tab. -/
def isPrintable (c : Char) : Bool := c == '\t' || (0x20 ≤ c.toNat && c.toNat != 0x7F)

/-- What is left after the end of a line. -/
def passNewline : List Char → Option (List Char)
  | '\n' :: s => some s
  | '\r' :: '\n' :: s => some s
  | _ => none

/-- What is left after blanks, a comment, and the end of the line or of the
    text. -/
def passLineEnd (s : List Char) : Option (List Char) :=
  let s := match skipBlanks s with
    | '#' :: t => t.dropWhile isPrintable
    | t => t
  if s.isEmpty then some [] else passNewline s

/-- What is left after blanks, comments and line ends; `comment` tells that a
    comment has begun. -/
def passGap (comment : Bool) : List Char → Option (List Char)
  | [] => if comment then none else some []
  | '\n' :: s => passGap false s
  | '\r' :: '\n' :: s => passGap false s
  | c :: s =>
    if comment then if isPrintable c then passGap true s else none
    else if isBlank c then passGap false s
    else if c = '#' then passGap true s
    else some (c :: s)

/-! ## Escapes -/

/-- The number written by digits to base sixteen. -/
def hexNumber? (ds : List Char) : Option Nat :=
  ds.foldlM (fun n c =>
    if '0' ≤ c ∧ c ≤ '9' then some (n * 16 + (c.toNat - 48))
    else if 'a' ≤ c ∧ c ≤ 'f' then some (n * 16 + (c.toNat - 87))
    else if 'A' ≤ c ∧ c ≤ 'F' then some (n * 16 + (c.toNat - 55))
    else none) 0

/-- The character whose number is written by the `n` digits in front. -/
def scanCodePoint (n : Nat) : Scanner Char := fun s =>
  if s.length < n then none
  else do
    let v ← hexNumber? (s.take n)
    if v < 0xD800 ∨ 0xDFFF < v ∧ v < 0x110000 then some (Char.ofNat v, s.drop n) else none

/-- The character that is written after a backslash. -/
def scanEscape : Scanner Char
  | [] => none
  | c :: s =>
    if c = 'b' then some ('\x08', s)
    else if c = 't' then some ('\t', s)
    else if c = 'n' then some ('\n', s)
    else if c = 'f' then some ('\x0c', s)
    else if c = 'r' then some ('\r', s)
    else if c = '"' then some ('"', s)
    else if c = '\\' then some ('\\', s)
    else if c = 'u' then scanCodePoint 4 s
    else if c = 'U' then scanCodePoint 8 s
    else none

/-! ## Texts on one line -/

/-- The characters up to the closing quote, with escapes. -/
def scanBasic : Nat → Scanner (List Char)
  | 0, _ => none
  | _ + 1, [] => none
  | fuel + 1, c :: s =>
    if c = '"' then some ([], s)
    else if c = '\\' then do
      let (d, s) ← scanEscape s
      let (cs, s) ← scanBasic fuel s
      some (d :: cs, s)
    else if isPrintable c then (scanBasic fuel s).map fun r => (c :: r.1, r.2)
    else none

/-- The characters up to the closing apostrophe, as they stand. -/
def scanLiteral : Scanner (List Char)
  | [] => none
  | c :: s =>
    if c = '\x27' then some ([], s)
    else if isPrintable c then (scanLiteral s).map fun r => (c :: r.1, r.2)
    else none

/-! ## Texts on several lines -/

/-- The quotes in front: how many belong to the text, and what is left if the
    text ends there.  Three close it, and up to two before these belong to
    it. -/
def quotesInFront (q : Char) (s : List Char) : Nat × Option (List Char) :=
  let n := (s.takeWhile (· == q)).length
  if n < 3 then (n, none)
  else
    let k := min (n - 3) 2
    (k, some (s.drop (k + 3)))

/-- What is left after the line end that a backslash takes away, with all the
    blanks that follow. -/
def passFold (s : List Char) : Option (List Char) := do
  let s ← passNewline (skipBlanks s)
  let rec rest : List Char → List Char
    | '\n' :: s => rest s
    | '\r' :: '\n' :: s => rest s
    | c :: s => if isBlank c then rest s else c :: s
    | [] => []
  some (rest s)

/-- The characters up to three closing quotes; `escapes` tells whether the
    backslash is special. -/
def scanLong (q : Char) (escapes : Bool) : Nat → Scanner (List Char)
  | 0, _ => none
  | fuel + 1, s =>
    match quotesInFront q s with
    | (k, some left) => some (List.replicate k q, left)
    | (k + 1, none) =>
      (scanLong q escapes fuel (s.drop (k + 1))).map fun r => (List.replicate (k + 1) q ++ r.1, r.2)
    | (0, none) =>
      match passNewline s with
      | some t => (scanLong q escapes fuel t).map fun r => ('\n' :: r.1, r.2)
      | none =>
        match s with
        | [] => none
        | c :: t =>
          if c = '\\' && escapes then
            match passFold t with
            | some u => scanLong q escapes fuel u
            | none => do
              let (d, u) ← scanEscape t
              let (cs, u) ← scanLong q escapes fuel u
              some (d :: cs, u)
          else if isPrintable c then (scanLong q escapes fuel t).map fun r => (c :: r.1, r.2)
          else none

/-- A text on several lines; a line end right at its start does not count. -/
def scanLongText (q : Char) (escapes : Bool) (s : List Char) : Option (List Char × List Char) :=
  let s := (passNewline s).getD s
  scanLong q escapes (s.length + 1) s

/-- A text of any of the four kinds. -/
def scanText : Scanner String := fun s =>
  (fun r => (String.ofList r.1, r.2)) <$>
    match s with
    | '"' :: '"' :: '"' :: t => scanLongText '"' true t
    | '"' :: t => scanBasic (t.length + 1) t
    | '\x27' :: '\x27' :: '\x27' :: t => scanLongText '\x27' false t
    | '\x27' :: t => scanLiteral t
    | _ => none

/-! ## Keys -/

/-- The characters of a key that is not quoted. -/
def isKeyChar (c : Char) : Bool := c.isAlphanum || c == '-' || c == '_'

/-- One part of a key. -/
def scanKeyPart : Scanner String := fun s =>
  match s with
  | '"' :: t => (fun r => (String.ofList r.1, r.2)) <$> scanBasic (t.length + 1) t
  | '\x27' :: t => (fun r => (String.ofList r.1, r.2)) <$> scanLiteral t
  | _ =>
    let part := s.takeWhile isKeyChar
    if part.isEmpty then none else some (String.ofList part, s.dropWhile isKeyChar)

/-- The parts of a dotted key, with the blanks around them; `fuel` bounds their
    number. -/
def scanKey : Nat → Scanner (List String)
  | 0, _ => none
  | fuel + 1, s => do
    let (k, s) ← scanKeyPart (skipBlanks s)
    match skipBlanks s with
    | '.' :: s =>
      let (ks, s) ← scanKey fuel s
      some (k :: ks, s)
    | s => some ([k], s)

end Pagewright.Toml
