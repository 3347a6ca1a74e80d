/-
  What can be wrong with a JSON text, and where.

  * `Cause` says what is wrong, `Cause.message` words it;
  * `Fault` adds the place: what is left of the text, and how many bytes of
    that the reader has looked at.  Lines and columns are found from the
    whole text (`Fault.position`), columns being counted in bytes.
-/
import Pagewright.Real.Shortest
import Pagewright.Text.Quoted

namespace Pagewright.Json

/-! ## Causes -/

/-- A value of the wrong type, as a message shows it. -/
inductive Found where
  | null
  | boolean (b : Bool)
  | integer (n : Int)
  /-- A number with a fraction, given by its bits. -/
  | real (bits : UInt64)
  | text (s : String)
  | sequence
  | map
  deriving DecidableEq, Repr

/-- A value of the wrong type in words. -/
def Found.message : Found → String
  | null => "null"
  | boolean b => "boolean `" ++ (if b then "true" else "false") ++ "`"
  | integer n => "integer `" ++ toString n ++ "`"
  | real bits => "floating point `" ++ Real.text bits ++ "`"
  | text s => "string " ++ Text.quoted s
  | sequence => "sequence"
  | map => "map"

/-- What is wrong with a text. -/
inductive Cause where
  | endOfValue
  | endOfText
  | endOfList
  | endOfObject
  | expectedWord
  | expectedValue
  | expectedColon
  | expectedListEnd
  | expectedObjectEnd
  | keyNotText
  | controlCharacter
  | invalidEscape
  | loneSurrogate
  | unfinishedSurrogate
  | invalidNumber
  | numberOutOfRange
  | tooDeep
  | trailingComma
  | trailingCharacters
  | wrongType (found : Found) (wanted : String)
  | outOfRange (n : Int) (wanted : String)
  | unknownVariant (name : String) (known : List String)
  | missingField (name : String)
  | duplicateField (name : String)
  | tooShort (length : Nat) (wanted : String)
  deriving DecidableEq, Repr

/-- A cause in words. -/
def Cause.message : Cause → String
  | endOfValue => "EOF while parsing a value"
  | endOfText => "EOF while parsing a string"
  | endOfList => "EOF while parsing a list"
  | endOfObject => "EOF while parsing an object"
  | expectedWord => "expected ident"
  | expectedValue => "expected value"
  | expectedColon => "expected `:`"
  | expectedListEnd => "expected `,` or `]`"
  | expectedObjectEnd => "expected `,` or `\x7d`"
  | keyNotText => "key must be a string"
  | controlCharacter => "control character (\\u0000-\\u001F) found while parsing a string"
  | invalidEscape => "invalid escape"
  | loneSurrogate => "lone leading surrogate in hex escape"
  | unfinishedSurrogate => "unexpected end of hex escape"
  | invalidNumber => "invalid number"
  | numberOutOfRange => "number out of range"
  | tooDeep => "recursion limit exceeded"
  | trailingComma => "trailing comma"
  | trailingCharacters => "trailing characters"
  | wrongType found wanted => "invalid type: " ++ found.message ++ ", expected " ++ wanted
  | outOfRange n wanted => "invalid value: " ++ (Found.integer n).message ++ ", expected " ++ wanted
  | unknownVariant name known =>
    "unknown variant `" ++ name ++ "`, expected " ++
      " or ".intercalate (known.map fun k => "`" ++ k ++ "`")
  | missingField name => "missing field `" ++ name ++ "`"
  | duplicateField name => "duplicate field `" ++ name ++ "`"
  | tooShort length wanted => "invalid length " ++ toString length ++ ", expected " ++ wanted

/-! ## Faults -/

/-- Something wrong, `seen` bytes into what is left of the text. -/
structure Fault where
  cause : Cause
  left : List Char
  seen : Nat
  deriving DecidableEq, Repr

/-- The number of bytes of a text. -/
def byteLength : List Char → Nat
  | [] => 0
  | c :: cs => c.utf8Size + byteLength cs

/-- Line and column `offset` bytes into a text, from a line and column on.  A
    line feed begins the next line, which has column zero at its start. -/
def locate (line column : Nat) : Nat → List Char → Nat × Nat
  | _, [] => (line, column)
  | offset, c :: cs =>
    if offset < c.utf8Size then (line, column + offset)
    else if c = '\n' then locate (line + 1) 0 (offset - 1) cs
    else locate line (column + c.utf8Size) (offset - c.utf8Size) cs

namespace Fault

variable (f : Fault)

/-- The line and the column of a fault in the whole text. -/
def position (source : List Char) : Nat × Nat :=
  let total := byteLength source
  locate 1 0 (min total (total - byteLength f.left + f.seen)) source

/-- A fault in words, with its place in the whole text. -/
def message (source : List Char) : String :=
  let p := f.position source
  f.cause.message ++ " at line " ++ toString p.1 ++ " column " ++ toString p.2

end Fault

end Pagewright.Json
