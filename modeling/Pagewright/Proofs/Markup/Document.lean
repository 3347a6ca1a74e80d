/-
  Documents: what a reader of markup makes of a text.

  * `Scanner.step` takes one character; it knows start tags with attributes in
    double quotes or without a value, end tags, tags that close themselves,
    comments up to the first `-->`, and the text between them.  Anything else
    is a fault;
  * `Assembly.place` puts the tokens together: every end tag closes the element
    that was opened last, and blank text between the parts of a block is
    passed over;
  * `read` is both, and `none` unless all that was opened is closed.

  References are taken back in text and in the attributes that hold a text of
  an author (`isAuthored`), and nowhere else.
-/
import Pagewright.Proofs.Text.Entities

namespace Pagewright.Markup

/-! ## Documents -/

/-- An attribute; one that is only named has no value. -/
structure Attr where
  name : String
  value : Option String := none
  deriving DecidableEq, Repr

/-- A node of a document.  A tag that closes itself is an element without
    children. -/
inductive Node where
  | element (tag : String) (attrs : List Attr) (children : List Node)
  | text (s : String)
  | comment (s : String)
  deriving Repr

/-- The nodes of a text: none if it is empty. -/
def textNodes (s : String) : List Node := if s = "" then [] else [.text s]

/-- What stands between angle brackets: a name and attributes. -/
structure Tag where
  name : String
  attrs : List Attr := []
  deriving DecidableEq, Repr

/-- Puts an attribute behind the others. -/
def Tag.add (t : Tag) (a : Attr) : Tag := { t with attrs := t.attrs ++ [a] }

/-- A piece of markup. -/
inductive Token where
  /-- `<tag …>` -/
  | opening (tag : Tag)
  /-- `<tag … />` -/
  | selfClosing (tag : Tag)
  /-- `</tag>` -/
  | closing (name : String)
  | text (s : String)
  | comment (s : String)
  deriving DecidableEq, Repr

/-! ## Characters -/

/-- Space between tokens and inside tags. -/
def isSpace (c : Char) : Bool := c ∈ [' ', '\n', '\t', '\r', '\x0c']

/-- The characters of a tag name. -/
def isNameChar (c : Char) : Bool := c.isAlphanum || c == '-'

/-- The characters of an attribute name. -/
def isAttrChar (c : Char) : Bool :=
  !(isSpace c || c ∈ ['"', '\x27', '>', '/', '=', '<'])

/-- The attributes that hold a text of an author, in which references are
    taken back. -/
def isAuthored (attr : String) : Bool := attr ∈ ["placeholder", "alt", "title", "[value]"]

/-- The attribute of a name with a value as it is written. -/
def Attr.ofRaw (name raw : String) : Attr :=
  ⟨name, some (if isAuthored name then Html.decode raw else raw)⟩

/-- The tokens of a text as it is written: none if it is empty. -/
def textTokens (raw : List Char) : List Token :=
  if raw = [] then [] else [.text (Html.decode (String.ofList raw))]

/-! ## Scanning -/

/-- Where in the markup a scanner is. -/
inductive Mode where
  /-- Outside of all tags, behind some text. -/
  | text (raw : List Char)
  /-- Behind `<`. -/
  | opened
  /-- In the name of a start tag. -/
  | name (n : List Char)
  /-- In a start tag, between attributes. -/
  | gap (tag : Tag)
  /-- In the name of an attribute. -/
  | attrName (tag : Tag) (n : List Char)
  /-- Behind `=`. -/
  | equals (tag : Tag) (n : List Char)
  /-- Between quotation marks. -/
  | value (tag : Tag) (n raw : List Char)
  /-- Behind `/` in a start tag. -/
  | slash (tag : Tag)
  /-- In the name of an end tag. -/
  | closingName (n : List Char)
  /-- Behind `<!`. -/
  | bang
  /-- Behind `<!-`. -/
  | bangDash
  /-- In a comment. -/
  | comment (raw : List Char)
  /-- Not markup. -/
  | fault
  deriving DecidableEq, Repr

/-- A scanner and the tokens it has found. -/
structure Scanner where
  mode : Mode := .text []
  tokens : List Token := []
  deriving DecidableEq, Repr

namespace Scanner

variable (s : Scanner)

/-- Goes on in another mode. -/
def goto (m : Mode) : Scanner := { s with mode := m }

/-- Adds a token and goes on outside of all tags. -/
def emit (t : Token) : Scanner := ⟨.text [], s.tokens ++ [t]⟩

/-- A character in a start tag that belongs to no name. -/
def between (tag : Tag) (c : Char) : Scanner :=
  if c = '>' then s.emit (.opening tag)
  else if c = '/' then s.goto (.slash tag)
  else if isSpace c then s.goto (.gap tag)
  else s.goto .fault

/-- Takes one character. -/
def step (c : Char) : Scanner :=
  match s.mode with
  | .text raw =>
    if c = '<' then ⟨.opened, s.tokens ++ textTokens raw⟩ else s.goto (.text (raw ++ [c]))
  | .opened =>
    if c = '/' then s.goto (.closingName [])
    else if c = '!' then s.goto .bang
    else if isNameChar c then s.goto (.name [c])
    else s.goto .fault
  | .name n =>
    if isNameChar c then s.goto (.name (n ++ [c])) else s.between ⟨String.ofList n, []⟩ c
  | .gap tag => if isAttrChar c then s.goto (.attrName tag [c]) else s.between tag c
  | .attrName tag n =>
    if isAttrChar c then s.goto (.attrName tag (n ++ [c]))
    else if c = '=' then s.goto (.equals tag n)
    else s.between (tag.add ⟨String.ofList n, none⟩) c
  | .equals tag n => if c = '"' then s.goto (.value tag n []) else s.goto .fault
  | .value tag n raw =>
    if c = '"' then s.goto (.gap (tag.add (.ofRaw (String.ofList n) (String.ofList raw))))
    else s.goto (.value tag n (raw ++ [c]))
  | .slash tag => if c = '>' then s.emit (.selfClosing tag) else s.goto .fault
  | .closingName n =>
    if c = '>' then s.emit (.closing (String.ofList n))
    else if isNameChar c then s.goto (.closingName (n ++ [c]))
    else s.goto .fault
  | .bang => if c = '-' then s.goto .bangDash else s.goto .fault
  | .bangDash => if c = '-' then s.goto (.comment []) else s.goto .fault
  | .comment raw =>
    if c = '>' ∧ ['-', '-'] <:+ raw then s.emit (.comment (String.ofList raw.dropLast.dropLast))
    else s.goto (.comment (raw ++ [c]))
  | .fault => s

/-- Takes characters, one after the other. -/
def run (cs : List Char) : Scanner := cs.foldl step s

end Scanner

/-- The tokens of a text, if it is markup. -/
def tokenize (s : String) : Option (List Token) :=
  let end_ := Scanner.run {} s.toList
  match end_.mode with
  | .text raw => some (end_.tokens ++ textTokens raw)
  | _ => none

/-! ## Putting together -/

/-- The elements whose parts stand on lines of their own. -/
def isBlock (tag : String) : Bool :=
  tag ∈ ["div", "section", "nav", "ng-container", "table", "thead", "tbody"]

/-- The nodes read so far: those of the element that was opened last, and above
    them the elements that are open, each with the nodes before it. -/
structure Assembly where
  above : List (Tag × List Node) := []
  here : List Node := []

namespace Assembly

variable (b : Assembly)

/-- Whether blank text is passed over here. -/
def isLoose : Bool :=
  match b.above with
  | [] => true
  | (tag, _) :: _ => isBlock tag.name

/-- Puts nodes behind those read so far. -/
def push (ns : List Node) : Assembly := { b with here := b.here ++ ns }

/-- Puts a token in its place, if it has one. -/
def place : Token → Option Assembly
  | .opening tag => some ⟨(tag, b.here) :: b.above, []⟩
  | .selfClosing tag => some (b.push [.element tag.name tag.attrs []])
  | .closing name =>
    match b.above with
    | [] => none
    | (tag, before) :: above =>
      if tag.name = name then some ⟨above, before ++ [.element tag.name tag.attrs b.here]⟩ else none
  | .text s => if b.isLoose && s.toList.all isSpace then some b else some (b.push [.text s])
  | .comment s => some (b.push [.comment s])

/-- Puts tokens in their places, one after the other. -/
def placeAll (ts : List Token) : Option Assembly := ts.foldlM place b

end Assembly

/-- The forest that tokens make up, if they are balanced. -/
def forest (ts : List Token) : Option (List Node) :=
  (Assembly.placeAll {} ts).bind fun b => if b.above.isEmpty then some b.here else none

/-- The forest that a text is read as. -/
def read (s : String) : Option (List Node) := (tokenize s).bind forest

end Pagewright.Markup
