/-
  Issues: what a check has to say about a page, with the place it is about.
-/
import Pagewright.Json.Record
import Pagewright.Json.Write

namespace Pagewright

open Json

/-- Something wrong with a page. -/
structure Issue where
  code : String := ""
  /-- The name of the page. -/
  page : String := ""
  /-- Where in the pages it is. -/
  path : String := ""
  message : String := ""
  deriving DecidableEq, Repr

/-- The fields of an issue, in the order of their declaration. -/
inductive IssueField where
  | code | page | path | message
  deriving DecidableEq, Repr

/-- The label of a field. -/
def IssueField.label : IssueField → String
  | code => "code"
  | page => "page"
  | path => "path"
  | message => "message"

namespace Issue

/-- An issue on one line. -/
def text (i : Issue) : String := "[" ++ i.code ++ "] " ++ i.path ++ ": " ++ i.message

/-- An issue as JSON. -/
def write (i : Issue) : String :=
  writeObject [(IssueField.code.label, writeString i.code),
    (IssueField.page.label, writeString i.page), (IssueField.path.label, writeString i.path),
    (IssueField.message.label, writeString i.message)]

/-- The record of an issue. -/
def record : Record IssueField Issue where
  name := "struct ValidationIssue"
  fields := [.code, .page, .path, .message]
  label := IssueField.label
  presence := fun _ => .required
  blank := {}
  read f i s := do
    let (v, s) ← readString s
    match f with
    | .code => .ok ({ i with code := v }, s)
    | .page => .ok ({ i with page := v }, s)
    | .path => .ok ({ i with path := v }, s)
    | .message => .ok ({ i with message := v }, s)

/-- Reads an issue from a whole text. -/
def ofJson (source : List Char) : Except Fault Issue := readDocument (record.reader true) source

end Issue

end Pagewright
