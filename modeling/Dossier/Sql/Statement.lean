import Dossier.Time.Resolution
import Dossier.Uuid
import Dossier.Value.Basic

/-!
# SQL statements

A statement is a list of pieces: fixed text, texts quoted as literals, and parameters with their
values. Printing gives every parameter the next number, so the numbers in a text and the list of bound
values always go together.
-/

namespace Dossier

namespace Sql

inductive Param where
  | text (s : String)
  | uuid (id : Uuid)
  | number (n : Binary64)
  | integer (i : Int)
  | bool (b : Bool)
  | timestamp (t : Instant)
  | decimal (d : Decimal)
  | json (document : Json)
  | textList (items : List String)
  /-- The absence of a document. -/
  | nothing

/-- A value as it is sent to a database: zero is sent without places, and instants to the
microsecond. -/
def Param.sent : Param → Param
  | .decimal d => .decimal (if d.coeff = 0 then .zero else d)
  | .timestamp t => .timestamp t.toMicrosecond
  | value => value

def Param.render : Param → Json
  | .text s => typed "text" (.string s)
  | .uuid id => typed "uuid" (.string id.text)
  | .number n => typed "number" (Value.renderNumber n)
  | .integer i => typed "integer" (.number (.int i))
  | .bool b => typed "bool" (.bool b)
  | .timestamp t => typed "timestamp" (.string t.text)
  | .decimal d => typed "decimal" (.string d.text)
  | .json document => typed "json" document
  | .textList items => typed "text_list" (.array (items.map .string))
  | .nothing => .object [("t", .string "null")]
where
  typed (type : String) (content : Json) : Json := .object [("t", .string type), ("v", content)]

inductive Piece where
  | fixed (s : String)
  /-- A text in single quotes. -/
  | quoted (s : String)
  | param (value : Param)

/-- A statement or a part of one. -/
abbrev Statement := List Piece

/-- The content of a quoted text, each quote in it written twice. -/
def doubleQuotes : List Char → List Char
  | [] => []
  | c :: rest => if c = '\'' then '\'' :: '\'' :: doubleQuotes rest else c :: doubleQuotes rest

def literal (s : String) : String := String.ofList ('\'' :: doubleQuotes s.toList ++ ['\''])

namespace Statement

/-- The printed pieces when the next parameter has a given number. -/
def printed : Nat → Statement → List String
  | _, [] => []
  | next, .fixed s :: rest => s :: printed next rest
  | next, .quoted s :: rest => literal s :: printed next rest
  | next, .param _ :: rest => s!"${next}" :: printed (next + 1) rest

/-- The text of a statement whose parameters are numbered from one. -/
def text (statement : Statement) : String := String.join (printed 1 statement)

/-- The values bound, in the order of their numbers. -/
def params (statement : Statement) : List Param :=
  statement.filterMap fun piece =>
    match piece with
    | .param value => some value
    | _ => none

/-- A statement as it is sent: its text and the values bound. -/
def render (statement : Statement) : Json :=
  .ofMembers [("sql", .string statement.text), ("params", .array (statement.params.map fun p => p.sent.render))]

def separated (separator : String) : List Statement → Statement
  | [] => []
  | [statement] => statement
  | statement :: rest => statement ++ .fixed separator :: separated separator rest

end Statement

end Sql

end Dossier
