import SqlTree.Error
import SqlTree.Text.Blank
import SqlTree.Text.LetterCase

/-!
# Keywords

The words that name how a criterion is appended, the kind of a join and
the dialect.  A word is trimmed and its case is dropped before it is
compared, and an unknown word is reported in the form that was compared.
-/

set_option autoImplicit false

namespace SqlTree

open Text

/-- How a criterion joins the criteria before it. -/
inductive AppendRule where
  | and
  | or
deriving DecidableEq, Inhabited

/-- The keyword of an append rule. -/
def AppendRule.keyword : AppendRule → String
  | .and => "AND"
  | .or => "OR"

/-- The append rule that a word names. -/
def AppendRule.ofKeyword (word : String) : Except KeywordError AppendRule :=
  match upper (trim word) with
  | "AND" => .ok .and
  | "OR" => .ok .or
  | other => .error (.appendRule other)

/-- The kinds of joins. -/
inductive JoinKind where
  | inner
  | left
  | right
  | outer
  | cross
deriving DecidableEq, Inhabited

/-- The keyword of a kind of join. -/
def JoinKind.keyword : JoinKind → String
  | .inner => "INNER"
  | .left => "LEFT"
  | .right => "RIGHT"
  | .outer => "OUTER"
  | .cross => "CROSS"

/-- The kind of join that a word names. -/
def JoinKind.ofKeyword (word : String) : Except KeywordError JoinKind :=
  match upper (trim word) with
  | "INNER" => .ok .inner
  | "LEFT" => .ok .left
  | "RIGHT" => .ok .right
  | "OUTER" => .ok .outer
  | "CROSS" => .ok .cross
  | other => .error (.joinKind other)

/-- The SQL dialects. -/
inductive Dialect where
  | common
  | mysql
  | sqlite
deriving DecidableEq, Inhabited

/-- The name of a dialect. -/
def Dialect.name : Dialect → String
  | .common => "common"
  | .mysql => "mysql"
  | .sqlite => "sqlite"

/-- The dialects, in the order in which they are listed. -/
def Dialect.all : List Dialect :=
  [.common, .mysql, .sqlite]

/-- The dialect that a word names. -/
def Dialect.ofKeyword (word : String) : Except KeywordError Dialect :=
  match lower (trim word) with
  | "common" | "sql" | "ansi" => .ok .common
  | "mysql" | "mariadb" => .ok .mysql
  | "sqlite" | "sqlite3" => .ok .sqlite
  | other => .error (.dialect other)

end SqlTree
