import SqlTree.Cli.Style
import SqlTree.Compile.Write
import SqlTree.Json.Printer
import SqlTree.Query.Describe
import SqlTree.Stored.Encode

/-!
# Reports

What the commands print: the statements of a query, a summary of its tree,
and a table of the dialects.  A report is a list of lines.
-/

set_option autoImplicit false

namespace SqlTree.Cli

/-- The text of some lines. -/
def linesText (lines : List String) : String :=
  String.join (lines.map (· ++ "\n"))

/-! ## Statements -/

/-- The lines for bindings.  `position` of the positional ones came
before. -/
def bindingLines (p : Painter) (position : Nat) : List Binding → List String
  | [] => []
  | b :: bindings =>
    let value := p.paint (.of .yellow) b.value.describe
    match b.name with
    | some name => ("  :" ++ name ++ " = " ++ value) :: bindingLines p position bindings
    | none =>
      ("  ?" ++ toString (position + 1) ++ " = " ++ value)
        :: bindingLines p (position + 1) bindings

/-- A statement with its bindings. -/
def statementLines (p : Painter) (s : Statement) : List String :=
  let bindings :=
    if s.bindings.isEmpty then []
    else p.paint (.of .cyan) "Bindings:" :: bindingLines p 0 s.bindings.entries
  p.paint (.of .white) s.sql :: bindings

/-- Statements with an empty line between them. -/
def compileLines (p : Painter) : List Statement → List String
  | [] => [p.paint .dim "(no statements)"]
  | s :: statements =>
    statementLines p s ++ statements.flatMap fun s => "" :: statementLines p s

/-- Statements as JSON. -/
def statementsJson (statements : List Statement) : Json :=
  .array (statements.map Statement.toJson)

/-! ## Trees -/

/-- A name with its alias, where there is one. -/
def withAlias (text : String) (aliasName : Option String) : String :=
  match aliasName with
  | some aliasName => text ++ " AS " ++ aliasName
  | none => text

/-- A line of the summary, under its label. -/
def summaryLine (p : Painter) (label text : String) : String :=
  "  " ++ p.paint .dim label ++ " " ++ text

/-- A list of the summary, under its label.  An empty list is left out. -/
def summaryList (p : Painter) (label : String) (texts : List String) : List String :=
  if texts.isEmpty then []
  else ("  " ++ p.paint .dim label) :: texts.map ("    • " ++ ·)

/-- The summary of a join. -/
def joinLine (p : Painter) (j : Join) : String :=
  summaryLine p "Join:" <|
    p.paint (.of .cyan) j.kind.keyword ++ " " ++ j.table.describe ++ " ("
      ++ toString j.criteria.length ++ " criteria)"

/-- The summary of a tree. -/
def treeLines (p : Painter) (q : Query) : List String :=
  let table := q.table.map fun t => summaryLine p "Table:" (withAlias t.describe q.tableAlias)
  let item (i : SelectItem) : String :=
    withAlias (p.paint (.of .white) i.value.describe) i.aliasName
  let order (o : Order) : String := p.paint (.of .white) o.describe
  let criteria :=
    if q.criteria.isEmpty then []
    else [summaryLine p "Criteria:" (toString q.criteria.length)]
  [p.paint (.bold .green) "Query Tree:",
    summaryLine p "Kind:" (p.paint (.of .cyan) q.kind.keyword)]
    ++ table.toList
    ++ summaryList p "Select:" (q.select.map item)
    ++ q.joins.map (joinLine p)
    ++ criteria
    ++ summaryList p "Order:" (q.order.map order)
    ++ (q.offset.map fun o => summaryLine p "Offset:" o.describe).toList
    ++ (q.limit.map fun o => summaryLine p "Limit:" o.describe).toList

/-- The summary of a tree and the statements that it compiles to. -/
def explainLines (p : Painter) (d : Dialect) (q : Query) (statements : List Statement) :
    List String :=
  treeLines p q
    ++ ["", p.paint (.bold .green) "Generated SQL:" ++ " (" ++ d.name ++ ")"]
    ++ statements.flatMap (statementLines p)

/-! ## Dialects -/

/-- How the dialects differ, an aspect a row. -/
def dialectAspects : List (String × (Dialect → String)) :=
  [("Identifier quote", fun d => d.quoteName "name"),
   ("Random order", Dialect.randomOrder),
   ("Explicit order", fun
     | .mysql => "FIELD(...)"
     | .common | .sqlite => "CASE ... END"),
   ("OFFSET / LIMIT", fun
     | .common => "OFFSET, LIMIT"
     | .mysql | .sqlite => "LIMIT, OFFSET"),
   ("Aliased UPDATE/DELETE", fun
     | .sqlite => "no"
     | .common | .mysql => "yes"),
   ("Multi-row INSERT", fun
     | .sqlite => "one per row"
     | .common | .mysql => "one statement")]

/-- A row of the table: a cell of 24 characters, and one for each dialect
with 16 characters but the last.  Every cell is padded as a whole before
its style is put on. -/
def tableRow (label : Nat → String) (cell : Nat → Dialect → String) : String :=
  String.intercalate " " [label 24, cell 16 .common, cell 16 .mysql, cell 0 .sqlite]

/-- The table of the dialects. -/
def dialectLines (p : Painter) : List String :=
  let heading (text : String) (width : Nat) : String :=
    p.paintPadded (.bold .white) width text
  let plain (text : String) (width : Nat) : String :=
    text.pushn ' ' (width - text.length)
  [p.paint (.bold .cyan) "SQL Dialects", "",
    tableRow (heading "Aspect") fun width d => heading d.name width,
    p.paint .dim (String.ofList (List.replicate 72 '─'))]
    ++ dialectAspects.map fun (aspect, text) =>
      tableRow (fun width => p.paintPadded (.of .yellow) width aspect)
        fun width d => plain (text d) width

end SqlTree.Cli
