import SqlTree.Renaming.Rules

/-!
# The visits of a walk

What a walk asks its rules, in order: a visit for every query that it
enters and one for every name that it asks about.  The parts of a query are
visited in the order of its fields, and the queries inside of a part as
part of it.

A visit knows where it happens.  A `Place` is the path from the root and
the nodes on it that a walk makes anew when the name changes.
-/

set_option autoImplicit false

namespace SqlTree

/-- The way from the root query to a part: fields, and positions in
lists. -/
abbrev Path := List String

/-- A path as text. -/
def Path.text (path : Path) : String :=
  String.intercalate "/" path

/-- A part of the tree. -/
structure Place where
  path : Path
  /-- the paths of the nodes around it, from the root on -/
  nodes : List Path
deriving DecidableEq

namespace Place

/-- Where the root query stands. -/
def root : Place :=
  ⟨[], []⟩

/-- A field of the part. -/
def field (p : Place) (name : String) : Place :=
  { p with path := p.path ++ [name] }

/-- An item of the part. -/
def item (p : Place) (i : Nat) : Place :=
  p.field (toString i)

/-- The part as a node. -/
def node (p : Place) : Place :=
  { p with nodes := p.nodes ++ [p.path] }

end Place

/-- What a name is the name of. -/
inductive NameKind where
  | table
  | column
  | target
deriving DecidableEq

/-- The word for a kind of name. -/
def NameKind.word : NameKind → String
  | .table => "table"
  | .column => "column"
  | .target => "target"

/-- What happens on a walk. -/
inductive Visit (Context : Type) where
  /-- a query is entered, with the name and the context that it has inside -/
  | enter (name : Option String) (context : Context)
  /-- the rules are asked about a name -/
  | ask (kind : NameKind) (name : String) (context : Context) (nodes : List Path)

namespace RenamingRules

variable {Context : Type}

/-- What the rules answer about a name. -/
def answer (rules : RenamingRules Context) : NameKind → String → Context → Option String
  | .table => rules.tableName
  | .column => rules.columnName
  | .target => rules.targetName

end RenamingRules

section

variable {Context : Type}

/-- The question about a name at a place. -/
def Place.ask (p : Place) (kind : NameKind) (name : String) (ctx : Context) :
    List (Visit Context) :=
  [.ask kind name ctx p.nodes]

/-- The questions about written columns. -/
def Place.askTargets (p : Place) (ctx : Context) (columns : Option (List String)) :
    List (Visit Context) :=
  (columns.getD []).flatMap fun column => p.ask .target column ctx

mutual

/-- The visits inside of a query, which is a node. -/
def Query.visits (rules : RenamingRules Context) (around : Context) (place : Place) :
    Query → List (Visit Context)
  | ⟨table, aliasName, select, insert, update, delete, joins, criteria, order, offset, limit⟩ =>
    let q : Query :=
      ⟨table, aliasName, select, insert, update, delete, joins, criteria, order, offset, limit⟩
    let ctx := rules.enter q around
    let p := place.node
    .enter q.qualifier? ctx
      :: Table.visitsSlot rules ctx (p.field "table") table
      ++ SelectItem.visitsAll rules ctx (p.field "select") 0 select
      ++ Insert.visitsSlot rules ctx (p.field "insert") insert
      ++ Assignment.visitsAll rules ctx (p.field "update").node 0 update
      ++ Join.visitsAll rules ctx (p.field "joins") 0 joins
      ++ Criterion.visitsAll rules ctx (p.field "criteria") 0 criteria
      ++ Order.visitsAll rules ctx (p.field "order") 0 order
      ++ Operand.visitsSlot rules ctx (p.field "offset") offset
      ++ Operand.visitsSlot rules ctx (p.field "limit") limit

def Table.visits (rules : RenamingRules Context) (ctx : Context) (p : Place) :
    Table → List (Visit Context)
  | .name n => p.ask .table n ctx
  | .query q => q.visits rules ctx p
  | .raw _ => []

def Table.visitsSlot (rules : RenamingRules Context) (ctx : Context) (p : Place) :
    Option Table → List (Visit Context)
  | none => []
  | some t => t.visits rules ctx p

def Column.visits (rules : RenamingRules Context) (ctx : Context) (p : Place) :
    Column → List (Visit Context)
  | .name n => p.ask .column n ctx
  | .query q => q.visits rules ctx p
  | .expr _ => []

def Operand.visits (rules : RenamingRules Context) (ctx : Context) (p : Place) :
    Operand → List (Visit Context)
  | .query q => q.visits rules ctx p
  | .value _ => []
  | .expr _ => []

def Operand.visitsSlot (rules : RenamingRules Context) (ctx : Context) (p : Place) :
    Option Operand → List (Visit Context)
  | none => []
  | some o => o.visits rules ctx p

def Operand.visitsAll (rules : RenamingRules Context) (ctx : Context) (p : Place) (i : Nat) :
    List Operand → List (Visit Context)
  | [] => []
  | o :: os => o.visits rules ctx (p.item i) ++ Operand.visitsAll rules ctx p (i + 1) os

def Subquery.visits (rules : RenamingRules Context) (ctx : Context) (p : Place) :
    Subquery → List (Visit Context)
  | .query q => q.visits rules ctx p
  | .raw _ => []

def Members.visits (rules : RenamingRules Context) (ctx : Context) (p : Place) :
    Members → List (Visit Context)
  | .list vs => Operand.visitsAll rules ctx p 0 vs
  | .select s => s.visits rules ctx p

/-- The visits inside of an aggregate, which is a node. -/
def Aggregate.visits (rules : RenamingRules Context) (ctx : Context) (p : Place) :
    Aggregate → List (Visit Context)
  | ⟨_, c⟩ => c.visits rules ctx (p.node.field "column")

def Selectable.visits (rules : RenamingRules Context) (ctx : Context) (p : Place) :
    Selectable → List (Visit Context)
  | .column c => c.visits rules ctx (p.field "column")
  | .aggregate a => a.visits rules ctx (p.field "aggregate")

/-- The visits inside of an entry of a select list, which is a node. -/
def SelectItem.visits (rules : RenamingRules Context) (ctx : Context) (p : Place) :
    SelectItem → List (Visit Context)
  | ⟨_, s⟩ => s.visits rules ctx p.node

def SelectItem.visitsAll (rules : RenamingRules Context) (ctx : Context) (p : Place) (i : Nat) :
    List SelectItem → List (Visit Context)
  | [] => []
  | item :: items =>
    item.visits rules ctx (p.item i) ++ SelectItem.visitsAll rules ctx p (i + 1) items

def Assignment.visits (rules : RenamingRules Context) (ctx : Context) (p : Place) :
    Assignment → List (Visit Context)
  | ⟨column, v⟩ => p.ask .target column ctx ++ v.visits rules ctx p

/-- The visits inside of a row. -/
def Assignment.visitsAll (rules : RenamingRules Context) (ctx : Context) (p : Place) (i : Nat) :
    List Assignment → List (Visit Context)
  | [] => []
  | a :: row => a.visits rules ctx (p.item i) ++ Assignment.visitsAll rules ctx p (i + 1) row

/-- The visits inside of inserted rows, each of which is a node. -/
def Assignment.visitsRows (rules : RenamingRules Context) (ctx : Context) (p : Place) (i : Nat) :
    List (List Assignment) → List (Visit Context)
  | [] => []
  | row :: rows =>
    Assignment.visitsAll rules ctx (p.item i).node 0 row
      ++ Assignment.visitsRows rules ctx p (i + 1) rows

/-- The visits inside of the select of an INSERT, which is a node. -/
def InsertSelect.visits (rules : RenamingRules Context) (ctx : Context) (place : Place) :
    InsertSelect → List (Visit Context)
  | ⟨columns, select⟩ =>
    let p := place.node
    p.askTargets ctx columns ++ select.visits rules ctx (p.field "select")

/-- The visits inside of what an INSERT writes, which is a node. -/
def Insert.visits (rules : RenamingRules Context) (ctx : Context) (place : Place) :
    Insert → List (Visit Context)
  | .rows rows => Assignment.visitsRows rules ctx (place.node.field "rows") 0 rows
  | .select s => s.visits rules ctx (place.node.field "source")

def Insert.visitsSlot (rules : RenamingRules Context) (ctx : Context) (p : Place) :
    Option Insert → List (Visit Context)
  | none => []
  | some i => i.visits rules ctx p

/-- The visits inside of a criterion, which is a node. -/
def Criterion.visits (rules : RenamingRules Context) (ctx : Context) (place : Place) :
    Criterion → List (Visit Context)
  | .value c _ v _ =>
    let p := place.node
    c.visits rules ctx (p.field "column") ++ v.visits rules ctx (p.field "value")
  | .columns l _ r _ =>
    let p := place.node
    l.visits rules ctx (p.field "left") ++ r.visits rules ctx (p.field "right")
  | .between c low high _ _ =>
    let p := place.node
    c.visits rules ctx (p.field "column") ++ low.visits rules ctx (p.field "min")
      ++ high.visits rules ctx (p.field "max")
  | .group cs _ _ => Criterion.visitsAll rules ctx (place.node.field "criteria") 0 cs
  | .exists s _ _ => s.visits rules ctx (place.node.field "subquery")
  | .member c vs _ _ =>
    let p := place.node
    c.visits rules ctx (p.field "column") ++ vs.visits rules ctx (p.field "values")
  | .null c _ _ => c.visits rules ctx (place.node.field "column")
  | .raw _ _ => []

def Criterion.visitsAll (rules : RenamingRules Context) (ctx : Context) (p : Place) (i : Nat) :
    List Criterion → List (Visit Context)
  | [] => []
  | c :: cs => c.visits rules ctx (p.item i) ++ Criterion.visitsAll rules ctx p (i + 1) cs

/-- The visits inside of an item of ORDER BY, which is a node. -/
def Order.visits (rules : RenamingRules Context) (ctx : Context) (place : Place) :
    Order → List (Visit Context)
  | .column c _ => c.visits rules ctx (place.node.field "column")
  | .nulls c _ => c.visits rules ctx (place.node.field "column")
  | .explicit c vs _ =>
    let p := place.node
    c.visits rules ctx (p.field "column") ++ Operand.visitsAll rules ctx (p.field "values") 0 vs
  | .random => []

def Order.visitsAll (rules : RenamingRules Context) (ctx : Context) (p : Place) (i : Nat) :
    List Order → List (Visit Context)
  | [] => []
  | o :: os => o.visits rules ctx (p.item i) ++ Order.visitsAll rules ctx p (i + 1) os

/-- The visits inside of a join, which is a node. -/
def Join.visits (rules : RenamingRules Context) (ctx : Context) (place : Place) :
    Join → List (Visit Context)
  | ⟨_, t, _, cs⟩ =>
    let p := place.node
    t.visits rules ctx (p.field "table")
      ++ Criterion.visitsAll rules ctx (p.field "criteria") 0 cs

def Join.visitsAll (rules : RenamingRules Context) (ctx : Context) (p : Place) (i : Nat) :
    List Join → List (Visit Context)
  | [] => []
  | j :: js => j.visits rules ctx (p.item i) ++ Join.visitsAll rules ctx p (i + 1) js

end

namespace RenamingRules

/-- The visits of a walk over a query. -/
def visits (rules : RenamingRules Context) (q : Query) : List (Visit Context) :=
  q.visits rules rules.root .root

/-- The nodes around a name that the rules change. -/
def changedNodes (rules : RenamingRules Context) : Visit Context → List Path
  | .enter _ _ => []
  | .ask kind name ctx nodes => if (rules.answer kind name ctx).isSome then nodes else []

/-- The paths without those that came before. -/
def distinctPaths (paths : List Path) : List Path :=
  paths.foldl (fun seen path => if path ∈ seen then seen else seen ++ [path]) []

/-- The nodes that the walk makes anew, each before the nodes inside of
it. -/
def rebuilt (rules : RenamingRules Context) (q : Query) : List Path :=
  distinctPaths ((rules.visits q).flatMap rules.changedNodes)

end RenamingRules

end

end SqlTree
