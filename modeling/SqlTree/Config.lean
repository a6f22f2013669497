import SqlTree.Renaming.Prefixer
import SqlTree.Renaming.Qualifier
import SqlTree.Stored.Decode
import SqlTree.Stored.Encode
import SqlTree.Toml.Parser

/-!
# Settings

The dialect that queries are compiled for, and what happens to their names
before: columns are qualified first, so that the prefix then reaches the
tables that qualify them.
-/

set_option autoImplicit false

namespace SqlTree

/-- What applies to every query. -/
structure Config where
  dialect : Dialect
  /-- the prefix of all tables -/
  tablePrefix : Option String
  /-- whether bare columns get the name of their table -/
  explicitTables : Bool
deriving DecidableEq

namespace Config

/-- The settings where nothing is set. -/
def default : Config :=
  ⟨.common, none, false⟩

/-! ## Applying settings -/

/-- The query with its bare columns qualified, where that is asked for. -/
def qualified (c : Config) (q : Query) : Query :=
  if c.explicitTables then ColumnQualifier.rules.rename q else q

/-- The query with its tables prefixed, where there is a prefix. -/
def prefixed (c : Config) (q : Query) : Query :=
  match c.tablePrefix with
  | none => q
  | some tablePrefix =>
    if tablePrefix.isEmpty then q else (TablePrefixer.inScope tablePrefix).rules.rename q

/-- The query as the settings want it. -/
def apply (c : Config) (q : Query) : Query :=
  c.prefixed (c.qualified q)

/-! ## Stored settings -/

/-- The settings from their stored form.  Unlike the records of a tree they
may hold nothing that is unknown. -/
def stored : Reader Config :=
  Record.read
    { name := "struct Config"
      fields :=
        .cons (.withDefault "dialect" Stored.dialect .common) <|
          .cons (.optional "table_prefix" .string) <| .cons (.flag "explicit_tables") .nil
      make := fun (dialect, tablePrefix, explicitTables, ()) =>
        ⟨dialect, tablePrefix, explicitTables⟩
      strict := true }

/-- The stored form of settings. -/
def toJson (c : Config) : Json :=
  .object
    [("dialect", c.dialect.toJson), ("table_prefix", .ofName c.tablePrefix),
     ("explicit_tables", .bool c.explicitTables)]

end Config

/-! ## Settings in a file -/

/-- Why a text holds no settings. -/
inductive ConfigError where
  | badText (fault : Toml.Fault)
  | unknownTable (name : String)
  | unknownKey (key : String)
  | repeatedKey (key : String)
  | wrongType (key : String) (expected : String)
  | unknownDialect (name : String)
deriving DecidableEq

namespace ConfigError

open Text

/-- What is wrong with the settings. -/
def cause : ConfigError → String
  | .badText fault => fault.message
  | .unknownTable name => "unknown table " ++ ticked name
  | .unknownKey key => "unknown key " ++ ticked key
  | .repeatedKey key => "duplicate key " ++ ticked key
  | .wrongType key expected => "the value of " ++ ticked key ++ " is not " ++ expected
  | .unknownDialect name => "unknown dialect " ++ ticked name

/-- The wording of a misfit. -/
def message (e : ConfigError) : String :=
  "TOML parse error: " ++ e.cause

/-- Settings that cannot be read are a fault of the configuration. -/
def toError (e : ConfigError) : Error :=
  ⟨.config, e.message⟩

end ConfigError

namespace Config

/-- The dialect with a stored name. -/
def dialectOfName (name : String) : Except ConfigError Dialect :=
  (Stored.dialect.decode (.string name)).mapError fun _ => .unknownDialect name

/-- The settings with the value of a key. -/
def withEntry (c : Config) (key : String) (value : Toml.Value) : Except ConfigError Config :=
  match key, value with
  | "dialect", .string name => (dialectOfName name).map fun d => { c with dialect := d }
  | "dialect", _ => .error (.wrongType key "a string")
  | "table_prefix", .string s => .ok { c with tablePrefix := some s }
  | "table_prefix", _ => .error (.wrongType key "a string")
  | "explicit_tables", .bool b => .ok { c with explicitTables := b }
  | "explicit_tables", _ => .error (.wrongType key "a truth value")
  | _, _ => .error (.unknownKey key)

/-- The settings with what some lines say.  The keys of `seen` have been
set before. -/
def withLines (c : Config) (seen : List String) : List Toml.Line → Except ConfigError Config
  | [] => .ok c
  | .header name :: _ => .error (.unknownTable name)
  | .entry key value :: lines =>
    if key ∈ seen then
      .error (.repeatedKey key)
    else do
      let c ← c.withEntry key value
      withLines c (key :: seen) lines

/-- The settings of a text.  What it does not set keeps its default. -/
def ofToml (text : String) : Except ConfigError Config :=
  match Toml.read text with
  | .error fault => .error (.badText fault)
  | .ok lines => default.withLines [] lines

end Config

end SqlTree
