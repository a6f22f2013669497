import SqlTree.Compile.Quoting
import SqlTree.Error
import SqlTree.Statement

/-!
# Compilers

A compiler writes a text and collects the values of its placeholders on
the way.  It starts from the values collected so far and adds its own
after them, in the order of the text, or it fails.

A sub-query is compiled on its own, from no values, and then put in its
place with the values it collected.
-/

set_option autoImplicit false

namespace SqlTree

/-- A text or another result, with the bindings collected on the way. -/
abbrev Compiler (α : Type) := StateT Bindings (Except QueryError) α

namespace Compiler

/-- A placeholder for a value. -/
def bindValue (value : Value) : Compiler String := do
  modify (·.push value)
  return "?"

/-- A statement's text, as it is. -/
def inline (s : Statement) : Compiler String := do
  modify (·.merge s.bindings)
  return s.sql

/-- A statement's text in parentheses. -/
def parenthesized (s : Statement) : Compiler String := do
  return "(" ++ (← inline s) ++ ")"

/-- The texts of several compilers, one after the other. -/
def inSequence : List (Compiler String) → Compiler (List String)
  | [] => return []
  | c :: cs => do
    let text ← c
    let texts ← inSequence cs
    return text :: texts

/-- The texts of several compilers with commas between them. -/
def commaList (cs : List (Compiler String)) : Compiler String := do
  return String.intercalate ", " (← inSequence cs)

/-- The statement that a compiler writes from no values. -/
def statement (c : Compiler String) : Except QueryError Statement :=
  match c.run .empty with
  | .ok (sql, bindings) => .ok ⟨sql, bindings⟩
  | .error e => .error e

/-- The statement of a sub-query. -/
def nested (c : Compiler String) : Compiler Statement :=
  match c.statement with
  | .ok s => return s
  | .error e => throw (.inSubquery e)

/-- A sub-query in parentheses. -/
def subquery (c : Compiler String) : Compiler String := do
  parenthesized (← nested c)

/-- A text after a keyword, where there is one. -/
def keywordPart (keyword : String) (text : String) : List String :=
  if text.isEmpty then [] else [keyword ++ " " ++ text]

end Compiler

/-- A text with an alias, where there is one. -/
def Dialect.aliased (d : Dialect) (aliasName : Option String) (sql : String) : String :=
  match aliasName with
  | some name => sql ++ " AS " ++ d.quoteName name
  | none => sql

/-- An expression in parentheses. -/
def Expression.compile (e : Expression) : Compiler String :=
  Compiler.parenthesized e.toStatement

end SqlTree
