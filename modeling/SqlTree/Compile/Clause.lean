import SqlTree.Compile.Basic
import SqlTree.Text.Blank

/-!
# Conditions

The tests of a WHERE or ON are joined from left to right.  AND binds more
tightly than OR in SQL, so where an AND follows an OR, what has been
joined so far is put in parentheses first.  A test without a text is left
out, as if it were not there.

A comparison rule is written as it is.  It may hold letters, blanks and
the characters of operators, and not blanks alone.
-/

set_option autoImplicit false

namespace SqlTree

open Text

/-- The tests joined so far, and the rule of the last of them. -/
structure Clause where
  sql : String
  last : Option AppendRule
deriving DecidableEq

namespace Clause

/-- No tests. -/
def empty : Clause :=
  ⟨"", none⟩

/-- The clause with a further test. -/
def append (clause : Clause) (rule : AppendRule) (test : String) : Clause :=
  if test.isEmpty then
    clause
  else
    match clause.last, rule with
    | none, _ => ⟨test, some rule⟩
    | some .or, .and => ⟨"(" ++ clause.sql ++ ") AND " ++ test, some .and⟩
    | some _, _ => ⟨clause.sql ++ " " ++ rule.keyword ++ " " ++ test, some rule⟩

end Clause

/-- What a negated test starts with. -/
def negation (negated : Bool) : String :=
  if negated then "NOT " else ""

/-- The characters of operators. -/
def operatorChars : List Char :=
  ['=', '<', '>', '!', '~', '&', '|', '^', '%', '@', '#', '*', '+', '-', '/']

/-- Whether a comparison rule may hold the character. -/
def isRuleChar (c : Char) : Bool :=
  c.isAlpha || c == ' ' || operatorChars.contains c

/-- Whether the text is a comparison rule. -/
def isRule (rule : String) : Bool :=
  rule.toList.any (fun c => !isBlank c) && rule.toList.all isRuleChar

/-- Refuses a text that is no comparison rule. -/
def requireRule (rule : String) : Compiler Unit :=
  if isRule rule then pure () else throw (.unknownRule rule)

/-- Whether the rule compares with a pattern. -/
def isPatternRule (rule : String) : Bool :=
  rule == "LIKE" || rule == "NOT LIKE"

/-- The character that escapes in patterns. -/
def escapeChar : Value :=
  .text "\\"

/-- A membership test without members: false, and negated true. -/
def emptyMember (negated : Bool) : Compiler String :=
  Compiler.bindValue (.int (if negated then 1 else 0))

end SqlTree
