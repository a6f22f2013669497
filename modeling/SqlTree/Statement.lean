import SqlTree.Bindings

/-!
# Statements

A statement is a text with its bindings.  Its placeholders are the
question marks outside of quotes.  A quoted part runs from a quote
character to the next one of the same kind; a doubled quote inside of it
closes one part and opens the next, which comes to the same.

An expression is a leaf that brings its own text: a statement, a scalar or
a bare name.
-/

set_option autoImplicit false

namespace SqlTree

/-- A text with the values of its placeholders and names. -/
structure Statement where
  sql : String
  bindings : Bindings
deriving DecidableEq

/-- Whether a quoted part may start with the character. -/
def isQuote (c : Char) : Bool :=
  c == '\x27' || c == '"' || c == '\x60'

/-- The quote that is open after the character `c`, with `quote` open
before it. -/
def quoteAfter (quote : Option Char) (c : Char) : Option Char :=
  match quote with
  | some q => if c = q then none else some q
  | none => if isQuote c then some c else none

/-- The number of placeholders in a text that starts with `quote` open. -/
def countPlaceholders (quote : Option Char) : List Char → Nat
  | [] => 0
  | c :: cs =>
    (if quote.isNone && c == '?' then 1 else 0) + countPlaceholders (quoteAfter quote c) cs

/-- The quote that is open after a text that starts with `quote` open. -/
def quoteAfterAll (quote : Option Char) (cs : List Char) : Option Char :=
  cs.foldl quoteAfter quote

/-- A text is counted part by part, each from where the one before it
ends. -/
theorem countPlaceholders_append (quote : Option Char) (cs ds : List Char) :
    countPlaceholders quote (cs ++ ds)
      = countPlaceholders quote cs + countPlaceholders (quoteAfterAll quote cs) ds := by
  induction cs generalizing quote with
  | nil => simp [countPlaceholders, quoteAfterAll]
  | cons c cs ih =>
    simp only [List.cons_append, countPlaceholders, ih, quoteAfterAll, List.foldl_cons,
      Nat.add_assoc]

/-- The number of placeholders of a statement. -/
def Statement.placeholderCount (s : Statement) : Nat :=
  countPlaceholders none s.sql.toList

/-- A leaf that brings its own text. -/
inductive Expression where
  /-- a text with its bindings -/
  | raw (statement : Statement)
  /-- a scalar -/
  | value (value : Value)
  /-- a name, written without quotes -/
  | column (name : String)
deriving DecidableEq

/-- The statement of an expression. -/
def Expression.toStatement : Expression → Statement
  | .raw s => s
  | .value v => ⟨"?", Bindings.empty.push v⟩
  | .column name => ⟨name, .empty⟩

end SqlTree
