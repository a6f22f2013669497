import SqlTree.Proofs.Dialects.Agreement

/-!
# Identifiers in their quotes

Identifiers have one shape where they have as many parts and the same of
their parts are stars.  Whatever else stands in them, quotes of any kind,
question marks or blanks, stays between the quotes of the dialect: two
identifiers of one shape are the same outside of quotes, and so are any two
aliases.

So two trees that differ in nothing but identifiers of one shape and in
aliases compile alike.  As SELECTs, they fail with the same error, or bind the
same values and have the same texts outside of quotes
(`Query.select_sameOutside`), as long as the texts that they bring along end
outside of quotes.
-/

set_option autoImplicit false

namespace SqlTree

open Text Compiler

/-- Which parts of an identifier are stars. -/
def starParts (name : String) : List Bool :=
  (splitAll '.' name.toList).map fun part => decide (part = ['*'])

/-- The number of parts, and which of them are stars, make the shape of an
identifier. -/
theorem identifierShape_eq_of_stars : ∀ {parts parts' : List (List Char)},
    parts.map (fun part => decide (part = ['*'])) = parts'.map (fun part => decide (part = ['*'])) →
      identifierShape parts = identifierShape parts'
  | [], [], _ => rfl
  | [], _ :: _, h => by cases h
  | _ :: _, [], h => by cases h
  | part :: parts, part' :: parts', h => by
    rw [List.map_cons, List.map_cons, List.cons.injEq] at h
    obtain ⟨hpart, hparts⟩ := h
    have hstar : (if part = ['*'] then part else []) = if part' = ['*'] then part' else [] := by
      by_cases hp : part = ['*']
      · obtain rfl : part' = ['*'] := by simpa [hp] using hpart
        rw [hp]
      · have hp' : part' ≠ ['*'] := by simpa [hp] using hpart
        rw [if_neg hp, if_neg hp']
    have hrest := identifierShape_eq_of_stars hparts
    match parts, parts', hparts with
    | [], [], _ => exact hstar
    | _ :: _, _ :: _, _ =>
      show _ ++ '.' :: identifierShape _ = _ ++ '.' :: identifierShape _
      rw [hstar, hrest]

/-- Trees in one dialect that differ in identifiers of one shape and in
aliases, and bring along texts that end outside of quotes. -/
def Likeness.ofShapes (d : Dialect) : Likeness where
  left := d
  right := d
  texts := .sameOutside
  Names n n' := starParts n = starParts n'
  Aliases _ _ := True
  names_hold h := Dialect.quoteIdentifier_sameOutside d d (identifierShape_eq_of_stars h)
  aliases_hold {a a'} _ := Dialect.quoteName_sameOutside d a d a'

/-- **Identifiers do not break out of their quotes.**  Let two trees differ in
nothing but identifiers of one shape and aliases, and let the texts that they
bring along end outside of quotes.  As SELECTs, they fail with the same
error, or give statements with the same bindings and the same characters
outside of quotes. -/
theorem Query.select_sameOutside (d : Dialect) {q q' : Query}
    (h : q.Like (Likeness.ofShapes d) q') :
    Agree Statement.SameOutside (statement (q.compileSelect d))
      (statement (q'.compileSelect d)) :=
  (Mirrors.statement (Query.compileSelect_mirrors h)).mono fun _ _ hs =>
    ⟨hs.bindings_eq, hs.sql.outside_eq⟩

/-- Rows of one table that are in another, by the given identifiers. -/
def Query.matching (users u name posts p owner : String) : Query :=
  { Query.empty with
    table := some (.name users)
    tableAlias := some u
    select := [⟨some name, .aggregate ⟨"COUNT", .name "*"⟩⟩]
    joins := [⟨.left, .name posts, some p, [.raw ⟨"k = '?' AND n > ?", .ofValues [.int 3]⟩ .and]⟩]
    criteria :=
      [.value (.name name) "LIKE" (.value (.text "x%")) .and,
        .exists (.query { Query.empty with
          table := some (.name posts)
          criteria := [.columns (.name owner) "=" (.name name) .and] }) true .or]
    order := [.explicit (.name owner) [.value .null, .value (.int 1)] false] }

theorem Query.matching_sameOutside :
    let q := matching "users" "u" "u.name" "blog.posts" "p" "p.owner"
    let q' := matching "it's?" "\"; --" "\x60\".?'" "\x60\x60.\"" "*" "'.''"
    q.Like (Likeness.ofShapes .mysql) q'
      ∧ Agree Statement.SameOutside (statement (q.compileSelect .mysql))
        (statement (q'.compileSelect .mysql))
      ∧ (statement (q.compileSelect .mysql)).isOk = true := by
  intro q q'
  have hnames : ∀ {n n' : String}, (starParts n = starParts n') →
      (Likeness.ofShapes .mysql).Names n n' := id
  have htext : (Likeness.ofShapes .mysql).texts.Holds "k = '?' AND n > ?" "k = '?' AND n > ?" :=
    .fixed _
  have hlike : q.Like (Likeness.ofShapes .mysql) q' := by
    have hname := hnames (by decide : starParts "u.name" = starParts "\x60\".?'")
    have hposts := hnames (by decide : starParts "blog.posts" = starParts "\x60\x60.\"")
    have howner := hnames (by decide : starParts "p.owner" = starParts "'.''")
    have husers := hnames (by decide : starParts "users" = starParts "it's?")
    exact ⟨⟨_, rfl, _, rfl, husers⟩, .some trivial,
      ⟨_, _, rfl, ⟨.some trivial, _, rfl, rfl, .fixed "COUNT", _, rfl, rfl⟩, rfl⟩,
      ⟨_, _, rfl, ⟨rfl, ⟨_, rfl, hposts⟩, .some trivial, _, _, rfl, ⟨_, rfl, rfl, htext⟩, rfl⟩,
        rfl⟩,
      ⟨_, _, rfl, ⟨_, _, rfl, ⟨_, rfl, hname⟩, rfl⟩, _, _, rfl, ⟨_, rfl, _, rfl,
        ⟨_, rfl, _, rfl, hposts⟩, .none, rfl, rfl,
        ⟨_, _, rfl, ⟨_, _, rfl, ⟨_, rfl, howner⟩, _, rfl, hname⟩, rfl⟩, rfl, rfl, rfl, .inr rfl⟩,
        rfl⟩,
      ⟨_, _, rfl, ⟨_, _, rfl, ⟨_, rfl, howner⟩, ⟨_, _, rfl, rfl, _, _, rfl, rfl, rfl⟩, .inr .rfl⟩,
        rfl⟩, rfl, rfl, .inr rfl⟩
  exact ⟨hlike, select_sameOutside .mysql hlike, rfl⟩

end SqlTree
