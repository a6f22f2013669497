import Mathlib.Data.List.Nodup
import SqlTree.Compile.Select
import SqlTree.Proofs.Compile.Run

/-!
# Rows in the order of listed values

An order of listed values is written in two ways.  CASE gives each row the
rank of the first listed value that it has, and FIELD the position of the
first one, counted from one and in the list as it is written.  Here both are
read back from what is written, the text after the column and the values
bound to its placeholders, as a key to sort by.

Ranks put the rows in the order of the list, in which the first of equal
values counts, and the rows that are not listed before or after all others
(`ListedBefore`).  Positions do the same where the list is written as it is.
To put the rows that are not listed last, the list is written backwards, and
then the last of equal values counts: the two ways sort alike only where the
values first appear in the order in which they last appear.
-/

set_option autoImplicit false

namespace SqlTree

open Compiler

/-! ## Keys -/

/-- What rows are sorted by: a place for each value, from the lowest place
on or from the highest. -/
structure SortKey where
  place : Value → Int
  descending : Bool

/-- A row with the value `x` goes before a row with the value `y`. -/
def SortKey.Before (k : SortKey) (x y : Value) : Prop :=
  if k.descending then k.place y < k.place x else k.place x < k.place y

instance (k : SortKey) (x y : Value) : Decidable (k.Before x y) :=
  inferInstanceAs (Decidable (if k.descending then _ else _))

/-- Listed values go in the order in which they first appear, and values
that are not listed before or after all of them. -/
def ListedBefore (values : List Value) (othersFirst : Bool) (x y : Value) : Prop :=
  if x ∈ values then
    if y ∈ values then values.idxOf x < values.idxOf y else othersFirst = false
  else
    y ∈ values ∧ othersFirst = true

/-- Values that first appear one after the other last appear so too. -/
def AppearInOneOrder (values : List Value) : Prop :=
  ∀ x ∈ values, ∀ y ∈ values, values.idxOf x < values.idxOf y →
    values.reverse.idxOf y < values.reverse.idxOf x

/-! ## Reading what is written -/

/-- A bound rank. -/
def Value.rank? : Value → Option Int
  | .int n => some n.toInt
  | _ => none

/-- The ranks in the branches of a CASE.  Each placeholder takes the next
bound value, and a row takes the rank of the first branch with its value, or
else the one after ELSE. -/
def readBranches : List Char → List Value → Option (Value → Int)
  | _, [] => none
  | text, [other] =>
    if text = " ELSE ? END".toList then other.rank?.map fun rank _ => rank else none
  | text, v :: place :: bound => do
    let text ← text.dropPrefix? " WHEN ? THEN ?".toList
    let rank ← place.rank?
    let others ← readBranches text bound
    some fun x => if x = v then rank else others x

/-- A CASE over a column sorts by its ranks, the lowest first. -/
def readCase (column sql : String) (bound : List Value) : Option SortKey := do
  let text ← sql.toList.dropPrefix? ("CASE " ++ column).toList
  let place ← readBranches text bound
  some ⟨place, false⟩

/-- The positions in the list of a FIELD, from `position` on.  A row takes
the position of the first value that it has, or else zero. -/
def readPositions (position : Int) : List Char → List Value → Option SortKey
  | _, [] => none
  | text, [v] =>
    let place := fun x => if x = v then position else 0
    if text = "?) ASC".toList then some ⟨place, false⟩
    else if text = "?) DESC".toList then some ⟨place, true⟩
    else none
  | text, v :: w :: bound => do
    let text ← text.dropPrefix? "?, ".toList
    let others ← readPositions (position + 1) text (w :: bound)
    some { others with place := fun x => if x = v then position else others.place x }

/-- A FIELD of a column sorts by its positions, in the written direction. -/
def readField (column sql : String) (bound : List Value) : Option SortKey := do
  let text ← sql.toList.dropPrefix? ("FIELD(" ++ column ++ ", ").toList
  readPositions 1 text bound

/-- The key that is written in a dialect, for a column with the text
`column`. -/
def Dialect.readOrder (d : Dialect) (column sql : String) (bound : List Value) : Option SortKey :=
  match d with
  | .mysql => readField column sql bound
  | .common | .sqlite => readCase column sql bound

/-- The order of listed values fails where its column does, and else writes
the column with `key`. -/
structure Column.SortsBy (c : Column) (d : Dialect) (values : List Value) (othersFirst : Bool)
    (key : SortKey) : Prop where
  fails : ∀ {b e}, (c.compile d).run b = .error e →
    ((Order.explicit c (values.map .value) othersFirst).compile d).run b = .error e
  writes : ∀ {b column b'}, (c.compile d).run b = .ok (column, b') →
    ∃ sql bound, ((Order.explicit c (values.map .value) othersFirst).compile d).run b
        = .ok (sql, bound.foldl Bindings.push b')
      ∧ d.readOrder column sql bound = some key

/-! ## What is written -/

theorem dropPrefix?_append (front text : List Char) :
    (front ++ text).dropPrefix? front = some text := by
  rw [List.dropPrefix?_eq_some_iff]
  exact ⟨front, rfl, by simp⟩

theorem Operand.compileAll_values (d : Dialect) (values : List Value) :
    Operand.compileAll d (values.map .value) = values.map bindValue := by
  induction values with
  | nil => rfl
  | cons v values ih => rw [List.map_cons, Operand.compileAll, ih, List.map_cons]; rfl

/-- The place that a list gives to its values, by where they first appear,
and to all others. -/
def listedPlace (first other : Int) (values : List Value) (x : Value) : Int :=
  if x ∈ values then first + values.idxOf x else other

theorem listedPlace_cons (first other : Int) (v : Value) (values : List Value) :
    listedPlace first other (v :: values)
      = fun x => if x = v then first else listedPlace (first + 1) other values x := by
  funext x
  unfold listedPlace
  by_cases hx : x = v
  · simp [hx]
  · have hne : v ≠ x := Ne.symm hx
    simp only [List.mem_cons, hx, false_or, if_false, List.idxOf_cons_ne values hne]
    split
    · push_cast
      omega
    · rfl

/-- A placeholder binds its value. -/
theorem run_bindValue (v : Value) (b : Bindings) : (bindValue v).run b = .ok ("?", b.push v) :=
  rfl

/-! ### Ranks -/

/-- The branches of a CASE bind ranks from `rank` on. -/
theorem caseBranches_reads (values : List Value) (rank : Nat)
    (hsize : rank + values.length ≤ 0x8000000000000000) (b : Bindings) :
    ∃ (text : String) (bound : List Value),
      (caseBranches rank (values.map bindValue)).run b = .ok (text, bound.foldl Bindings.push b)
      ∧ ∀ other n, Value.rank? other = some n →
        readBranches (text ++ " ELSE ? END").toList (bound ++ [other])
          = some (listedPlace rank n values) := by
  induction values generalizing rank b with
  | nil =>
    refine ⟨"", [], rfl, fun other n hother => ?_⟩
    have hnone : listedPlace rank n [] = fun _ => n := rfl
    simp [readBranches, hother, hnone]
  | cons v values ih =>
    rw [List.length_cons] at hsize
    obtain ⟨text, bound, hrun, hreads⟩ := ih (rank + 1) (by omega) ((b.push v).push (.ofRank rank))
    refine ⟨" WHEN " ++ "?" ++ " THEN " ++ "?" ++ text, v :: .ofRank rank :: bound, ?_, ?_⟩
    · rw [List.map_cons, caseBranches, run_bind_of_ok (run_bindValue v b),
        run_bind_of_ok (run_bindValue (.ofRank rank) _), run_bind_of_ok hrun]
      rfl
    · intro other n hother
      have hrank : (Value.ofRank rank).rank? = some (rank : Int) := by
        rw [Value.ofRank, Value.rank?, Int64.toInt_ofNat_of_lt (by omega)]
      have htext : (" WHEN " ++ "?" ++ " THEN " ++ "?" ++ text ++ " ELSE ? END").toList
          = " WHEN ? THEN ?".toList ++ (text ++ " ELSE ? END").toList := by
        simp [String.toList_append]
      obtain ⟨w, rest, hrest⟩ := List.exists_cons_of_ne_nil
        (List.append_ne_nil_of_right_ne_nil bound (List.cons_ne_nil other []))
      have hothers := hreads other n hother
      rw [hrest] at hothers
      rw [List.cons_append, List.cons_append, hrest, htext, readBranches, dropPrefix?_append,
        hrank, listedPlace_cons]
      simp only [Option.bind_eq_bind, Option.bind_some, hothers, Int.natCast_succ]

/-- The rank that others take in a CASE. -/
theorem otherRank_rank? {count : Nat} (othersFirst : Bool) (hsize : count < 0x8000000000000000) :
    (otherRank count othersFirst).rank? = some (if othersFirst then -1 else (count : Int)) := by
  cases othersFirst with
  | true => rfl
  | false =>
    show (Value.ofRank count).rank? = _
    rw [Value.ofRank, Value.rank?, Int64.toInt_ofNat_of_lt hsize]
    rfl

/-- The ranks of listed values. -/
def rankKey (values : List Value) (othersFirst : Bool) : SortKey where
  place := listedPlace 0 (if othersFirst then -1 else values.length) values
  descending := false

/-- The common dialect sorts by rank. -/
theorem Column.sortsBy_rankKey (c : Column) {values : List Value} (hvalues : values ≠ [])
    (hsize : values.length < 0x8000000000000000) (othersFirst : Bool) :
    c.SortsBy .common values othersFirst (rankKey values othersFirst) := by
  have hcompile : (Order.explicit c (values.map .value) othersFirst).compile .common
      = caseOrder (c.compile .common) (values.map bindValue) othersFirst := by
    simp [Order.compile, hvalues, Dialect.listedOrder, Operand.compileAll_values]
  constructor
  · intro b e hcolumn
    rw [hcompile]
    exact run_bind_of_error hcolumn
  · intro b column b' hcolumn
    obtain ⟨text, bound, hrun, hreads⟩ := caseBranches_reads values 0 (by omega) b'
    refine ⟨"CASE " ++ column ++ text ++ " ELSE " ++ "?" ++ " END",
      bound ++ [otherRank values.length othersFirst], ?_, ?_⟩
    · rw [hcompile, caseOrder, run_bind_of_ok hcolumn, run_bind_of_ok hrun, List.length_map,
        run_bind_of_ok (run_bindValue _ _), List.foldl_append]
      rfl
    · have htext : ("CASE " ++ column ++ text ++ " ELSE " ++ "?" ++ " END").toList
          = ("CASE " ++ column).toList ++ (text ++ " ELSE ? END").toList := by
        simp [String.toList_append]
      have hplaces := hreads _ _ (otherRank_rank? othersFirst hsize)
      show readCase column _ _ = _
      rw [readCase, htext, dropPrefix?_append]
      simp only [Option.bind_eq_bind, Option.bind_some, hplaces]
      rfl

/-! ### Positions -/

/-- Placeholders bind their values, the first one first. -/
theorem inSequence_values (values : List Value) (b : Bindings) :
    (inSequence (values.map bindValue)).run b
      = .ok (values.map fun _ => "?", values.foldl Bindings.push b) := by
  induction values generalizing b with
  | nil => rfl
  | cons v values ih =>
    rw [List.map_cons, inSequence, run_bind_of_ok (run_bindValue v b), run_bind_of_ok (ih _)]
    rfl

/-- The list of a FIELD counts its values from `position` on. -/
theorem readPositions_commaList {values : List Value} (hvalues : values ≠ []) (position : Int)
    (ascending : Bool) :
    readPositions position
        (String.intercalate ", " (values.map fun _ => "?") ++ ")"
          ++ if ascending then " ASC" else " DESC").toList values
      = some ⟨listedPlace position 0 values, !ascending⟩ := by
  induction values generalizing position with
  | nil => exact absurd rfl hvalues
  | cons v values ih =>
    cases values with
    | nil =>
      have htext : (String.intercalate ", " ([v].map fun _ => "?") ++ ")"
            ++ if ascending then " ASC" else " DESC")
          = if ascending then "?) ASC" else "?) DESC" := by
        rw [List.map_cons, List.map_nil]
        cases ascending <;> decide
      rw [htext, readPositions, listedPlace_cons]
      cases ascending <;> rfl
    | cons w values =>
      have htext : (String.intercalate ", " ((v :: w :: values).map fun _ => "?") ++ ")"
            ++ if ascending then " ASC" else " DESC").toList
          = "?, ".toList ++ (String.intercalate ", " ((w :: values).map fun _ => "?") ++ ")"
            ++ if ascending then " ASC" else " DESC").toList := by
        rw [List.map_cons, List.map_cons, String.intercalate_cons_cons]
        simp [String.toList_append]
      rw [htext, readPositions, dropPrefix?_append, listedPlace_cons]
      simp only [Option.bind_eq_bind, Option.bind_some, ih (List.cons_ne_nil w values)]

/-- The positions of listed values, in a list that is turned around where
the others go last. -/
def positionKey (values : List Value) (othersFirst : Bool) : SortKey where
  place := listedPlace 1 0 (if othersFirst then values else values.reverse)
  descending := !othersFirst

/-- The MySQL dialect sorts by position. -/
theorem Column.sortsBy_positionKey (c : Column) {values : List Value} (hvalues : values ≠ [])
    (othersFirst : Bool) :
    c.SortsBy .mysql values othersFirst (positionKey values othersFirst) := by
  have hcompile : (Order.explicit c (values.map .value) othersFirst).compile .mysql
      = fieldOrder (c.compile .mysql) (values.map bindValue) othersFirst := by
    simp [Order.compile, hvalues, Dialect.listedOrder, Operand.compileAll_values]
  constructor
  · intro b e hcolumn
    rw [hcompile]
    exact run_bind_of_error hcolumn
  · intro b column b' hcolumn
    have hlist : (if othersFirst then values.map bindValue else (values.map bindValue).reverse)
        = (if othersFirst then values else values.reverse).map bindValue := by
      cases othersFirst <;> simp
    have hne : (if othersFirst then values else values.reverse) ≠ [] := by
      cases othersFirst <;> simpa using hvalues
    generalize hwritten : (if othersFirst then values else values.reverse) = written at hlist hne
    refine ⟨"FIELD(" ++ column ++ ", " ++ String.intercalate ", " (written.map fun _ => "?") ++ ")"
      ++ if othersFirst then " ASC" else " DESC", written, ?_, ?_⟩
    · rw [hcompile, fieldOrder, run_bind_of_ok hcolumn, hlist, commaList]
      rw [bind_assoc, run_bind_of_ok (inSequence_values written b')]
      rfl
    · have htext : ("FIELD(" ++ column ++ ", "
            ++ String.intercalate ", " (written.map fun _ => "?") ++ ")"
            ++ if othersFirst then " ASC" else " DESC").toList
          = ("FIELD(" ++ column ++ ", ").toList
            ++ (String.intercalate ", " (written.map fun _ => "?") ++ ")"
            ++ if othersFirst then " ASC" else " DESC").toList := by
        simp [String.toList_append]
      show readField column _ _ = _
      rw [readField, htext, dropPrefix?_append]
      simp only [Option.bind_eq_bind, Option.bind_some, readPositions_commaList hne]
      rw [positionKey, hwritten]

/-! ## What the keys sort -/

/-- With the others below all listed values, places sort them first. -/
theorem listedPlace_lt_iff_of_below {first other : Int} (h : other < first) (values : List Value)
    (x y : Value) :
    listedPlace first other values x < listedPlace first other values y
      ↔ y ∈ values ∧ (x ∈ values → values.idxOf x < values.idxOf y) := by
  by_cases hx : x ∈ values <;> by_cases hy : y ∈ values <;>
    simp only [listedPlace, hx, hy, if_true, if_false, true_and, false_and, true_implies,
      false_implies, iff_true, iff_false] <;> omega

/-- With the others above all listed values, places sort them last. -/
theorem listedPlace_lt_iff_of_above {first other : Int} {values : List Value}
    (h : first + values.length ≤ other) (x y : Value) :
    listedPlace first other values x < listedPlace first other values y
      ↔ x ∈ values ∧ (y ∈ values → values.idxOf x < values.idxOf y) := by
  have hplace : ∀ {z}, z ∈ values → values.idxOf z < values.length := List.idxOf_lt_length_of_mem
  by_cases hx : x ∈ values
  · have hrank := hplace hx
    by_cases hy : y ∈ values <;>
      simp only [listedPlace, hx, hy, if_true, if_false, true_and, true_implies, false_implies,
        iff_true] <;> omega
  · by_cases hy : y ∈ values
    · have hrank := hplace hy
      simp only [listedPlace, hx, hy, if_true, if_false, false_and, iff_false]
      omega
    · simp [listedPlace, hx, hy]

theorem listedBefore_true_iff (values : List Value) (x y : Value) :
    ListedBefore values true x y
      ↔ y ∈ values ∧ (x ∈ values → values.idxOf x < values.idxOf y) := by
  unfold ListedBefore
  by_cases hx : x ∈ values <;> by_cases hy : y ∈ values <;> simp [hx, hy]

theorem listedBefore_false_iff (values : List Value) (x y : Value) :
    ListedBefore values false x y
      ↔ x ∈ values ∧ (y ∈ values → values.idxOf x < values.idxOf y) := by
  unfold ListedBefore
  by_cases hx : x ∈ values <;> by_cases hy : y ∈ values <;> simp [hx, hy]

/-- Ranks sort as the list asks. -/
theorem rankKey_before_iff (values : List Value) (othersFirst : Bool) (x y : Value) :
    (rankKey values othersFirst).Before x y ↔ ListedBefore values othersFirst x y := by
  cases othersFirst with
  | true =>
    have hbelow : (-1 : Int) < 0 := by decide
    rw [listedBefore_true_iff]
    exact listedPlace_lt_iff_of_below hbelow values x y
  | false =>
    have habove : (0 : Int) + values.length ≤ values.length := by omega
    rw [listedBefore_false_iff]
    exact listedPlace_lt_iff_of_above habove x y

/-- Positions in the list as it is sort as the list asks. -/
theorem positionKey_true_before_iff (values : List Value) (x y : Value) :
    (positionKey values true).Before x y ↔ ListedBefore values true x y := by
  rw [listedBefore_true_iff]
  exact listedPlace_lt_iff_of_below (by decide) values x y

/-- Positions in the list backwards put the others last, and of equal values
the last one counts. -/
theorem positionKey_false_before_iff (values : List Value) (x y : Value) :
    (positionKey values false).Before x y
      ↔ x ∈ values ∧ (y ∈ values → values.reverse.idxOf y < values.reverse.idxOf x) := by
  have hlt := listedPlace_lt_iff_of_below (by decide : (0 : Int) < 1) values.reverse y x
  rwa [List.mem_reverse, List.mem_reverse] at hlt

/-- Values without repetitions first appear in the order in which they last
appear. -/
theorem AppearInOneOrder.of_nodup {values : List Value} (hvalues : values.Nodup) :
    AppearInOneOrder values := by
  have hturned : ∀ z ∈ values,
      values.idxOf z + values.reverse.idxOf z + 1 = values.length := by
    intro z hz
    have hlt := List.idxOf_lt_length_of_mem hz
    have hbound : values.length - 1 - values.idxOf z < values.reverse.length := by
      rw [List.length_reverse]
      omega
    have hback : values.reverse[values.length - 1 - values.idxOf z] = z := by
      rw [List.getElem_reverse]
      convert List.getElem_idxOf hlt using 2
      omega
    have hplace := (List.nodup_reverse.mpr hvalues).idxOf_getElem _ hbound
    rw [hback] at hplace
    omega
  intro x hx y hy hlt
  have := hturned x hx
  have := hturned y hy
  omega

/-- Both keys put the rows in one order where the rows that are not listed go
first, or else where the values appear in one order from both ends. -/
theorem rankKey_agrees_positionKey_iff (values : List Value) (othersFirst : Bool) :
    (∀ x y, (rankKey values othersFirst).Before x y ↔ (positionKey values othersFirst).Before x y)
      ↔ othersFirst = true ∨ AppearInOneOrder values := by
  simp only [rankKey_before_iff]
  cases othersFirst with
  | true => simp [positionKey_true_before_iff]
  | false =>
    simp only [listedBefore_false_iff, positionKey_false_before_iff, Bool.false_eq_true, false_or]
    constructor
    · intro h x hx y hy hlt
      exact ((h x y).mp ⟨hx, fun _ => hlt⟩).2 hy
    · intro h x y
      refine and_congr_right fun hx => forall_congr' fun hy => ⟨h x hx y hy, fun hback => ?_⟩
      obtain hlt | heq | hgt := Nat.lt_trichotomy (values.idxOf x) (values.idxOf y)
      · exact hlt
      · rw [(List.idxOf_inj hx).mp heq] at hback
        exact absurd hback (Nat.lt_irrefl _)
      · exact absurd (h y hy x hx hgt) (Nat.lt_asymm hback)

/-- Listed values are sorted by rank in the common dialect and by position in
MySQL, as read from what is written.  Ranks put the listed values in the
order of the list and the others before or after them.  Positions put the
others there too.  The two sort all rows alike exactly where the others go
first or the values first appear in the order in which they last appear, and
so wherever no value is repeated.  Ranks are integers of 64 bits, and every
list in memory is short enough for them. -/
theorem Column.listed_orders (c : Column) {values : List Value} (hvalues : values ≠ [])
    (hsize : values.length < 0x8000000000000000) (othersFirst : Bool) :
    ∃ ranked placed : SortKey,
      c.SortsBy .common values othersFirst ranked
      ∧ c.SortsBy .mysql values othersFirst placed
      ∧ (∀ x y, ranked.Before x y ↔ ListedBefore values othersFirst x y)
      ∧ (∀ x y, x ∉ values ∨ y ∉ values →
          (placed.Before x y ↔ ListedBefore values othersFirst x y))
      ∧ ((∀ x y, ranked.Before x y ↔ placed.Before x y)
          ↔ othersFirst = true ∨ AppearInOneOrder values)
      ∧ (values.Nodup → ∀ x y, ranked.Before x y ↔ placed.Before x y) := by
  have hagree := rankKey_agrees_positionKey_iff values othersFirst
  refine ⟨rankKey values othersFirst, positionKey values othersFirst,
    c.sortsBy_rankKey hvalues hsize othersFirst, c.sortsBy_positionKey hvalues othersFirst,
    rankKey_before_iff values othersFirst, ?_, hagree,
    fun hnodup => hagree.mpr (.inr (.of_nodup hnodup))⟩
  intro x y hothers
  cases othersFirst with
  | true => exact positionKey_true_before_iff values x y
  | false =>
    rw [positionKey_false_before_iff, listedBefore_false_iff]
    refine and_congr_right fun hx => forall_congr' fun hy => ?_
    exact absurd hy (hothers.resolve_left (not_not_intro hx))

/-- Two values in turn sort alike in both ways. -/
theorem Column.listed_status :
    ∃ ranked placed : SortKey,
      (Column.name "status").SortsBy .common [.text "new", .text "old"] false ranked
      ∧ (Column.name "status").SortsBy .mysql [.text "new", .text "old"] false placed
      ∧ ∀ x y, ranked.Before x y ↔ placed.Before x y := by
  obtain ⟨ranked, placed, hranked, hplaced, -, -, -, hagree⟩ :=
    Column.listed_orders (.name "status") (List.cons_ne_nil (.text "new") [.text "old"])
      (by decide) false
  exact ⟨ranked, placed, hranked, hplaced, hagree (by decide)⟩

/-- A value that is listed again after another goes before it by rank, and
after it by position. -/
theorem Column.repeated_status :
    ∃ ranked placed : SortKey,
      (Column.name "status").SortsBy .common [.text "a", .text "b", .text "a"] false ranked
      ∧ (Column.name "status").SortsBy .mysql [.text "a", .text "b", .text "a"] false placed
      ∧ ranked.Before (.text "a") (.text "b") ∧ ¬ placed.Before (.text "a") (.text "b")
      ∧ placed.Before (.text "b") (.text "a") := by
  have hne := List.cons_ne_nil (Value.text "a") [.text "b", .text "a"]
  refine ⟨_, _, Column.sortsBy_rankKey _ hne (by decide) false,
    Column.sortsBy_positionKey _ hne false, ?_, ?_, ?_⟩
  all_goals decide

end SqlTree
