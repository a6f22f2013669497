import Mathlib.Data.List.Forall2
import SqlTree.Stored.Decode
import SqlTree.Stored.Encode
import SqlTree.Proofs.Time.ReadBack

/-!
# Stored forms with fields left out

A stored tree may leave out a field that has its default value.
`Stored.omitted?` lists those fields with their defaults, and
`Json.Leaner` relates a JSON value to what is left of it when any of them
are taken out, at any depth.

Which fields these are depends on the name of the field alone, but for the
criteria of a group, which are always there; so the relation follows the
name of the member that holds a record.

A reader recovers a value from a JSON value when it reads it from every
leaner form (`Reader.Recovers`), nested up to a depth.  The readers of
scalars, lists, pairs and slots are followed here, each by one rule.
-/

set_option autoImplicit false

namespace SqlTree

/-! ## What may be left out -/

/-- The value of a field that may be left out, in a record that the member
`holder` holds. -/
def Stored.omitted? (holder name : String) : Option Json :=
  match name with
  | "table" | "table_alias" | "insert" | "offset" | "limit" | "alias" | "columns" | "name" =>
    some .null
  | "select" | "update" | "joins" | "order" | "bindings" => some (.array [])
  | "criteria" => if holder = "Group" then none else some (.array [])
  | "delete" | "not" | "descending" | "others_first" => some (.bool false)
  | "append_rule" => some (.string "AND")
  | "kind" => some (.string "INNER")
  | _ => none

namespace Json

mutual

/-- The second value is the first one with fields left out, in the member
`holder`. -/
inductive Leaner : String → Json → Json → Prop where
  | null {holder : String} : Leaner holder .null .null
  | bool {holder : String} {b : Bool} : Leaner holder (.bool b) (.bool b)
  | number {holder : String} {n : Number} : Leaner holder (.number n) (.number n)
  | string {holder : String} {s : String} : Leaner holder (.string s) (.string s)
  | array {holder : String} {items leaner : List Json} (h : LeanerItems holder items leaner) :
      Leaner holder (.array items) (.array leaner)
  | object {holder : String} {members leaner : List (String × Json)}
      (h : LeanerMembers holder members leaner) : Leaner holder (.object members) (.object leaner)

/-- Each item of the second list is the one of the first with fields left
out. -/
inductive LeanerItems : String → List Json → List Json → Prop where
  | nil {holder : String} : LeanerItems holder [] []
  | cons {holder : String} {v v' : Json} {items leaner : List Json} (h : Leaner holder v v')
      (hs : LeanerItems holder items leaner) : LeanerItems holder (v :: items) (v' :: leaner)

/-- Each member is kept, with fields left out inside of it, or left out for
its default. -/
inductive LeanerMembers : String → List (String × Json) → List (String × Json) → Prop where
  | nil {holder : String} : LeanerMembers holder [] []
  | keep {holder name : String} {v v' : Json} {members leaner : List (String × Json)}
      (h : Leaner name v v') (hs : LeanerMembers holder members leaner) :
      LeanerMembers holder ((name, v) :: members) ((name, v') :: leaner)
  | drop {holder name : String} {v : Json} {members leaner : List (String × Json)}
      (h : Stored.omitted? holder name = some v) (hs : LeanerMembers holder members leaner) :
      LeanerMembers holder ((name, v) :: members) leaner

end

mutual

/-- Nothing has to be left out. -/
theorem Leaner.refl (holder : String) : ∀ v : Json, v.Leaner holder v
  | .null => .null
  | .bool _ => .bool
  | .number _ => .number
  | .string _ => .string
  | .array items => .array (LeanerItems.refl holder items)
  | .object members => .object (LeanerMembers.refl holder members)

theorem LeanerItems.refl (holder : String) : ∀ items : List Json, LeanerItems holder items items
  | [] => .nil
  | v :: items => .cons (Leaner.refl holder v) (LeanerItems.refl holder items)

theorem LeanerMembers.refl (holder : String) :
    ∀ members : List (String × Json), LeanerMembers holder members members
  | [] => .nil
  | (name, v) :: members => .keep (Leaner.refl name v) (LeanerMembers.refl holder members)

end

end Json

/-! ## Nesting -/

theorem Outline.height_le_membersHeight {name o : Outline} {members : List (Outline × Outline)}
    (h : (name, o) ∈ members) : o.height ≤ Outline.membersHeight members := by
  induction members with
  | nil => cases h
  | cons member members ih =>
    cases h with
    | head => exact Nat.le_max_left _ _
    | tail _ h => exact (ih h).trans (Nat.le_max_right _ _)

/-! ## Recovery -/

namespace Reader

variable {α β : Type} {depth : Nat} {holder : String}

/-- The reader gives `a` for every leaner form of the value that is nested
no deeper than `depth`. -/
structure Recovers (read : Reader α) (depth : Nat) (holder : String) (v : Json) (a : α) :
    Prop where
  reads : ∀ {v' : Json}, v.Leaner holder v' → (Outline.ofJson v').height ≤ depth →
    read .value (.ofJson v') = .ok a

/-- The reader recovers each value from its item. -/
abbrev RecoversAll (read : Reader α) (depth : Nat) (holder : String) :
    List Json → List α → Prop :=
  List.Forall₂ (read.Recovers depth holder)

/-- An empty slot is stored as null, and a value that the reader recovers as
anything else. -/
inductive RecoversSlot (read : Reader α) (depth : Nat) (holder : String) :
    Json → Option α → Prop where
  | none : RecoversSlot read depth holder .null none
  | some {v : Json} {a : α} (hv : v ≠ .null) (h : read.Recovers depth holder v a) :
      RecoversSlot read depth holder v (some a)

namespace Recovers

/-- A reader of deeper values reads the others too. -/
theorem mono {read : Reader α} {depth' : Nat} {v : Json} {a : α}
    (h : read.Recovers depth' holder v a) (hle : depth ≤ depth') :
    read.Recovers depth holder v a :=
  ⟨fun hlean hheight => h.reads hlean (hheight.trans hle)⟩

/-- An object is nested. -/
theorem of_object {read : Reader α} {members : List (String × Json)} {a : α} :
    read.Recovers 0 holder (.object members) a := by
  refine ⟨fun hlean hheight => ?_⟩
  cases hlean
  rw [Outline.ofJson, Outline.height] at hheight
  exact absurd hheight (Nat.not_succ_le_zero _)

theorem map {read : Reader α} {v : Json} {a : α} (h : read.Recovers depth holder v a) (f : α → β) :
    (read.map f).Recovers depth holder v (f a) := by
  refine ⟨fun hlean hheight => ?_⟩
  rw [Reader.map, h.reads hlean hheight]
  rfl

theorem bool (b : Bool) : Reader.bool.Recovers depth holder (.bool b) b := by
  refine ⟨fun hlean _ => ?_⟩
  cases hlean
  rfl

theorem string (s : String) : Reader.string.Recovers depth holder (.string s) s := by
  refine ⟨fun hlean _ => ?_⟩
  cases hlean
  rfl

/-- An integer of 64 bits is in its range. -/
theorem int64 (n : Int64) : Reader.int64.Recovers depth holder (.ofInt64 n) n := by
  refine ⟨fun hlean _ => ?_⟩
  cases hlean
  have hrange : -0x8000000000000000 ≤ n.toInt ∧ n.toInt ≤ 0x7FFFFFFFFFFFFFFF := by
    have hlow := n.le_toInt
    have hhigh := n.toInt_lt
    omega
  show Except.map Int64.ofInt (if _ then _ else _) = _
  rw [if_pos hrange]
  exact congrArg Except.ok n.ofInt_toInt

/-- A finite number has a stored form. -/
theorem float {x : Decimal.Binary64} (hx : x.isFinite = true) :
    Reader.float.Recovers depth holder (.ofFloat x) x := by
  refine ⟨fun hlean _ => ?_⟩
  rw [Json.ofFloat, if_pos hx] at hlean
  cases hlean
  rfl

theorem timestamp (t : Time.Timestamp) :
    Reader.timestamp.Recovers depth holder (.string (t.text "Z")) t := by
  have hread := t.read_text
  generalize t.text "Z" = text at hread
  refine ⟨fun hlean _ => ?_⟩
  cases hlean
  show Except.mapError _ (Time.Timestamp.read _) = _
  rw [hread]
  rfl

/-- A word that names a keyword. -/
theorem keyword {ofKeyword : String → Except KeywordError α} {word : String} {a : α}
    (h : ofKeyword word = .ok a) :
    (Reader.keyword ofKeyword).Recovers depth holder (.string word) a := by
  refine ⟨fun hlean _ => ?_⟩
  cases hlean
  show Except.mapError _ (ofKeyword word) = _
  rw [h]
  rfl

/-- A slot, by what is in it. -/
theorem option {read : Reader α} {v : Json} {slot : Option α}
    (h : read.RecoversSlot depth holder v slot) :
    (Reader.option read).Recovers depth holder v slot := by
  refine ⟨fun {v'} hlean hheight => ?_⟩
  cases h with
  | none =>
    cases hlean
    rfl
  | some hv h =>
    have hread := h.reads hlean hheight
    have hoption : Reader.option read .value (.ofJson v')
        = (read .value (.ofJson v')).map some := by
      cases hlean with
      | null => exact absurd rfl hv
      | bool | number | string | array | object => rfl
    rw [hoption, hread]
    rfl

theorem items {read : Reader α} {vs vs' : List Json} {as : List α}
    (h : read.RecoversAll depth holder vs as) (hlean : Json.LeanerItems holder vs vs')
    (hheight : Outline.itemsHeight (Outline.ofItems vs') ≤ depth) :
    Reader.items read .value (Outline.ofItems vs') = .ok as := by
  induction h generalizing vs' with
  | nil =>
    cases hlean
    rfl
  | cons hv hvs ih =>
    cases hlean with
    | cons hlean hleans =>
      rw [Outline.ofItems, Outline.itemsHeight] at hheight
      rw [Outline.ofItems, Reader.items, hv.reads hlean (by omega), ih hleans (by omega)]
      rfl

/-- A list, by its items. -/
theorem list {read : Reader α} {vs : List Json} {as : List α}
    (h : read.RecoversAll depth holder vs as) :
    (Reader.list read).Recovers depth holder (.array vs) as := by
  refine ⟨fun hlean hheight => ?_⟩
  cases hlean with
  | array hleans =>
    rw [Outline.ofJson, Outline.height] at hheight
    have hitems := items h hleans (by omega)
    show (do
      let values ← Reader.items read .value _
      checkFault Option.none
      Except.ok values) = _
    rw [hitems]
    rfl

/-- A pair, as an array. -/
theorem pair {first : Reader α} {second : Reader β} {v w : Json} {a : α} {b : β}
    (hfirst : first.Recovers depth holder v a) (hsecond : second.Recovers depth holder w b) :
    (Reader.pair first second).Recovers depth holder (.array [v, w]) (a, b) := by
  refine ⟨fun hlean hheight => ?_⟩
  cases hlean with
  | array hleans =>
    cases hleans with
    | cons hv hleans =>
      cases hleans with
      | cons hw hleans =>
        cases hleans
        simp only [Outline.ofJson, Outline.ofItems, Outline.height, Outline.itemsHeight] at hheight
        show (do
          let a ← first .value _
          let b ← second .value _
          Reader.checkTail .value 2 [] Option.none
          Except.ok (a, b)) = _
        rw [hfirst.reads hv (by omega), hsecond.reads hw (by omega)]
        rfl

end Recovers

/-- A name in a slot. -/
theorem RecoversSlot.name (name : Option String) :
    Reader.string.RecoversSlot depth holder (.ofName name) name := by
  cases name with
  | none => exact .none
  | some name => exact .some nofun (Recovers.string name)

/-- Names in a slot. -/
theorem RecoversSlot.names (names : Option (List String)) :
    (Reader.list Reader.string).RecoversSlot depth holder
      (.ofOption (names.map fun names => .array (names.map .string))) names := by
  cases names with
  | none => exact .none
  | some names =>
    refine .some nofun (Recovers.list ?_)
    rw [RecoversAll, List.forall₂_map_left_iff, List.forall₂_same]
    exact fun name _ => Recovers.string name

end Reader

end SqlTree
