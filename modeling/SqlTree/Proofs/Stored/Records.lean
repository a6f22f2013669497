import Mathlib.Data.List.Perm.Basic
import SqlTree.Proofs.Stored.Leaner

/-!
# Records and choices, recovered

A record is recovered where its fields are.  `Fields.Holds` says how an
object holds the values of some fields: a member for each, from which its
reader recovers the value, and a default that is the value wherever the
member may be left out.

Members are read in the order of their names and not in the order of the
fields, so the slots are described by the set of names that have been read
(`Fields.filled`), on which the order has no influence.

A choice is recovered where the content of its variant is.  The names of
variants may never be left out.
-/

set_option autoImplicit false

namespace SqlTree

/-! ## Members in the order of their names -/

namespace Outline

theorem ofMembers_eq_map (members : List (String × Json)) :
    ofMembers members = members.map fun m => (m.1, ofJson m.2) := by
  induction members with
  | nil => rfl
  | cons m members ih => rw [ofMembers, ih, List.map_cons]

/-- A member with a new name is put among the others. -/
theorem insertMember_perm {name : String} (value : Outline) {members : List (String × Outline)}
    (h : name ∉ members.map Prod.fst) :
    (insertMember name value members).Perm ((name, value) :: members) := by
  induction members with
  | nil => exact .rfl
  | cons m members ih =>
    obtain ⟨other, found⟩ := m
    rw [List.map_cons, List.mem_cons, not_or] at h
    rw [insertMember, if_neg h.1]
    split
    · exact .rfl
    · exact ((ih h.2).cons _).trans (.swap _ _ _)

/-- Sorting keeps all members where no name occurs twice. -/
theorem sortMembers_perm {members : List (String × Outline)} (h : (members.map Prod.fst).Nodup) :
    (sortMembers members).Perm members := by
  suffices hinto : ∀ sorted : List (String × Outline),
      ((members ++ sorted).map Prod.fst).Nodup →
      (members.foldl (fun sorted m => insertMember m.1 m.2 sorted) sorted).Perm
        (members ++ sorted) by
    have hsorted := hinto [] (by rwa [List.append_nil])
    rwa [List.append_nil] at hsorted
  clear h
  induction members with
  | nil => exact fun _ _ => .rfl
  | cons m members ih =>
    intro sorted hnodup
    have hnew : m.1 ∉ sorted.map Prod.fst := by
      rw [List.cons_append, List.map_cons, List.nodup_cons, List.map_append,
        List.mem_append] at hnodup
      exact fun hm => hnodup.1 (.inr hm)
    have hinsert : (members ++ insertMember m.1 m.2 sorted).Perm (m :: members ++ sorted) :=
      ((insertMember_perm m.2 hnew).append_left members).trans List.perm_middle
    exact (ih _ ((hinsert.map Prod.fst).nodup_iff.mpr hnodup)).trans hinsert

end Outline

/-! ## Fields -/

namespace Fields

variable {αs : List Type} {depth : Nat} {holder : String}

/-- The slots of the named fields hold their values, and all others are
empty. -/
def filled {αs : List Type} : Fields αs → Values αs → List String → Slots αs
  | nil, (), _ => ()
  | cons field fields, (a, as), read =>
    (if field.name ∈ read then some a else none, filled fields as read)

/-- The value of the named field is read from the outline. -/
def Reads {αs : List Type} : Fields αs → Values αs → String → Outline → Prop
  | nil, (), _, _ => False
  | cons field fields, (a, as), name, o =>
    if field.name = name then field.read .value o = .ok a else Reads fields as name o

theorem filled_nil (fields : Fields αs) (as : Values αs) :
    fields.filled as [] = fields.noValues := by
  induction fields with
  | nil => rfl
  | cons field fields ih => rw [filled, ih as.2, noValues, if_neg List.not_mem_nil]

/-- A name that is no field fills no slot. -/
theorem filled_cons_of_not_mem {fields : Fields αs} {name : String} (h : name ∉ fields.names)
    (as : Values αs) (read : List String) :
    fields.filled as (name :: read) = fields.filled as read := by
  induction fields with
  | nil => rfl
  | cons field fields ih =>
    rw [names, List.mem_cons, not_or] at h
    have hiff : field.name ∈ name :: read ↔ field.name ∈ read := by
      simp [Ne.symm h.1]
    rw [filled, filled, ih h.2]
    simp only [hiff]

/-- A member fills the slot of its name. -/
theorem put_filled {fields : Fields αs} (hnames : fields.names.Nodup) {as : Values αs}
    {name : String} {o : Outline} (hreads : fields.Reads as name o) {read : List String}
    (hnew : name ∉ read) :
    fields.put .value name o (fields.filled as read)
      = some (.ok (fields.filled as (name :: read))) := by
  induction fields with
  | nil => cases hreads
  | cons field fields ih =>
    rw [names, List.nodup_cons] at hnames
    rw [Reads] at hreads
    rw [filled, filled, put]
    by_cases hname : field.name = name
    · rw [if_pos hname] at hreads ⊢
      rw [hname] at hnames ⊢
      rw [filled_cons_of_not_mem hnames.1, if_neg hnew, hreads]
      simp
      rfl
    · rw [if_neg hname] at hreads ⊢
      rw [ih hnames.2 hreads]
      simp [hname]
      rfl

/-- An empty slot is completed with the default. -/
theorem complete_cons {α : Type} {field : Field α} {fields : Fields αs} {a : α} {as : Values αs}
    {read : List String} (hdefault : field.default = some a)
    (h : fields.complete (fields.filled as read) = .ok as) :
    (cons field fields).complete ((cons field fields).filled (a, as) read) = .ok (a, as) := by
  have hslot : (if field.name ∈ read then some a else none).or field.default = some a := by
    rw [hdefault]
    split <;> rfl
  rw [filled, complete, hslot, h]
  rfl

/-- How an object holds the values of fields: by a member that may be left
out only where the value is the default, or by none where it is. -/
inductive Holds (depth : Nat) (holder : String) :
    {αs : List Type} → Fields αs → Values αs → List (String × Json) → Prop where
  | nil : Holds depth holder .nil () []
  | member {α : Type} {αs : List Type} {field : Field α} {fields : Fields αs} {a : α}
      {as : Values αs} {v : Json} {members : List (String × Json)}
      (hread : field.read.Recovers depth field.name v a)
      (homit : Stored.omitted? holder field.name = some v → field.default = some a)
      (hs : Holds depth holder fields as members) :
      Holds depth holder (.cons field fields) (a, as) ((field.name, v) :: members)
  | absent {α : Type} {αs : List Type} {field : Field α} {fields : Fields αs} {a : α}
      {as : Values αs} {members : List (String × Json)} (hdefault : field.default = some a)
      (hs : Holds depth holder fields as members) :
      Holds depth holder (.cons field fields) (a, as) members

namespace Holds

section Rules

variable {α : Type} {fields : Fields αs} {as : Values αs} {members : List (String × Json)}
  {name : String} {read : Reader α}

/-- A field that is not left out. -/
theorem required {v : Json} {a : α} (h : read.Recovers depth name v a)
    (hs : fields.Holds depth holder as members)
    (hkept : Stored.omitted? holder name ≠ some v := by nofun) :
    (cons (.required name read) fields).Holds depth holder (a, as) ((name, v) :: members) :=
  .member h (fun homit => absurd homit hkept) hs

/-- A field that is left out where it is empty. -/
theorem optional {v : Json} {slot : Option α} (h : read.RecoversSlot depth name v slot)
    (hs : fields.Holds depth holder as members)
    (hname : Stored.omitted? holder name = some .null := by rfl) :
    (cons (.optional name read) fields).Holds depth holder (slot, as) ((name, v) :: members) := by
  refine .member (Reader.Recovers.option h) (fun homit => ?_) hs
  cases hname.symm.trans homit
  cases h with
  | none => rfl
  | some hv _ => exact absurd rfl hv

/-- A list that is left out where it has no items. -/
theorem list {vs : List Json} {as' : List α} (h : read.RecoversAll depth name vs as')
    (hs : fields.Holds depth holder as members)
    (hname : Stored.omitted? holder name = none
      ∨ Stored.omitted? holder name = some (.array []) := by exact .inr rfl) :
    (cons (.list name read) fields).Holds depth holder (as', as)
      ((name, .array vs) :: members) := by
  refine .member (Reader.Recovers.list h) (fun homit => ?_) hs
  obtain hnone | hlist := hname
  · cases hnone.symm.trans homit
  · cases hlist.symm.trans homit
    cases h
    rfl

/-- A mark that is left out where it is not set. -/
theorem flag {b : Bool} (hs : fields.Holds depth holder as members)
    (hname : Stored.omitted? holder name = some (.bool false) := by rfl) :
    (cons (.flag name) fields).Holds depth holder (b, as) ((name, .bool b) :: members) := by
  refine .member (Reader.Recovers.bool b) (fun homit => ?_) hs
  cases hname.symm.trans homit
  rfl

end Rules

variable {fields : Fields αs} {as : Values αs} {members leaner : List (String × Json)}

/-- No member has a name of its own. -/
theorem names_sublist (h : fields.Holds depth holder as members)
    (hlean : Json.LeanerMembers holder members leaner) :
    (leaner.map Prod.fst).Sublist fields.names := by
  induction h generalizing leaner with
  | nil =>
    cases hlean
    exact .slnil
  | member _ _ _ ih =>
    cases hlean with
    | keep _ hleans => exact (ih hleans).cons_cons _
    | drop _ hleans => exact (ih hleans).cons _
  | absent _ _ ih => exact (ih hlean).cons _

/-- What is left of a member is still read. -/
theorem reads (h : fields.Holds depth holder as members) (hnames : fields.names.Nodup)
    (hlean : Json.LeanerMembers holder members leaner) {name : String} {v : Json}
    (hmem : (name, v) ∈ leaner) (hheight : (Outline.ofJson v).height ≤ depth) :
    fields.Reads as name (.ofJson v) := by
  induction h generalizing leaner with
  | nil =>
    cases hlean
    cases hmem
  | @member α αs field fields a as w members hread homit hs ih =>
    rw [names, List.nodup_cons] at hnames
    have hrest : ∀ {leaner}, Json.LeanerMembers holder members leaner → (name, v) ∈ leaner →
        (cons field fields).Reads (a, as) name (.ofJson v) := by
      intro leaner hleans hmem
      have hname := (hs.names_sublist hleans).subset (List.mem_map_of_mem hmem)
      have hne : field.name ≠ name := fun heq => hnames.1 (heq ▸ hname)
      rw [Reads, if_neg hne]
      exact ih hnames.2 hleans hmem
    cases hlean with
    | keep hlean hleans =>
      cases hmem with
      | head =>
        rw [Reads, if_pos rfl]
        exact hread.reads hlean hheight
      | tail _ hmem => exact hrest hleans hmem
    | drop _ hleans => exact hrest hleans hmem
  | @absent α αs field fields a as members hdefault hs ih =>
    rw [names, List.nodup_cons] at hnames
    have hname := (hs.names_sublist hlean).subset (List.mem_map_of_mem hmem)
    have hne : field.name ≠ name := fun heq => hnames.1 (heq ▸ hname)
    rw [Reads, if_neg hne]
    exact ih hnames.2 hlean hmem

/-- The defaults fill the slots of what is left out. -/
theorem complete_filled (h : fields.Holds depth holder as members)
    (hlean : Json.LeanerMembers holder members leaner) {read : List String}
    (hread : ∀ name ∈ leaner.map Prod.fst, name ∈ read) :
    fields.complete (fields.filled as read) = .ok as := by
  induction h generalizing leaner with
  | nil => rfl
  | @member α αs field fields a as w members _ homit _ ih =>
    cases hlean with
    | keep _ hleans =>
      rw [List.map_cons, List.forall_mem_cons] at hread
      rw [filled, if_pos hread.1, complete, ih hleans hread.2]
      rfl
    | drop hdropped hleans =>
      exact complete_cons (homit hdropped) (ih hleans hread)
  | @absent α αs field fields a as members hdefault _ ih =>
    exact complete_cons hdefault (ih hlean hread)

end Holds

end Fields

/-! ## Records -/

namespace Record

variable {αs : List Type} {β : Type} {r : Record αs β}

/-- Members with names of their own fill the slots of their names. -/
theorem readMembers_filled (hnames : r.fields.names.Nodup) {as : Values αs} {read : List String}
    {members : List (String × Outline)} (hreads : ∀ m ∈ members, r.fields.Reads as m.1 m.2)
    (hnew : (members.map Prod.fst ++ read).Nodup) :
    r.readMembers .value (r.fields.filled as read) (members.map fun m => (.string m.1, m.2))
      = .ok (r.fields.filled as ((members.map Prod.fst).reverse ++ read)) := by
  induction members generalizing read with
  | nil => rfl
  | cons m members ih =>
    obtain ⟨name, o⟩ := m
    rw [List.forall_mem_cons] at hreads
    rw [List.map_cons, List.cons_append, List.nodup_cons, List.mem_append, not_or] at hnew
    have hnew' : (members.map Prod.fst ++ name :: read).Nodup := by
      rw [List.perm_middle.nodup_iff, List.nodup_cons, List.mem_append, not_or]
      exact hnew
    have hput := Fields.put_filled hnames hreads.1 hnew.1.2
    rw [List.map_cons, readMembers, hput, List.map_cons, List.reverse_cons, List.append_assoc]
    exact ih hreads.2 hnew'

/-- A record is recovered from an object that holds the values of its
fields. -/
theorem recovers {depth : Nat} {holder : String} {as : Values αs} {members : List (String × Json)}
    {b : β} (h : r.fields.Holds depth holder as members) (hmake : r.make as = b)
    (hnames : r.fields.names.Nodup := by exact of_decide_eq_true rfl) :
    r.read.Recovers (depth + 1) holder (.object members) b := by
  refine ⟨fun hlean hheight => ?_⟩
  cases hlean with
  | @object _ _ leaner hleans =>
    have hnodup : (leaner.map Prod.fst).Nodup := (h.names_sublist hleans).nodup hnames
    have hfst : (Outline.ofMembers leaner).map Prod.fst = leaner.map Prod.fst := by
      rw [Outline.ofMembers_eq_map, List.map_map]
      rfl
    have hperm : (Outline.sortMembers (Outline.ofMembers leaner)).Perm
        (leaner.map fun m => (m.1, Outline.ofJson m.2)) := by
      rw [← Outline.ofMembers_eq_map]
      exact Outline.sortMembers_perm (hfst ▸ hnodup)
    rw [Outline.ofJson, Outline.height] at hheight
    rw [Outline.ofJson]
    generalize Outline.sortMembers (Outline.ofMembers leaner) = sorted at hperm hheight ⊢
    have hsorted : (sorted.map Prod.fst).Perm (leaner.map Prod.fst) := by
      simpa [Function.comp_def] using hperm.map Prod.fst
    have hreads : ∀ m ∈ sorted, r.fields.Reads as m.1 m.2 := by
      intro m hm
      have hinside := Outline.height_le_membersHeight
        (List.mem_map_of_mem (f := fun m => (Outline.string m.1, m.2)) hm)
      obtain ⟨⟨name, v⟩, hmem, rfl⟩ := List.mem_map.mp (hperm.mem_iff.mp hm)
      exact h.reads hnames hleans hmem (hinside.trans (Nat.le_of_succ_le_succ hheight))
    have hrun : r.readMembers .value (r.fields.filled as [])
        (sorted.map fun m => (.string m.1, m.2))
          = .ok (r.fields.filled as ((sorted.map Prod.fst).reverse ++ [])) :=
      readMembers_filled hnames hreads (by simpa using hsorted.nodup_iff.mpr hnodup)
    have hcomplete : r.fields.complete
        (r.fields.filled as ((sorted.map Prod.fst).reverse ++ [])) = .ok as := by
      refine h.complete_filled hleans fun name hname => ?_
      rw [List.append_nil, List.mem_reverse]
      exact hsorted.mem_iff.mpr hname
    rw [Fields.filled_nil] at hrun
    show (do
      let slots ← r.readMembers .value r.fields.noValues _
      checkFault none
      let values ← r.fields.complete slots
      Except.ok (r.make values)) = _
    rw [hrun]
    show (do
      let values ← r.fields.complete _
      Except.ok (r.make values)) = _
    rw [hcomplete, ← hmake]
    rfl

/-- The same, where the fields might be nested deeper than they are. -/
theorem recovers_within {depth : Nat} {holder : String} {as : Values αs}
    {members : List (String × Json)} {b : β} (h : r.fields.Holds depth holder as members)
    (hmake : r.make as = b) (hnames : r.fields.names.Nodup := by exact of_decide_eq_true rfl) :
    r.read.Recovers depth holder (.object members) b :=
  (recovers h hmake hnames).mono (Nat.le_succ depth)

end Record

/-! ## Choices -/

namespace Choice

variable {β : Type} {choice : Choice β} {depth : Nat} {holder name : String}

/-- A choice is recovered from the content of its variant, whose name may
not be left out. -/
theorem recovers {content : Content β} {v : Json} {b : β}
    (hfind : choice.find name = .ok content) (h : content.read.Recovers depth name v b)
    (hname : ∀ holder, Stored.omitted? holder name = none := by exact fun _ => rfl) :
    (Choice.read choice).Recovers depth holder (.variant name v) b := by
  refine ⟨fun hlean hheight => ?_⟩
  cases hlean with
  | object hleans =>
    cases hleans with
    | drop hdropped =>
      rw [hname] at hdropped
      cases hdropped
    | @keep _ _ _ v' _ _ hlean hleans =>
      cases hleans
      have hinside : (Outline.ofJson v').height ≤ depth :=
        (Nat.le_max_left _ 0).trans (Nat.le_of_succ_le hheight)
      show (do
        let content ← choice.find name
        content.read .value _) = _
      rw [hfind]
      exact h.reads hlean hinside

/-- A variant with one value. -/
theorem recovers_single {α : Type} {make : α → β} {read : Reader α} {v : Json} {a : α}
    (hfind : choice.find name = .ok (.single (read.map make)))
    (h : read.Recovers depth name v a)
    (hname : ∀ holder, Stored.omitted? holder name = none := by exact fun _ => rfl) :
    (Choice.read choice).Recovers depth holder (.variant name v) (make a) :=
  recovers hfind (h.map make) hname

/-- A variant with fields. -/
theorem recovers_record {αs : List Type} {r : Record αs β} {members : List (String × Json)}
    {as : Values αs} {b : β} (hfind : choice.find name = .ok (.record r))
    (h : r.fields.Holds depth name as members) (hmake : r.make as = b)
    (hnames : r.fields.names.Nodup := by exact of_decide_eq_true rfl)
    (hname : ∀ holder, Stored.omitted? holder name = none := by exact fun _ => rfl) :
    (Choice.read choice).Recovers (depth + 1) holder (.variant name (.object members)) b := by
  refine recovers hfind ⟨fun hlean hheight => ?_⟩ hname
  have hread := (Record.recovers h hmake hnames).reads hlean hheight
  cases hlean with
  | object hleans => exact hread

/-- A variant without content, stored as its name. -/
theorem recovers_unit {b : β} (hfind : choice.find name = .ok (.unit b)) :
    (Choice.read choice).Recovers depth holder (.string name) b := by
  refine ⟨fun hlean _ => ?_⟩
  cases hlean
  show (do
    let content ← choice.find name
    content.bare) = _
  rw [hfind]
  rfl

end Choice

end SqlTree
