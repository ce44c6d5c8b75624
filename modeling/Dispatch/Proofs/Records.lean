import Mathlib.Data.List.Nodup
import Dispatch.Json.Record
import Dispatch.Proofs.JsonText

namespace Dispatch.Json

section Written

variable {α : Type} {write : α → Json}

@[simp]
theorem isWritten_text (s : String) : (text s).IsWritten := trivial

@[simp]
theorem isWritten_bool (b : Bool) : (Json.bool b).IsWritten := trivial

@[simp]
theorem isWritten_nat (n : Nat) : (nat n).IsWritten := trivial

@[simp]
theorem isWritten_ofNamed [Named α] (a : α) : (ofNamed a).IsWritten := trivial

@[simp]
theorem isWritten_orNull (h : ∀ a, (write a).IsWritten) (o : Option α) :
    (orNull write o).IsWritten := by
  cases o with
  | none => trivial
  | some a => exact h a

@[simp]
theorem isWritten_map (h : ∀ a, (write a).IsWritten) (as : List α) :
    (Json.array (as.map write)).IsWritten := by
  rw [IsWritten]
  induction as with
  | nil => trivial
  | cons a as ih => exact ⟨h a, ih⟩

@[simp]
theorem isWritten_texts (ss : List String) : (texts ss).IsWritten := isWritten_map isWritten_text ss

theorem isWritten_record {members : List (String × Json)} (h : ∀ m ∈ members, m.2.IsWritten) :
    (record members).IsWritten := by
  rw [record, IsWritten]
  induction members with
  | nil => trivial
  | cons m rest ih =>
      obtain ⟨hm, hrest⟩ := List.forall_mem_cons.1 h
      exact ⟨hm, ih hrest⟩

end Written

section Values

variable {α : Type} {write : α → Json} {read : Decoder α}

/-- What is written of a value is read as that value; it has a text, and it is not `null`. -/
structure ReadsBack (write : α → Json) (read : Decoder α) : Prop where
  written : ∀ a, (write a).IsWritten
  filled : ∀ a, write a ≠ .null
  reads : ∀ a, read (write a) = some a

@[simp]
theorem text?_text (s : String) : text? (.text s) = some s := rfl

@[simp]
theorem bool?_bool (b : Bool) : bool? (.bool b) = some b := rfl

attribute [simp] named?_ofNamed

theorem natBelow?_nat {n bound : Nat} (h : n < bound) : natBelow? bound (.nat n) = some n := if_pos h

@[simp]
theorem uint32?_nat (n : UInt32) : uint32? (.nat n.toNat) = some n := by
  rw [uint32?, natBelow?_nat n.toNat_lt]
  simp

@[simp]
theorem uint64?_nat (n : UInt64) : uint64? (.nat n.toNat) = some n := by
  rw [uint64?, natBelow?_nat n.toNat_lt]
  simp

theorem mapM_map {β : Type} {f : α → β} {g : β → Option α} (h : ∀ a, g (f a) = some a) (as : List α) :
    (as.map f).mapM g = some as := by
  induction as with
  | nil => rfl
  | cons a as ih => simp [h, ih]

@[simp]
theorem list?_map (h : ∀ a, read (write a) = some a) (as : List α) :
    list? read (.array (as.map write)) = some as := mapM_map h as

@[simp]
theorem texts?_texts (ss : List String) : texts? (texts ss) = some ss := list?_map text?_text ss

@[simp]
theorem readsBack_text : ReadsBack text text? := ⟨by simp, fun _ => nofun, by simp⟩

@[simp]
theorem readsBack_bool : ReadsBack .bool bool? := ⟨by simp, fun _ => nofun, by simp⟩

@[simp]
theorem readsBack_named [Named α] : ReadsBack (ofNamed (α := α)) named? :=
  ⟨by simp, fun _ => nofun, by simp⟩

@[simp]
theorem readsBack_texts : ReadsBack texts texts? := ⟨by simp, fun _ => nofun, by simp⟩

theorem ReadsBack.list (h : ReadsBack write read) :
    ReadsBack (fun as => .array (as.map write)) (list? read) :=
  ⟨isWritten_map h.written, fun _ => nofun, list?_map h.reads⟩

@[simp]
theorem ReadsBack.nullable?_write (h : ReadsBack write read) (a : α) :
    nullable? read (write a) = some (some a) := by
  unfold nullable?
  split
  · next heq => exact absurd heq (h.filled a)
  · rw [h.reads]
    rfl

@[simp]
theorem ReadsBack.nullable?_orNull (h : ReadsBack write read) (o : Option α) :
    nullable? read (orNull write o) = some o := by
  cases o with
  | none => rfl
  | some a => exact h.nullable?_write a

end Values

theorem ofMembers?_record {layout : List Field} {members : List (String × Json)}
    (hnames : (members.map (·.1)).Nodup)
    (hknown : ∀ name ∈ members.map (·.1), name ∈ layout.map (·.name)) :
    Fields.ofMembers? layout (members.map fun m => (some m.1, m.2)) = some members := by
  induction members with
  | nil => rfl
  | cons m rest ih =>
      obtain ⟨name, j⟩ := m
      obtain ⟨hfresh, hrest⟩ := List.nodup_cons.1 hnames
      obtain ⟨hname, hothers⟩ := List.forall_mem_cons.1 hknown
      have hany : layout.any (·.name = name) = true := by simpa using hname
      have hnone : rest.lookup name = none := by
        rw [List.lookup_eq_none_iff]
        intro p hp
        have hne : name ≠ p.1 := by
          rintro rfl
          exact hfresh (List.mem_map.2 ⟨p, hp, rfl⟩)
        simp [hne]
      rw [List.map_cons, Fields.ofMembers?, ih hrest hothers]
      simp [hany, hnone]

def InOrder (names : List String) (members : List (String × Json)) : Prop :=
  (members.map (·.1)).Sublist names

@[simp]
theorem inOrder_nil (names : List String) : InOrder names [] := List.nil_sublist names

@[simp]
theorem inOrder_cons {name : String} {j : Json} {names : List String} {members : List (String × Json)} :
    InOrder (name :: names) ((name, j) :: members) ↔ InOrder names members := List.cons_sublist_cons

/-- A record whose members are in the order of its layout is read as these members. -/
theorem fields?_record {layout : List Field} {members : List (String × Json)}
    (hlayout : (layout.map (·.name)).Nodup) (h : InOrder (layout.map (·.name)) members) :
    fields? layout (record members) = some members :=
  ofMembers?_record (hlayout.sublist h) fun _ hname => h.subset hname

theorem readsBack_record {α : Type} {write : α → Json} {read : Decoder α} {layout : List Field}
    {members : α → List (String × Json)} {decode : List (String × Json) → Option α}
    (hwrite : ∀ a, write a = record (members a)) (hread : ∀ j, read j = fields? layout j >>= decode)
    (hlayout : (layout.map (·.name)).Nodup)
    (horder : ∀ a, InOrder (layout.map (·.name)) (members a))
    (hwritten : ∀ a, ∀ m ∈ members a, m.2.IsWritten) (hdecode : ∀ a, decode (members a) = some a) :
    ReadsBack write read := by
  refine ⟨fun a => ?_, fun a => ?_, fun a => ?_⟩
  · rw [hwrite]
    exact isWritten_record (hwritten a)
  · rw [hwrite]
    exact nofun
  · rw [hread, hwrite, fields?_record hlayout (horder a)]
    exact hdecode a

theorem bind_eq_some_of {α β : Type} {x : Option α} {f : α → Option β} {a : α} {b : β} (hx : x = some a)
    (hf : f a = some b) : (x >>= f) = some b := by
  rw [hx]
  exact hf

def member? (name : String) : Json → Option Json
  | .object members => members.lookup (some name)
  | _ => none

def at? (j : Json) (path : List String) : Option Json := path.foldlM (fun j name => j.member? name) j

@[simp]
theorem member?_record (name : String) (members : List (String × Json)) :
    (record members).member? name = members.lookup name := by
  rw [record, member?]
  induction members with
  | nil => rfl
  | cons m rest ih =>
      obtain ⟨key, j⟩ := m
      simp [List.lookup_cons, ih]

theorem at?_cons (j : Json) (name : String) (path : List String) :
    j.at? (name :: path) = (j.at? [name]).bind (·.at? path) := by
  simp [at?]

/-- The value with another one under a name that it has. -/
def replace (j : Json) (name : String) (new : Json) : Json :=
  match j with
  | .object members => .object (members.map fun m => if m.1 = some name then (m.1, new) else m)
  | j => j

@[simp]
theorem replace_record (name : String) (new : Json) (members : List (String × Json)) :
    (record members).replace name new =
      record (members.map fun m => if m.1 = name then (name, new) else m) := by
  rw [record, replace, List.map_map, record, List.map_map]
  congr 1
  apply List.map_congr_left
  rintro ⟨key, j⟩ -
  by_cases h : key = name <;> simp [h]

end Dispatch.Json
