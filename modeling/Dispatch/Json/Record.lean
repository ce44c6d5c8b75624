import Dispatch.Json.Basic

namespace Dispatch.Json

abbrev Decoder (α : Type) := Json → Option α

variable {α : Type}

def text? : Decoder String
  | .string s => s
  | _ => none

def bool? : Decoder Bool
  | .bool b => some b
  | _ => none

def natBelow? (bound : Nat) : Decoder Nat
  | .number (.integer false n) => if n < bound then some n else none
  | _ => none

def uint16? (j : Json) : Option UInt16 := (natBelow? UInt16.size j).map Nat.toUInt16

def uint32? (j : Json) : Option UInt32 := (natBelow? UInt32.size j).map Nat.toUInt32

def uint64? (j : Json) : Option UInt64 := (natBelow? UInt64.size j).map Nat.toUInt64

def list? (decode : Decoder α) : Decoder (List α)
  | .array items => items.mapM decode
  | _ => none

def texts? : Decoder (List String) := list? text?

def nullable? (decode : Decoder α) : Decoder (Option α)
  | .null => some none
  | j => (decode j).map some

/-- A field of a record: its name, and whether the array form may end before it. -/
structure Field where
  name : String
  omittable : Bool := false

abbrev Fields := List (String × Json)

def Fields.ofMembers? (layout : List Field) : List (Literal × Json) → Option Fields
  | [] => some []
  | (none, _) :: _ => none
  | (some name, j) :: rest => do
      let found ← ofMembers? layout rest
      if layout.any (·.name = name) then
        if (found.lookup name).isSome then none else some ((name, j) :: found)
      else some found

def Fields.ofItems? : List Field → List Json → Option Fields
  | [], [] => some []
  | [], _ :: _ => none
  | f :: fs, [] => if f.omittable then ofItems? fs [] else none
  | f :: fs, j :: js => (ofItems? fs js).map ((f.name, j) :: ·)

def fields? (layout : List Field) : Decoder Fields
  | .object members => Fields.ofMembers? layout members
  | .array items => Fields.ofItems? layout items
  | _ => none

namespace Fields

def required? (fs : Fields) (name : String) (decode : Decoder α) : Option α :=
  (fs.lookup name).bind decode

def optional? (fs : Fields) (name : String) (decode : Decoder α) : Option (Option α) :=
  match fs.lookup name with
  | none => some none
  | some j => nullable? decode j

def defaulted? (fs : Fields) (name : String) (default : α) (decode : Decoder α) : Option α :=
  match fs.lookup name with
  | none => some default
  | some j => decode j

end Fields

/-- A type with finitely many values, each of which has a name of its own. -/
class Named (α : Type) where
  name : α → String
  values : List α
  mem_values : ∀ a, a ∈ values
  name_injective : ∀ a b, name a = name b → a = b

def ofName? [Named α] (s : String) : Option α := (Named.values (α := α)).find? (Named.name · = s)

/-- The name alone, or the name as the only member of an object, with no content. -/
def variant? : Decoder String
  | .string s => s
  | .object [(some s, .null)] => some s
  | _ => none

def named? [Named α] (j : Json) : Option α := (variant? j).bind ofName?

def ofNamed [Named α] (a : α) : Json := .text (Named.name a)

theorem ofName?_name [Named α] (a : α) : ofName? (Named.name a) = some a := by
  unfold ofName?
  cases h : (Named.values (α := α)).find? (Named.name · = Named.name a) with
  | none => simpa using List.find?_eq_none.1 h a (Named.mem_values a)
  | some b =>
      have hb := List.find?_some h
      rw [Named.name_injective b a (by simpa using hb)]

theorem named?_ofNamed [Named α] (a : α) : named? (ofNamed a) = some a := ofName?_name a

end Dispatch.Json
