import Dispatch.Json.Number

namespace Dispatch

/-- A string literal denotes text, or nothing when it holds half of a surrogate pair. -/
abbrev Json.Literal := Option String

inductive Json
  | null
  | bool (b : Bool)
  | number (n : Json.Number)
  | string (s : Json.Literal)
  | array (items : List Json)
  | object (members : List (Json.Literal × Json))
  deriving Repr, Inhabited

namespace Json

abbrev text (s : String) : Json := .string (some s)

abbrev nat (n : Nat) : Json := .number (.integer false n)

def texts (ss : List String) : Json := .array (ss.map text)

def record (members : List (String × Json)) : Json :=
  .object (members.map fun m => (some m.1, m.2))

def orNull {α : Type} (write : α → Json) : Option α → Json
  | none => .null
  | some a => write a

mutual

def depth : Json → Nat
  | .array items => depthItems items + 1
  | .object members => depthMembers members + 1
  | _ => 0

def depthItems : List Json → Nat
  | [] => 0
  | j :: rest => max (depth j) (depthItems rest)

def depthMembers : List (Literal × Json) → Nat
  | [] => 0
  | (_, j) :: rest => max (depth j) (depthMembers rest)

end

mutual

/-- Every literal denotes text and every number has a finite double. -/
def isSound : Json → Bool
  | .null | .bool _ => true
  | .number n => n.isFinite
  | .string s => s.isSome
  | .array items => areSound items
  | .object members => membersAreSound members

def areSound : List Json → Bool
  | [] => true
  | j :: rest => isSound j && areSound rest

def membersAreSound : List (Literal × Json) → Bool
  | [] => true
  | (name, j) :: rest => name.isSome && isSound j && membersAreSound rest

end

end Json

end Dispatch
