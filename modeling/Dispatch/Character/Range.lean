namespace Dispatch.Character

/-- Each range goes from one character to another, both included. The tables are those of Unicode 17. -/
abbrev Ranges := List (Nat × Nat)

def Ranges.contains (rs : Ranges) (c : Char) : Bool := rs.any fun r => r.1 ≤ c.toNat && c.toNat ≤ r.2

end Dispatch.Character
