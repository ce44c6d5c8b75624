namespace Dispatch

/-- A clone of a handle shares its cell; each handle carries something of its own besides. -/
structure Handles (α β : Type) where
  cells : List α
  handles : List (Nat × β)
  deriving Repr

namespace Handles

variable {α β : Type} (h : Handles α β)

def empty : Handles α β := ⟨[], []⟩

def add (a : α) (b : β) : Handles α β × Nat :=
  (⟨h.cells ++ [a], h.handles ++ [(h.cells.length, b)]⟩, h.handles.length)

def clone? (i : Nat) : Option (Handles α β × Nat) :=
  h.handles[i]?.map fun p => ({ h with handles := h.handles ++ [p] }, h.handles.length)

def cell? (i : Nat) : Option α := h.handles[i]?.bind fun p => h.cells[p.1]?

def own? (i : Nat) : Option β := h.handles[i]?.map (·.2)

/-- Changes the cell of handle `i`, for all that share it. -/
def setCell (i : Nat) (a : α) : Handles α β :=
  match h.handles[i]? with
  | some p => { h with cells := h.cells.set p.1 a }
  | none => h

def setOwn (i : Nat) (b : β) : Handles α β :=
  match h.handles[i]? with
  | some p => { h with handles := h.handles.set i (p.1, b) }
  | none => h

theorem cell?_setCell {i : Nat} (a : α) (hi : (h.cell? i).isSome) : (h.setCell i a).cell? i = some a := by
  cases hp : h.handles[i]? with
  | none => simp [cell?, hp] at hi
  | some p =>
      have hlt : p.1 < h.cells.length := by simpa [cell?, hp] using hi
      simp [setCell, cell?, hp, hlt]

theorem cell?_eq_none {i : Nat} (hi : h.handles.length ≤ i) : h.cell? i = none := by
  simp [cell?, hi]

@[simp]
theorem handles_setCell (i : Nat) (a : α) : (h.setCell i a).handles = h.handles := by
  unfold setCell
  cases h.handles[i]? <;> rfl

theorem setCell_setCell (i : Nat) (a b : α) : (h.setCell i a).setCell i b = h.setCell i b := by
  unfold setCell
  cases hi : h.handles[i]? with
  | none => simp [hi]
  | some p => simp [hi]

theorem setCell_self {i : Nat} {a : α} (hi : h.cell? i = some a) : h.setCell i a = h := by
  obtain ⟨p, hp, ha⟩ := Option.bind_eq_some_iff.1 hi
  obtain ⟨hlt, rfl⟩ := List.getElem?_eq_some_iff.1 ha
  simp [setCell, hp]

structure OneCell (a : α) : Prop where
  cells : h.cells = [a]
  handles : ∀ p ∈ h.handles, p.1 = 0

namespace OneCell

theorem single (a : α) (b : β) : (empty.add a b).1.OneCell a := ⟨rfl, by simp [add, empty]⟩

variable {h} {a : α} {i : Nat} (hc : h.OneCell a)

include hc

theorem cell? (hi : i < h.handles.length) : h.cell? i = some a := by
  have h0 := hc.handles _ (List.getElem_mem hi)
  simp [Handles.cell?, hi, h0, hc.cells]

theorem setCell (hi : i < h.handles.length) (b : α) : (h.setCell i b).OneCell b := by
  have h0 := hc.handles _ (List.getElem_mem hi)
  refine ⟨?_, by rw [handles_setCell]; exact hc.handles⟩
  simp [Handles.setCell, hi, h0, hc.cells]

theorem clone? {k : Handles α β} {n : Nat} (hk : h.clone? i = some (k, n)) : k.OneCell a := by
  obtain ⟨p, hp, he⟩ := Option.map_eq_some_iff.1 hk
  cases he
  refine ⟨hc.cells, List.forall_mem_append.2 ⟨hc.handles, ?_⟩⟩
  exact List.forall_mem_singleton.2 (hc.handles p (List.mem_of_getElem? hp))

end OneCell

end Handles

end Dispatch
