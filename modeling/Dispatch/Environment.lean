namespace Dispatch

/-- At most one value a name, in the order of the names: environments with the same variables are equal. -/
structure Environment where
  entries : List (String × String)
  sorted : entries.Pairwise (·.1 < ·.1)
  deriving DecidableEq, Repr

namespace Environment

variable {name value other : String} {es : List (String × String)}

def empty : Environment := ⟨[], .nil⟩

instance : Inhabited Environment := ⟨empty⟩

def get? (e : Environment) (name : String) : Option String := e.entries.lookup name

def place (name value : String) : List (String × String) → List (String × String)
  | [] => [(name, value)]
  | e :: es =>
      if name < e.1 then (name, value) :: e :: es
      else if e.1 < name then e :: place name value es
      else (name, value) :: es

theorem mem_place {e : String × String} (h : e ∈ place name value es) : e.1 = name ∨ e ∈ es := by
  induction es with
  | nil => simp_all [place]
  | cons a es ih =>
      simp only [place] at h
      split at h
      · rcases List.mem_cons.1 h with rfl | h
        · exact .inl rfl
        · exact .inr h
      · split at h
        · rcases List.mem_cons.1 h with rfl | h
          · exact .inr List.mem_cons_self
          · exact (ih h).imp_right (List.mem_cons_of_mem _)
        · rcases List.mem_cons.1 h with rfl | h
          · exact .inl rfl
          · exact .inr (List.mem_cons_of_mem _ h)

theorem sorted_place (h : es.Pairwise (·.1 < ·.1)) : (place name value es).Pairwise (·.1 < ·.1) := by
  induction es with
  | nil => simp [place]
  | cons a es ih =>
      obtain ⟨ha, hes⟩ := List.pairwise_cons.1 h
      simp only [place]
      split
      · next hlt =>
          refine List.pairwise_cons.2 ⟨fun b hb => ?_, h⟩
          rcases List.mem_cons.1 hb with rfl | hb
          · exact hlt
          · exact String.lt_trans hlt (ha b hb)
      · split
        · next hgt =>
            refine List.pairwise_cons.2 ⟨fun b hb => ?_, ih hes⟩
            rcases mem_place hb with he | hb
            · simpa [he] using hgt
            · exact ha b hb
        · next hlt hgt =>
            have : name = a.1 := String.le_antisymm (String.not_lt.1 hgt) (String.not_lt.1 hlt)
            exact List.pairwise_cons.2 ⟨fun b hb => by simpa [this] using ha b hb, hes⟩

def insert (e : Environment) (name value : String) : Environment :=
  ⟨place name value e.entries, sorted_place e.sorted⟩

def ofList (entries : List (String × String)) : Environment :=
  entries.foldl (fun e p => e.insert p.1 p.2) empty

theorem lookup_cons (a : String × String) :
    (a :: es).lookup other = if other = a.1 then some a.2 else es.lookup other := by
  obtain ⟨key, v⟩ := a
  by_cases h : other = key <;> simp [List.lookup_cons, h, beq_eq_false_iff_ne.2]

theorem lookup_place :
    (place name value es).lookup other = if other = name then some value else es.lookup other := by
  induction es with
  | nil => simp [place]
  | cons a es ih =>
      simp only [place]
      split
      · rw [lookup_cons]
      · split
        · next hgt =>
            have hne : a.1 ≠ name := fun he => String.lt_irrefl _ (he ▸ hgt)
            simp only [lookup_cons, ih]
            by_cases h : other = a.1
            · simp [h, hne]
            · simp [h]
        · next hlt hgt =>
            have : name = a.1 := String.le_antisymm (String.not_lt.1 hgt) (String.not_lt.1 hlt)
            simp only [lookup_cons, this]
            by_cases h : other = a.1 <;> simp [h]

@[simp]
theorem get?_insert (e : Environment) :
    (e.insert name value).get? other = if other = name then some value else e.get? other :=
  lookup_place

end Environment

end Dispatch
