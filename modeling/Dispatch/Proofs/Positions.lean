import Dispatch.Channel.Normalize
import Mathlib.Data.List.Nodup

namespace Dispatch

/-- The names of channels from a position on: those that were given, or else the ones that `g`
makes. -/
def named (g : Nat → String) : Nat → List (Option String) → List String
  | _, [] => []
  | n, name :: names => name.getD (g n) :: named g (n + 1) names

/-- As `f` sees them, the given names are distinct, and none is what `g` makes for a channel without
a name. -/
structure Apart {β : Type} (f : String → β) (g : Nat → String) (names : List (Option String)) :
    Prop where
  given : ((names.filterMap id).map f).Nodup
  made : ∀ i, names[i]? = some none → ∀ x, some x ∈ names → f x ≠ f (g (i + 1))

section Named

variable {β : Type} {f : String → β} {g : Nat → String} {n : Nat} {names : List (Option String)}

theorem mem_named {x : String} :
    x ∈ named g n names ↔ some x ∈ names ∨ ∃ i, names[i]? = some none ∧ x = g (n + i) := by
  induction names generalizing n with
  | nil => simp [named]
  | cons name names ih =>
      rw [named, List.mem_cons, ih, List.mem_cons]
      constructor
      · rintro (hx | hx | ⟨i, hi, hx⟩)
        · cases name with
          | none => exact .inr ⟨0, rfl, hx⟩
          | some y => exact .inl (.inl (congrArg some hx))
        · exact .inl (.inr hx)
        · exact .inr ⟨i + 1, hi, by rw [hx, Nat.add_right_comm, Nat.add_assoc]⟩
      · rintro ((hx | hx) | ⟨i, hi, hx⟩)
        · exact .inl (by rw [← hx]; rfl)
        · exact .inr (.inl hx)
        · cases i with
          | zero =>
              have hname : name = none := by simpa using hi
              exact .inl (by rw [hname, hx]; rfl)
          | succ i => exact .inr (.inr ⟨i, hi, by rw [hx, Nat.add_right_comm, Nat.add_assoc]⟩)

theorem not_mem_map_named {y : String} :
    f y ∉ (named g n names).map f ↔ (∀ x, some x ∈ names → f x ≠ f y) ∧
      ∀ i, names[i]? = some none → f (g (n + i)) ≠ f y := by
  constructor
  · intro hy
    refine ⟨fun x hx he => hy ?_, fun i hi he => hy ?_⟩
    · exact List.mem_map.2 ⟨x, mem_named.2 (.inl hx), he⟩
    · exact List.mem_map.2 ⟨_, mem_named.2 (.inr ⟨i, hi, rfl⟩), he⟩
  · rintro ⟨hgiven, hmade⟩ hy
    obtain ⟨x, hx, he⟩ := List.mem_map.1 hy
    rcases mem_named.1 hx with hx | ⟨i, hi, rfl⟩
    · exact hgiven x hx he
    · exact hmade i hi he

theorem forall_unnamed_cons {name : Option String} {p : Nat → Prop} :
    (∀ i, (name :: names)[i]? = some none → p i) ↔
      (name = none → p 0) ∧ ∀ i, names[i]? = some none → p (i + 1) := by
  constructor
  · intro h
    exact ⟨fun hn => h 0 (congrArg some hn), fun i => h (i + 1)⟩
  · rintro ⟨hzero, hsucc⟩ i hi
    cases i with
    | zero => exact hzero (Option.some.inj hi)
    | succ i => exact hsucc i hi

theorem named_nodup_iff_from (hg : ∀ m n, f (g m) = f (g n) → m = n) :
    ((named g n names).map f).Nodup ↔ ((names.filterMap id).map f).Nodup ∧
      ∀ i, names[i]? = some none → ∀ x, some x ∈ names → f x ≠ f (g (n + i)) := by
  -- made names are apart already, so each name is held against those of the other kind
  induction names generalizing n with
  | nil => simp [named]
  | cons name names ih =>
      rw [named, List.map_cons, List.nodup_cons, ih, not_mem_map_named, forall_unnamed_cons]
      simp only [Nat.add_right_comm n 1, ← Nat.add_assoc, Nat.add_zero]
      cases name with
      | none =>
          have hmade : ∀ i, names[i]? = some none → f (g (n + i + 1)) ≠ f (g n) := by
            intro i _ he
            have hn := hg _ _ he
            omega
          simp only [Option.getD_none, List.mem_cons, reduceCtorEq, false_or, forall_const,
            List.filterMap_cons_none, id]
          constructor
          · rintro ⟨⟨hnew, -⟩, hgiven, hrest⟩
            exact ⟨hgiven, hnew, hrest⟩
          · rintro ⟨hgiven, hnew, hrest⟩
            exact ⟨⟨hnew, hmade⟩, hgiven, hrest⟩
      | some y =>
          have hy : f y ∉ (names.filterMap id).map f ↔ ∀ x, some x ∈ names → f x ≠ f y := by simp
          have hgiven : (some y :: names).filterMap id = y :: names.filterMap id := rfl
          rw [hgiven, List.map_cons, List.nodup_cons, hy]
          constructor
          · rintro ⟨⟨hnew, hmade⟩, hgiven, hrest⟩
            refine ⟨⟨hnew, hgiven⟩, nofun, ?_⟩
            intro i hi x hx
            rcases List.mem_cons.1 hx with hx | hx
            · cases hx
              exact (hmade i hi).symm
            · exact hrest i hi x hx
          · rintro ⟨⟨hnew, hgiven⟩, -, hrest⟩
            exact ⟨⟨hnew, fun i hi => (hrest i hi y (by simp)).symm⟩, hgiven,
              fun i hi x hx => hrest i hi x (by simp [hx])⟩

theorem named_nodup_iff (hg : ∀ m n, f (g m) = f (g n) → m = n) :
    ((named g 1 names).map f).Nodup ↔ Apart f g names := by
  rw [named_nodup_iff_from hg]
  constructor
  · rintro ⟨hgiven, hmade⟩
    exact ⟨hgiven, fun i hi x hx => Nat.add_comm 1 i ▸ hmade i hi x hx⟩
  · rintro ⟨hgiven, hmade⟩
    exact ⟨hgiven, fun i hi x hx => (Nat.add_comm 1 i).symm ▸ hmade i hi x hx⟩

theorem named_append (g : Nat → String) (n : Nat) (names names' : List (Option String)) :
    named g n (names ++ names') = named g n names ++ named g (n + names.length) names' := by
  induction names generalizing n with
  | nil => rfl
  | cons name names ih =>
      rw [List.cons_append, named, named, ih, List.length_cons, Nat.add_right_comm, Nat.add_assoc]
      rfl

theorem named_some_nodup_iff {g : Nat → String} (hg : ∀ m n, g m = g n → m = n)
    (names : List (Option String)) : ((named g 1 names).map some).Nodup ↔ Apart id g names := by
  have hid : ((named g 1 names).map id).Nodup ↔ Apart id g names := named_nodup_iff hg
  rw [List.map_id] at hid
  rw [List.nodup_map_iff (fun _ _ => Option.some.inj), hid]

end Named

theorem append_toString_injective (base : String) (m n : Nat)
    (h : base ++ toString m = base ++ toString n) : m = n := by
  have hrepr : m.repr.toList = n.repr.toList :=
    congrArg String.toList (String.append_right_inj base |>.1 h)
  rw [Nat.toList_repr, Nat.toList_repr] at hrepr
  have hvalue := congrArg (Nat.ofDigitChars 10 · 0) hrepr
  simpa only [Nat.ofDigitChars_ten_toDigits] using hvalue

theorem inputName_injective (m n : Nat) (h : inputName m = inputName n) : m = n :=
  append_toString_injective "input-" m n h

theorem outputName_injective (m n : Nat) (h : outputName m = outputName n) : m = n :=
  append_toString_injective "output-" m n h

end Dispatch
