namespace Dispatch.Text

variable {α : Type} [DecidableEq α] {c : α} {s t u : List α}

def splitOnce (c : α) : List α → Option (List α × List α)
  | [] => none
  | x :: rest => if x = c then some ([], rest) else (splitOnce c rest).map fun p => (x :: p.1, p.2)

/-- What stands before the first `c`: everything, where there is none. -/
def before (c : α) (s : List α) : List α := s.takeWhile (· != c)

def beforeLast (c : α) (s : List α) : List α := ((s.reverse.dropWhile (· != c)).drop 1).reverse

def afterLast (c : α) (s : List α) : List α := (s.reverse.takeWhile (· != c)).reverse

def trimStart (c : α) (s : List α) : List α := s.dropWhile (· == c)

def trimEnd (c : α) (s : List α) : List α := (s.reverse.dropWhile (· == c)).reverse

def trim (c : α) (s : List α) : List α := trimEnd c (trimStart c s)

/-- The pieces between the occurrences of `c`, in order: one more than there are occurrences. -/
def pieces (c : α) : List α → List (List α)
  | [] => [[]]
  | x :: rest =>
      if x = c then [] :: pieces c rest
      else match pieces c rest with
        | [] => [[x]]
        | p :: ps => (x :: p) :: ps

def joined (c : α) : List (List α) → List α
  | [] => []
  | [p] => p
  | p :: q :: ps => p ++ c :: joined c (q :: ps)

/-- The ASCII letters are compared without their case. -/
def sameLetters (s t : List Char) : Bool := s.map Char.toLower == t.map Char.toLower

theorem before_append (h : c ∉ s) : before c (s ++ c :: t) = s := by
  induction s with
  | nil => simp [before]
  | cons x rest ih =>
      obtain ⟨hx, hrest⟩ := not_or.1 (mt List.mem_cons.2 h)
      simpa [before, Ne.symm hx] using ih hrest

theorem before_of_not_mem (h : c ∉ s) : before c s = s := by
  induction s with
  | nil => simp [before]
  | cons x rest ih =>
      obtain ⟨hx, hrest⟩ := not_or.1 (mt List.mem_cons.2 h)
      simpa [before, Ne.symm hx] using ih hrest

theorem afterLast_append (h : c ∉ t) : afterLast c (s ++ c :: t) = t := by
  have hrev : (s ++ c :: t).reverse = t.reverse ++ c :: s.reverse := by simp
  have hb := before_append (t := s.reverse) (mt List.mem_reverse.1 h)
  rw [before] at hb
  rw [afterLast, hrev, hb, List.reverse_reverse]

theorem afterLast_of_not_mem (h : c ∉ s) : afterLast c s = s := by
  have hb := before_of_not_mem (mt List.mem_reverse.1 h)
  rw [before] at hb
  rw [afterLast, hb, List.reverse_reverse]

theorem trim_of_not_mem (h : c ∉ s) : trim c s = s := by
  have hne (x : α) (hx : x ∈ s) : (x == c) = false := beq_false_of_ne fun e => h (e ▸ hx)
  have hstart : trimStart c s = s := by
    cases s with
    | nil => rfl
    | cons x rest => exact List.dropWhile_cons_of_neg (by simp [hne x])
  have hend : s.reverse.dropWhile (· == c) = s.reverse := by
    cases hr : s.reverse with
    | nil => rfl
    | cons x rest =>
        have hx : x ∈ s := List.mem_reverse.1 (hr ▸ List.mem_cons_self)
        exact List.dropWhile_cons_of_neg (by simp [hne x hx])
  rw [trim, hstart, trimEnd, hend, List.reverse_reverse]

theorem pieces_ne_nil (c : α) (s : List α) : pieces c s ≠ [] := by
  cases s with
  | nil => simp [pieces]
  | cons x rest =>
      simp only [pieces]
      split
      · simp
      · split <;> simp

theorem joined_pieces (c : α) (s : List α) : joined c (pieces c s) = s := by
  induction s with
  | nil => rfl
  | cons x rest ih =>
      simp only [pieces]
      split
      · next h =>
          subst h
          cases hp : pieces x rest with
          | nil => exact absurd hp (pieces_ne_nil x rest)
          | cons p ps => simp [joined, ← hp, ih]
      · cases hp : pieces c rest with
        | nil => exact absurd hp (pieces_ne_nil c rest)
        | cons p ps =>
            rw [hp] at ih
            cases ps with
            | nil => simpa [joined] using ih
            | cons q qs => simpa [joined] using ih

theorem splitOnce_eq_some (h : splitOnce c s = some (t, u)) : s = t ++ c :: u ∧ c ∉ t := by
  induction s generalizing t with
  | nil => simp [splitOnce] at h
  | cons x rest ih =>
      simp only [splitOnce] at h
      split at h
      · next hx => cases h; simp [hx]
      · next hx =>
          obtain ⟨⟨a, b⟩, hp, heq⟩ := Option.map_eq_some_iff.1 h
          cases heq
          obtain ⟨rfl, hm⟩ := ih hp
          exact ⟨rfl, by simp [hm, Ne.symm hx]⟩

theorem splitOnce_eq_none_iff : splitOnce c s = none ↔ c ∉ s := by
  induction s with
  | nil => simp [splitOnce]
  | cons x rest ih =>
      by_cases hx : x = c
      · simp [splitOnce, hx]
      · simp [splitOnce, hx, ih, Ne.symm hx]

end Dispatch.Text
