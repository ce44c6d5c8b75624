import Dispatch.Url.Basic

namespace Dispatch

open Text

section Cuts

variable {α : Type} {p : α → Bool} {c x : α} {s t y : List α}

theorem dropWhile_append_cons (hx : p x = false) :
    (s ++ x :: t).dropWhile p = s.dropWhile p ++ x :: t := by
  induction s with
  | nil => exact List.dropWhile_cons_of_neg (by simp [hx])
  | cons y s ih =>
      cases hy : p y with
      | true =>
          rw [List.cons_append, List.dropWhile_cons_of_pos hy, List.dropWhile_cons_of_pos hy, ih]
      | false =>
          rw [List.cons_append, List.dropWhile_cons_of_neg (by simp [hy]),
            List.dropWhile_cons_of_neg (by simp [hy])]
          rfl

theorem takeWhile_append_cons (hx : p x = false) : (s ++ x :: t).takeWhile p = s.takeWhile p := by
  induction s with
  | nil => exact List.takeWhile_cons_of_neg (by simp [hx])
  | cons y s ih =>
      cases hy : p y with
      | true =>
          rw [List.cons_append, List.takeWhile_cons_of_pos hy, List.takeWhile_cons_of_pos hy, ih]
      | false =>
          rw [List.cons_append, List.takeWhile_cons_of_neg (by simp [hy]),
            List.takeWhile_cons_of_neg (by simp [hy])]

theorem dropWhile_append_of_ne_nil (h : s.dropWhile p ≠ []) :
    (s ++ t).dropWhile p = s.dropWhile p ++ t := by
  rw [List.dropWhile_append, if_neg (by simpa using h)]

theorem takeWhile_append_of_ne_nil (h : s.dropWhile p ≠ []) :
    (s ++ t).takeWhile p = s.takeWhile p := by
  induction s with
  | nil => exact absurd rfl h
  | cons y s ih =>
      cases hy : p y with
      | true =>
          rw [List.dropWhile_cons_of_pos hy] at h
          rw [List.cons_append, List.takeWhile_cons_of_pos hy, List.takeWhile_cons_of_pos hy, ih h]
      | false =>
          rw [List.cons_append, List.takeWhile_cons_of_neg (by simp [hy]),
            List.takeWhile_cons_of_neg (by simp [hy])]

theorem eq_nil_of_prefix_cons (h : y <+: c :: t) (hc : c ∉ y) : y = [] := by
  cases y with
  | nil => rfl
  | cons a y =>
      obtain ⟨rfl, -⟩ := List.cons_prefix_cons.1 h
      exact absurd List.mem_cons_self hc

theorem infix_or_infix_of_not_mem (h : y <:+: s ++ c :: t) (hc : c ∉ y) : y <:+: s ∨ y <:+: t := by
  rcases List.infix_append_iff.1 h with h | h | ⟨y₁, y₂, rfl, hs, ht⟩
  · exact .inl h
  · rcases List.infix_cons_iff.1 h with h | h
    · rw [eq_nil_of_prefix_cons h hc]
      exact .inl List.nil_infix
    · exact .inr h
  · rw [eq_nil_of_prefix_cons ht fun h => hc (List.mem_append_right _ h), List.append_nil]
    exact .inl hs.isInfix

end Cuts

namespace Text

variable {α : Type} [DecidableEq α] {c : α} {s t : List α}

theorem splitOnce_append (h : c ∉ s) (t : List α) :
    splitOnce c (s ++ t) = (splitOnce c t).map fun p => (s ++ p.1, p.2) := by
  induction s with
  | nil => exact Option.map_id'.symm
  | cons x s ih =>
      obtain ⟨hx, hs⟩ := not_or.1 (mt List.mem_cons.2 h)
      rw [List.cons_append, splitOnce, if_neg (Ne.symm hx), ih hs]
      cases splitOnce c t <;> rfl

theorem pieces_append (c : α) (s t : List α) :
    pieces c (s ++ c :: t) = pieces c s ++ pieces c t := by
  induction s with
  | nil => simp [pieces]
  | cons x s ih =>
      by_cases hx : x = c
      · simp [pieces, hx, ih]
      · cases hp : pieces c s with
        | nil => exact absurd hp (pieces_ne_nil c s)
        | cons q qs => simp [pieces, hx, ih, hp]

theorem pieces_of_not_mem (h : c ∉ s) : pieces c s = [s] := by
  induction s with
  | nil => rfl
  | cons x s ih =>
      obtain ⟨hx, hs⟩ := not_or.1 (mt List.mem_cons.2 h)
      simp [pieces, Ne.symm hx, ih hs]

theorem pieces_flatMap {ss : List (List α)} (hs : c ∉ s) (hss : ∀ x ∈ ss, c ∉ x) :
    pieces c (s ++ ss.flatMap (c :: ·)) = s :: ss := by
  induction ss generalizing s with
  | nil => rw [List.flatMap_nil, List.append_nil, pieces_of_not_mem hs]
  | cons x ss ih =>
      obtain ⟨hx, hrest⟩ := List.forall_mem_cons.1 hss
      rw [List.flatMap_cons, List.cons_append, pieces_append, pieces_of_not_mem hs, ih hx hrest]
      rfl

omit [DecidableEq α] in
theorem joined_cons (c : α) (s : List α) (rest : List (List α)) :
    joined c (s :: rest) = s ++ rest.flatMap (c :: ·) := by
  induction rest generalizing s with
  | nil => simp [joined]
  | cons t rest ih => rw [joined, ih, List.flatMap_cons, List.cons_append]

theorem pieces_joined {ss : List (List α)} (hne : ss ≠ []) (h : ∀ s ∈ ss, c ∉ s) :
    pieces c (joined c ss) = ss := by
  obtain ⟨s, rest, rfl⟩ := List.exists_cons_of_ne_nil hne
  obtain ⟨hs, hrest⟩ := List.forall_mem_cons.1 h
  rw [joined_cons, pieces_flatMap hs hrest]

theorem mem_pieces {y : List α} (h : y ∈ pieces c s) : y <:+: s ∧ c ∉ y := by
  induction hn : s.length using Nat.strongRecOn generalizing s with
  | ind n ih =>
      by_cases hc : c ∈ s
      · obtain ⟨first, rest, rfl, hfirst⟩ := List.eq_append_cons_of_mem hc
        rw [pieces_append, pieces_of_not_mem hfirst] at h
        rcases List.mem_append.1 h with hy | hy
        · rw [List.mem_singleton.1 hy]
          exact ⟨(List.prefix_append _ _).isInfix, hfirst⟩
        · have hlt : rest.length < n := by
            rw [← hn]
            simp
            omega
          obtain ⟨hrest, hmem⟩ := ih _ hlt hy rfl
          have hsuffix : rest <:+ first ++ c :: rest := ⟨first ++ [c], by simp⟩
          exact ⟨hrest.trans hsuffix.isInfix, hmem⟩
      · rw [pieces_of_not_mem hc] at h
        rw [List.mem_singleton.1 h]
        exact ⟨List.infix_refl s, hc⟩

theorem replace_of_not_mem (h : c ∉ s) (d : α) : s.map (fun x => if x = c then d else x) = s := by
  have hkeep : ∀ x ∈ s, (if x = c then d else x) = x := by
    intro x hx
    apply if_neg
    rintro rfl
    exact h hx
  rw [List.map_congr_left hkeep, List.map_id']

end Text

namespace Url

def isFaint (c : Char) : Bool := c.toNat ≤ 0x20

/-- The last character counts in the text of a URL. -/
def EndsVisibly (s : List Char) : Prop := ∀ c ∈ s.getLast?, isFaint c = false

instance (s : List Char) : Decidable (EndsVisibly s) :=
  decidable_of_iff (s.getLast?.all fun c => !isFaint c) (by simp [EndsVisibly, Option.all_eq_true])

def withoutIgnored (s : List Char) : List Char := s.filter fun c => !isIgnored c

def tidy (s : List Char) : List Char := withoutIgnored (s.reverse.dropWhile isFaint).reverse

theorem cleaned_eq (s : List Char) : cleaned s = tidy (s.dropWhile isFaint) := rfl

theorem withoutIgnored_append (s t : List Char) :
    withoutIgnored (s ++ t) = withoutIgnored s ++ withoutIgnored t :=
  List.filter_append _ _

theorem withoutIgnored_cons {c : Char} (hc : isIgnored c = false) (s : List Char) :
    withoutIgnored (c :: s) = c :: withoutIgnored s :=
  List.filter_cons_of_pos (by simp [hc])

theorem isIgnored_eq_false {c : Char} (hc : isFaint c = false) : isIgnored c = false := by
  rw [Bool.eq_false_iff]
  intro h
  have hcases : (c = '\t' ∨ c = '\n') ∨ c = '\r' := by simpa [isIgnored] using h
  rcases hcases with (rfl | rfl) | rfl <;> cases hc

theorem tidy_append_cons {c : Char} (hc : isFaint c = false) (s t : List Char) :
    tidy (s ++ c :: t) = withoutIgnored s ++ c :: tidy t := by
  rw [tidy, List.reverse_append, List.reverse_cons, List.append_assoc, List.singleton_append,
    dropWhile_append_cons hc, List.reverse_append, List.reverse_cons, List.reverse_reverse,
    List.append_assoc, List.singleton_append, withoutIgnored_append,
    withoutIgnored_cons (isIgnored_eq_false hc)]
  rfl

theorem tidy_append (s t : List Char) : tidy (s ++ '/' :: t) = withoutIgnored s ++ '/' :: tidy t :=
  tidy_append_cons (by decide) s t

theorem tidy_of_endsVisibly {s : List Char} (h : EndsVisibly s) : tidy s = withoutIgnored s := by
  rcases List.eq_nil_or_concat s with rfl | ⟨init, c, rfl⟩
  · rfl
  · rw [List.concat_eq_append] at h ⊢
    have hc : isFaint c = false := h c (by simp)
    rw [tidy, List.reverse_append, List.reverse_singleton, List.singleton_append,
      List.dropWhile_cons_of_neg (by simp [hc])]
    simp

theorem tidy_sublist (s : List Char) : (tidy s).Sublist s := by
  have hdrop := (List.dropWhile_sublist isFaint (l := s.reverse)).reverse
  rw [List.reverse_reverse] at hdrop
  exact List.filter_sublist.trans hdrop

theorem not_isIgnored_of_mem_tidy {s : List Char} {c : Char} (h : c ∈ tidy s) : isIgnored c = false := by
  simpa using (List.mem_filter.1 h).2

theorem withoutIgnored_eq_self {s : List Char} (h : ∀ c ∈ s, isIgnored c = false) :
    withoutIgnored s = s :=
  List.filter_eq_self.2 fun c hc => by simp [h c hc]

theorem endsVisibly_of_tidy {s : List Char} (h : tidy s = s) : EndsVisibly s := by
  intro c hc
  obtain ⟨init, rfl⟩ := List.getLast?_eq_some_iff.1 hc
  cases hfaint : isFaint c with
  | false => rfl
  | true =>
      have hlen : (tidy (init ++ [c])).length ≤ init.length := by
        rw [tidy, List.reverse_append, List.reverse_singleton, List.singleton_append,
          List.dropWhile_cons_of_pos hfaint]
        have hdrop := (List.dropWhile_sublist isFaint (l := init.reverse)).length_le
        have hfilter := List.length_filter_le (fun c => !isIgnored c)
          (init.reverse.dropWhile isFaint).reverse
        rw [List.length_reverse] at hdrop hfilter
        exact Nat.le_trans hfilter hdrop
      rw [h, List.length_append, List.length_singleton] at hlen
      omega

theorem cleaned_append {base : List Char} (hne : base ≠ []) (h : EndsVisibly base) (v : List Char) :
    cleaned (base ++ '/' :: v) = cleaned base ++ '/' :: tidy v := by
  obtain ⟨init, c, rfl⟩ := (List.eq_nil_or_concat base).resolve_left hne
  rw [List.concat_eq_append] at h ⊢
  have hc : isFaint c = false := h c (by simp)
  have hstart (t : List Char) :
      (init ++ c :: t).dropWhile isFaint = init.dropWhile isFaint ++ c :: t :=
    dropWhile_append_cons hc
  have hvisible : EndsVisibly (init.dropWhile isFaint ++ [c]) := by simpa [EndsVisibly] using hc
  rw [cleaned_eq, cleaned_eq, List.append_assoc, List.singleton_append, hstart, hstart, List.append_cons,
    tidy_append, tidy_of_endsVisibly hvisible]

theorem readScheme_append {s scheme rest : List Char} (h : readScheme s = some (scheme, rest))
    (t : List Char) : readScheme (s ++ t) = some (scheme, rest ++ t) := by
  rw [readScheme] at h
  split at h
  · cases h
  · next c hc =>
      split at h
      · next ha =>
          split at h
          · next hcolon =>
              cases h
              have hne : s.dropWhile isSchemeChar ≠ [] := by simp [hcolon]
              have hhead : (s ++ t).head? = some c := by
                rw [List.head?_append, hc]
                rfl
              have hdrop : (s ++ t).dropWhile isSchemeChar = ':' :: (rest ++ t) := by
                rw [dropWhile_append_of_ne_nil hne, hcolon]
                rfl
              have htake := takeWhile_append_of_ne_nil (t := t) hne
              rw [readScheme, hhead]
              simp only [ha, if_true, hdrop, htake]
          · cases h
      · cases h

def readSite (scheme : String) (authority : List Char) :
    Except Error (Host × Option Nat × List Char) := do
  let (hostText, portText) := takeHost false (afterLast '@' authority)
  if hostText = [] then throw .emptyHost
  else
    let host ← Host.read hostText
    let port ← readPort ((portText.drop 1).takeWhile (· ≠ '\\'))
    return (host, if port = defaultPort scheme then none else port,
      (portText.drop 1).dropWhile (· ≠ '\\'))

theorem readAuthority_special {scheme : String} (hs : isSpecial scheme = true) (s : List Char) :
    readAuthority scheme s = (readSite scheme (s.takeWhile fun c => !endsAuthority true c)).map
      fun x => (some x.1, x.2.1, x.2.2 ++ s.dropWhile fun c => !endsAuthority true c) := by
  rw [readAuthority, readSite]
  simp only [hs, if_true, Bool.true_or]
  split
  · rfl
  · cases Host.read (takeHost false _).1 with
    | error e => rfl
    | ok host =>
        change (readPort _ >>= _) = Except.map _ (readPort _ >>= _)
        cases readPort _ <;> rfl

theorem readAuthority_append {scheme : String} (hs : isSpecial scheme = true) {s left : List Char}
    {host : Option Host} {port : Option Nat} (h : readAuthority scheme s = .ok (host, port, left))
    (v : List Char) : readAuthority scheme (s ++ '/' :: v) = .ok (host, port, left ++ '/' :: v) := by
  have hstop : (!endsAuthority true '/') = false := by decide
  rw [readAuthority_special hs] at h ⊢
  rw [takeWhile_append_cons (p := fun c => !endsAuthority true c) hstop,
    dropWhile_append_cons (p := fun c => !endsAuthority true c) hstop]
  cases hsite : readSite scheme (s.takeWhile fun c => !endsAuthority true c) with
  | error e =>
      rw [hsite] at h
      cases h
  | ok x =>
      rw [hsite] at h
      cases h
      simp [Except.map]

theorem cutTail_append {s : List Char} (hq : '?' ∉ s) (hf : '#' ∉ s) (t : List Char) :
    cutTail (s ++ t) = (s ++ (cutTail t).1, (cutTail t).2) := by
  rw [cutTail, cutTail, splitOnce_append hf]
  cases splitOnce '#' t with
  | none =>
      dsimp only [Option.map_none]
      rw [splitOnce_append hq]
      cases splitOnce '?' t <;> rfl
  | some x =>
      dsimp only [Option.map_some]
      rw [splitOnce_append hq]
      cases splitOnce '?' x.1 <;> rfl

theorem cutTail_append_slash {s : List Char} (hq : '?' ∉ s) (hf : '#' ∉ s) (t : List Char) :
    cutTail (s ++ '/' :: t) = (s ++ '/' :: (cutTail t).1, (cutTail t).2) := by
  rw [List.append_cons, cutTail_append (by simp [hq]) (by simp [hf]), List.append_assoc]
  rfl

theorem cutTail_eq_self {s : List Char} (hq : '?' ∉ s) (hf : '#' ∉ s) :
    cutTail s = (s, none, none) := by
  have hnil : cutTail [] = ([], none, none) := rfl
  have hcut := cutTail_append hq hf []
  rwa [List.append_nil, hnil, List.append_nil] at hcut

theorem cutTail_path (s : List Char) :
    (cutTail s).1 <+: s ∧ '?' ∉ (cutTail s).1 ∧ '#' ∉ (cutTail s).1 := by
  have hwhole {t : List Char} (ht : t <+: s) (hf : '#' ∉ t) (hs : splitOnce '?' t = none) :
      t <+: s ∧ '?' ∉ t ∧ '#' ∉ t := ⟨ht, splitOnce_eq_none_iff.1 hs, hf⟩
  have hfront {t : List Char} {x : List Char × List Char} (ht : t <+: s) (hf : '#' ∉ t)
      (hs : splitOnce '?' t = some x) : x.1 <+: s ∧ '?' ∉ x.1 ∧ '#' ∉ x.1 := by
    obtain ⟨rfl, hx⟩ := splitOnce_eq_some hs
    exact ⟨(List.prefix_append _ _).trans ht, hx, fun h => hf (List.mem_append_left _ h)⟩
  rw [cutTail]
  cases hs : splitOnce '#' s with
  | none =>
      have hf := splitOnce_eq_none_iff.1 hs
      dsimp only
      cases hq : splitOnce '?' s with
      | none => exact hwhole (List.prefix_refl s) hf hq
      | some x => exact hfront (List.prefix_refl s) hf hq
  | some y =>
      obtain ⟨hsy, hf⟩ := splitOnce_eq_some hs
      have hy : y.1 <+: s := hsy ▸ List.prefix_append _ _
      dsimp only
      cases hq : splitOnce '?' y.1 with
      | none => exact hwhole hy hf hq
      | some x => exact hfront hy hf hq

theorem cutTail_whole {s : List Char} (hq : (cutTail s).2.1 = none) (hf : (cutTail s).2.2 = none) :
    '?' ∉ s ∧ '#' ∉ s := by
  rw [cutTail] at hq hf
  cases hs : splitOnce '#' s with
  | some x =>
      rw [hs] at hf
      dsimp only at hf
      cases hx : splitOnce '?' x.1 <;> rw [hx] at hf <;> cases hf
  | none =>
      rw [hs] at hq
      dsimp only at hq
      cases hx : splitOnce '?' s with
      | some y =>
          rw [hx] at hq
          cases hq
      | none => exact ⟨splitOnce_eq_none_iff.1 hx, splitOnce_eq_none_iff.1 hs⟩

/-- The segments of a path text, before the dots among them are followed. -/
def readPieces (s : List Char) : List (List Char) :=
  (pieces '/' (s.map fun c => if c = '\\' then '/' else c)).map (Percent.encode Percent.escapesPath)

theorem readPieces_append (s t : List Char) :
    readPieces (s ++ '/' :: t) = readPieces s ++ readPieces t := by
  rw [readPieces, List.map_append, List.map_cons, if_neg (by decide), pieces_append, List.map_append]
  rfl

theorem readPieces_ne_nil (s : List Char) : readPieces s ≠ [] := by
  rw [readPieces, Ne, List.map_eq_nil_iff]
  exact pieces_ne_nil _ _

theorem readPieces_of_whole {s : List Char} (hslash : '/' ∉ s) (hback : '\\' ∉ s) :
    readPieces s = [Percent.encode Percent.escapesPath s] := by
  rw [readPieces, replace_of_not_mem hback, pieces_of_not_mem hslash]
  rfl

theorem mem_readPieces {s x : List Char} (h : x ∈ readPieces s) :
    ∃ y, x = Percent.encode Percent.escapesPath y ∧ y <:+: s ∧ '/' ∉ y ∧ '\\' ∉ y := by
  obtain ⟨y, hy, rfl⟩ := List.mem_map.1 h
  obtain ⟨hpiece, hslash⟩ := mem_pieces hy
  obtain ⟨z, hz, rfl⟩ := List.infix_map_iff.1 hpiece
  -- a backslash would have become a slash, and there is none
  have hback : '\\' ∉ z := fun hmem => hslash (List.mem_map.2 ⟨'\\', hmem, rfl⟩)
  rw [replace_of_not_mem hback] at hslash ⊢
  exact ⟨z, rfl, hz, hslash, hback⟩

def descend : List (List Char) → List (List Char) → List (List Char)
  | done, [] => done
  | done, s :: rest =>
      if isDoubleDot s then descend done.dropLast rest
      else if isSingleDot s then descend done rest
      else descend (done ++ [s]) rest

theorem resolveDots_append {t : List (List Char)} (ht : t ≠ []) (done s : List (List Char)) :
    resolveDots done (s ++ t) = resolveDots (descend done s) t := by
  induction s generalizing done with
  | nil => rfl
  | cons x s ih =>
      have hne : s ++ t ≠ [] := by simp [ht]
      rw [List.cons_append, resolveDots, descend]
      simp only [hne, if_false, List.append_nil, ih]
      by_cases hd : isDoubleDot x
      · simp [hd]
      · by_cases hs : isSingleDot x <;> simp [hd, hs]

theorem descend_append (done s t : List (List Char)) :
    descend done (s ++ t) = descend (descend done s) t := by
  induction s generalizing done with
  | nil => rfl
  | cons x s ih =>
      rw [List.cons_append, descend, descend]
      simp only [ih]
      by_cases hd : isDoubleDot x
      · simp [hd]
      · by_cases hs : isSingleDot x <;> simp [hd, hs]

theorem resolveDots_descend {s : List (List Char)} (hs : s ≠ []) (done : List (List Char)) :
    resolveDots done s = descend done s ∨ resolveDots done s = descend done s ++ [[]] := by
  obtain ⟨init, x, rfl⟩ := (List.eq_nil_or_concat s).resolve_left hs
  rw [List.concat_eq_append, resolveDots_append (by simp), descend_append]
  by_cases hd : isDoubleDot x
  · right
    simp [resolveDots, descend, hd]
  · by_cases hs : isSingleDot x
    · right
      simp [resolveDots, descend, hd, hs]
    · left
      simp [resolveDots, descend, hd, hs]

theorem resolveDots_of_plain {s : List (List Char)}
    (h : ∀ x ∈ s, isDoubleDot x = false ∧ isSingleDot x = false) (done : List (List Char)) :
    resolveDots done s = done ++ s := by
  induction s generalizing done with
  | nil => exact (List.append_nil done).symm
  | cons x s ih =>
      obtain ⟨hx, hs⟩ := List.forall_mem_cons.1 h
      rw [resolveDots]
      simp only [hx.1, hx.2, Bool.false_eq_true, if_false]
      rw [ih hs, List.append_assoc, List.singleton_append]

theorem descend_getElem? {s done : List (List Char)} {i : Nat} {x : List Char}
    (h : (descend done s)[i]? = some x) :
    done[i]? = some x ∨ x ∈ s ∧ isDoubleDot x = false ∧ isSingleDot x = false := by
  induction s generalizing done with
  | nil => exact .inl h
  | cons y s ih =>
      rw [descend] at h
      split at h
      · rcases ih h with h | ⟨hmem, hdots⟩
        · rw [List.getElem?_dropLast] at h
          split at h
          · exact .inl h
          · cases h
        · exact .inr ⟨List.mem_cons_of_mem _ hmem, hdots⟩
      · next hd =>
          split at h
          · exact (ih h).imp id fun ⟨hmem, hdots⟩ => ⟨List.mem_cons_of_mem _ hmem, hdots⟩
          · next hs =>
              rcases ih h with h | ⟨hmem, hdots⟩
              · rw [List.getElem?_append] at h
                split at h
                · exact .inl h
                · rw [List.mem_singleton.1 (List.mem_of_getElem? h)]
                  exact .inr ⟨List.mem_cons_self, by simpa using hd, by simpa using hs⟩
              · exact .inr ⟨List.mem_cons_of_mem _ hmem, hdots⟩

/-- Whatever stands in a place after dots are followed stood there before, or is one of the segments that
were followed, or is empty. -/
theorem resolveDots_getElem? {s done : List (List Char)} {i : Nat} {x : List Char}
    (h : (resolveDots done s)[i]? = some x) :
    done[i]? = some x ∨ x = [] ∨ x ∈ s ∧ isDoubleDot x = false ∧ isSingleDot x = false := by
  cases s with
  | nil => exact .inl h
  | cons y s =>
      rcases resolveDots_descend (List.cons_ne_nil y s) done with hr | hr
      · rw [hr] at h
        exact (descend_getElem? h).imp id .inr
      · rw [hr, List.getElem?_append] at h
        split at h
        · exact (descend_getElem? h).imp id .inr
        · exact .inr (.inl (List.mem_singleton.1 (List.mem_of_getElem? h)))

theorem readPath_append (s : List Char) :
    ∃ dir, (readPath true s = .segments dir ∨ readPath true s = .segments (dir ++ [[]])) ∧
      ∀ v, readPath true (s ++ '/' :: v) = .segments (resolveDots dir (readPieces v)) := by
  cases s with
  | nil => exact ⟨[], .inr rfl, fun v => rfl⟩
  | cons c rest =>
      let text := if isSlash true c then rest else c :: rest
      have hread (t : List Char) :
          readPath true (c :: rest ++ t) = .segments (resolveDots [] (readPieces (text ++ t))) := by
        have htext : (if isSlash true c then rest ++ t else c :: (rest ++ t)) = text ++ t := by
          simp only [text]
          split <;> rfl
        rw [List.cons_append, readPath, htext]
        rfl
      refine ⟨descend [] (readPieces text), ?_, ?_⟩
      · have hnil := hread []
        rw [List.append_nil, List.append_nil] at hnil
        rw [hnil]
        rcases resolveDots_descend (readPieces_ne_nil text) [] with h | h
        · exact .inl (congrArg Path.segments h)
        · exact .inr (congrArg Path.segments h)
      · intro v
        rw [hread, readPieces_append, resolveDots_append (readPieces_ne_nil v)]

theorem complete_site (scheme : List Char) (host : Option Host) (port : Option Nat)
    (path : List Char → Path) (s : List Char) :
    (complete scheme host port path s).scheme = scheme ∧ (complete scheme host port path s).host = host ∧
      (complete scheme host port path s).port = port :=
  ⟨rfl, rfl, rfl⟩

theorem complete_path (scheme : List Char) (host : Option Host) (port : Option Nat)
    (path : List Char → Path) (s : List Char) :
    (complete scheme host port path s).path = path (cutTail s).1 := rfl

/-- A web URL that is only scheme, host, port and path. -/
structure IsPlace (u : Url) : Prop where
  web : u.isWeb = true
  query : u.query = none
  fragment : u.fragment = none

def IsWebScheme (scheme : List Char) : Prop := scheme = "http".toList ∨ scheme = "https".toList

theorem IsWebScheme.special {scheme : List Char} (h : IsWebScheme scheme) :
    isSpecial (String.ofList scheme) = true := by
  rcases h with rfl | rfl <;> decide

theorem IsWebScheme.not_file {scheme : List Char} (h : IsWebScheme scheme) :
    String.ofList scheme ≠ "file" := by
  rcases h with rfl | rfl <;> decide

theorem isWeb_iff {u : Url} : u.isWeb = true ↔ IsWebScheme u.scheme := by
  simp [isWeb, IsWebScheme]

theorem isWeb_special {u : Url} (h : u.isWeb = true) : isSpecial (String.ofList u.scheme) = true :=
  (isWeb_iff.1 h).special

theorem isWeb_not_file {u : Url} (h : u.isWeb = true) : String.ofList u.scheme ≠ "file" :=
  (isWeb_iff.1 h).not_file

theorem IsPlace.special {u : Url} (h : u.IsPlace) : isSpecial (String.ofList u.scheme) = true :=
  isWeb_special h.web

theorem IsPlace.not_file {u : Url} (h : u.IsPlace) : String.ofList u.scheme ≠ "file" :=
  isWeb_not_file h.web

theorem readHosted_ok {scheme s : List Char} {b : Url} (h : readHosted scheme s = .ok b) :
    ∃ host port left, readAuthority (String.ofList scheme) s = .ok (host, port, left) ∧
      b = complete scheme host port (readPath (isSpecial (String.ofList scheme))) left := by
  rw [readHosted] at h
  cases hr : readAuthority (String.ofList scheme) s with
  | error e =>
      simp only [hr] at h
      cases h
  | ok x =>
      obtain ⟨host, port, left⟩ := x
      simp only [hr] at h
      cases h
      exact ⟨host, port, left, rfl, rfl⟩

theorem readHosted_scheme {scheme s : List Char} {b : Url} (h : readHosted scheme s = .ok b) :
    b.scheme = scheme := by
  obtain ⟨host, port, left, -, rfl⟩ := readHosted_ok h
  rfl

theorem readFile_scheme {scheme s : List Char} {b : Url} (h : readFile scheme s = .ok b) :
    b.scheme = scheme := by
  unfold readFile at h
  split at h
  · next x y rest =>
      split at h
      · cases hr : readFileHost rest with
        | error e =>
            rw [hr] at h
            cases h
        | ok x =>
            rw [hr] at h
            cases h
            rfl
      · cases h
        rfl
  · cases h
    rfl

theorem parse_scheme {base : List Char} {b : Url} (h : parse base = .ok b) :
    ∃ rest, readScheme (cleaned base) = some (b.scheme, rest) := by
  rw [parse] at h
  split at h
  · cases h
  · next scheme rest hscheme =>
      have hb : b.scheme = scheme := by
        dsimp only at h
        split at h
        · exact readFile_scheme h
        · split at h
          · exact readHosted_scheme h
          · split at h
            · exact readHosted_scheme h
            · cases h
              rfl
            · cases h
              rfl
      exact ⟨rest, hb ▸ hscheme⟩

theorem parse_web {base scheme rest : List Char} (h : readScheme (cleaned base) = some (scheme, rest))
    (hf : String.ofList scheme ≠ "file") (hs : isSpecial (String.ofList scheme) = true) :
    parse base = readHosted scheme (rest.dropWhile (isSlash true)) := by
  rw [parse, h]
  simp only [hf, if_false, hs, if_true]

theorem readHosted_nil {scheme : List Char} (hs : isSpecial (String.ofList scheme) = true) (b : Url) :
    readHosted scheme [] ≠ .ok b := by
  intro h
  obtain ⟨host, port, left, hr, -⟩ := readHosted_ok h
  rw [readAuthority_special hs] at hr
  cases hr

/-- What is put behind a web address, after a slash, is read as the text of a path, query and fragment of
its own; the path goes on from where the address leads. -/
theorem parse_append {base : List Char} {b : Url} (h : parse base = .ok b) (hb : b.IsPlace)
    (hend : EndsVisibly base) :
    ∃ dir, (b.path = .segments dir ∨ b.path = .segments (dir ++ [[]])) ∧
      ∀ v, parse (base ++ '/' :: v) = .ok (complete b.scheme b.host b.port
        (fun s => .segments (resolveDots dir (readPieces s))) (tidy v)) := by
  have hne : base ≠ [] := by
    rintro rfl
    cases h
  obtain ⟨rest, hscheme⟩ := parse_scheme h
  rw [parse_web hscheme hb.not_file hb.special] at h
  have hsite : rest.dropWhile (isSlash true) ≠ [] := by
    intro hnil
    rw [hnil] at h
    exact readHosted_nil hb.special b h
  obtain ⟨host, port, left, hauthority, hbase⟩ := readHosted_ok h
  obtain ⟨hquery, hfragment⟩ : '?' ∉ left ∧ '#' ∉ left := by
    have hq := hb.query
    have hf := hb.fragment
    rw [hbase] at hq hf
    exact cutTail_whole (Option.map_eq_none_iff.1 hq) (Option.map_eq_none_iff.1 hf)
  obtain ⟨dir, hdir, hgo⟩ := readPath_append left
  have hcut := cutTail_eq_self hquery hfragment
  refine ⟨dir, ?_, ?_⟩
  · rw [hbase]
    simp only [complete, hcut, hb.special]
    exact hdir
  · intro v
    have hread := readScheme_append hscheme ('/' :: tidy v)
    rw [← cleaned_append hne hend] at hread
    rw [parse_web hread hb.not_file hb.special, dropWhile_append_of_ne_nil hsite, readHosted,
      readAuthority_append hb.special hauthority]
    have hhost : host = b.host := by rw [hbase]; rfl
    have hport : port = b.port := by rw [hbase]; rfl
    have htail := cutTail_append_slash hquery hfragment (tidy v)
    change Except.ok (complete b.scheme host port _ (left ++ '/' :: tidy v)) = _
    simp only [complete, htail, hb.special, hgo, hhost, hport]

end Url

end Dispatch
