import Dispatch.Proofs.RemoteAddress
import Dispatch.Proofs.Trees

namespace Dispatch

namespace Text

section Pieces

variable {α : Type} [DecidableEq α] {c : α} {P : List α → Prop} {s t p q : List α}

/-- The last piece that is not of kind `P`. -/
def LastPiece (c : α) (P : List α → Prop) (s p : List α) : Prop :=
  ∃ front passed, pieces c s = front ++ p :: passed ∧ ¬ P p ∧ ∀ q ∈ passed, P q

abbrev LastSegment (c : α) (s p : List α) : Prop := LastPiece c (· = []) s p

theorem lastPiece_iff_find [DecidablePred P] :
    LastPiece c P s p ↔ (pieces c s).reverse.find? (fun q => ¬ P q) = some p := by
  rw [List.find?_eq_some_iff_append]
  constructor
  · rintro ⟨front, passed, hs, hp, hpassed⟩
    refine ⟨by simpa using hp, passed.reverse, front.reverse, by simp [hs], ?_⟩
    simpa using hpassed
  · rintro ⟨hp, passed, front, hs, hpassed⟩
    refine ⟨front.reverse, passed.reverse, ?_, by simpa using hp, by simpa using hpassed⟩
    simpa using congrArg List.reverse hs

theorem exists_lastPiece_or (c : α) (s : List α) :
    (∃ p, LastPiece c P s p) ∨ ∀ q ∈ pieces c s, P q := by
  classical
  cases h : (pieces c s).reverse.find? (fun q => ¬ P q) with
  | none => exact .inr (by simpa using h)
  | some p => exact .inl ⟨p, lastPiece_iff_find.2 h⟩

theorem LastPiece.unique (h : LastPiece c P s p) (h' : LastPiece c P s q) : p = q := by
  classical
  exact Option.some.inj ((lastPiece_iff_find.1 h).symm.trans (lastPiece_iff_find.1 h'))

/-- A text ends as what follows one of its separators does, unless only pieces are there that are passed
over. -/
theorem lastPiece_append (s t : List α) : LastPiece c P (s ++ c :: t) p ↔
    LastPiece c P t p ∨ (∀ q ∈ pieces c t, P q) ∧ LastPiece c P s p := by
  classical
  -- read from the end, the pieces of `t` come before those of `s`
  simp only [lastPiece_iff_find, pieces_append, List.reverse_append, List.find?_append]
  cases ht : (pieces c t).reverse.find? (fun q => ¬ P q) with
  | none =>
      have hall : ∀ q ∈ pieces c t, P q := by simpa using ht
      simpa using fun _ => hall
  | some q =>
      have hq : q ∈ pieces c t ∧ ¬ P q :=
        ⟨List.mem_reverse.1 (List.mem_of_find?_eq_some ht), by simpa using List.find?_some ht⟩
      have hnot : ¬ ∀ q ∈ pieces c t, P q := fun hall => hq.2 (hall q hq.1)
      simp [hnot]

theorem lastPiece_of_not_mem (h : c ∉ s) : LastPiece c P s p ↔ p = s ∧ ¬ P s := by
  classical
  rw [lastPiece_iff_find, pieces_of_not_mem h]
  by_cases hs : P s
  · simp [hs]
  · simp [hs, eq_comm]

theorem LastPiece.not_mem (h : LastPiece c P s p) : c ∉ p := by
  obtain ⟨front, passed, hs, -, -⟩ := h
  exact (mem_pieces (hs ▸ List.mem_append_right _ List.mem_cons_self)).2

theorem exists_last_cut (h : c ∈ s) : ∃ front last, s = front ++ c :: last ∧ c ∉ last := by
  obtain ⟨last, front, hrev, hlast⟩ := List.eq_append_cons_of_mem (List.mem_reverse.2 h)
  refine ⟨front.reverse, last.reverse, ?_, by simpa using hlast⟩
  simpa using congrArg List.reverse hrev

theorem getLast?_pieces (c : α) (s : List α) : (pieces c s).getLast? = some (afterLast c s) := by
  by_cases h : c ∈ s
  · obtain ⟨front, last, rfl, hlast⟩ := exists_last_cut h
    rw [pieces_append, pieces_of_not_mem hlast, afterLast_append hlast, List.getLast?_concat]
  · rw [pieces_of_not_mem h, afterLast_of_not_mem h, List.getLast?_singleton]

end Pieces

variable {c : Char} {s p : List Char}

theorem not_lastSegment_nil : ¬ LastSegment c [] p := by
  simp [lastPiece_of_not_mem]

theorem lastSegment_cons : LastSegment c (c :: s) p ↔ LastSegment c s p :=
  (lastPiece_append [] s).trans (or_iff_left fun h => not_lastSegment_nil h.2)

theorem lastSegment_concat : LastSegment c (s ++ [c]) p ↔ LastSegment c s p := by
  have hpassed : ∀ q ∈ pieces c [], q = [] := by simp [pieces]
  exact (lastPiece_append s []).trans ((or_iff_right not_lastSegment_nil).trans (and_iff_right hpassed))

theorem lastSegment_trimStart : LastSegment c (trimStart c s) p ↔ LastSegment c s p := by
  induction s with
  | nil => exact Iff.rfl
  | cons x s ih =>
      by_cases hx : x = c
      · subst hx
        rw [trimStart, List.dropWhile_cons_of_pos (by simp), lastSegment_cons, ← ih]
        rfl
      · rw [trimStart, List.dropWhile_cons_of_neg (by simpa using hx)]

theorem lastSegment_trimEnd : LastSegment c (trimEnd c s) p ↔ LastSegment c s p := by
  induction s using List.reverseRecOn with
  | nil => exact Iff.rfl
  | append_singleton s x ih =>
      by_cases hx : x = c
      · subst hx
        rw [trimEnd, List.reverse_append, List.reverse_singleton, List.singleton_append,
          List.dropWhile_cons_of_pos (by simp), lastSegment_concat, ← ih]
        rfl
      · rw [trimEnd_eq_self (by simpa using hx)]

theorem lastSegment_trim : LastSegment c (trim c s) p ↔ LastSegment c s p :=
  lastSegment_trimEnd.trans lastSegment_trimStart

theorem afterLast_ne_nil (hne : s ≠ []) (hlast : s.getLast? ≠ some c) : afterLast c s ≠ [] := by
  by_cases h : c ∈ s
  · obtain ⟨front, last, rfl, hmem⟩ := exists_last_cut h
    rw [afterLast_append hmem]
    rintro rfl
    exact hlast List.getLast?_concat
  · rwa [afterLast_of_not_mem h]

theorem lastSegment_iff_afterLast (hne : s ≠ []) (hlast : s.getLast? ≠ some c) :
    LastSegment c s p ↔ afterLast c s = p := by
  obtain ⟨front, hfront⟩ := List.getLast?_eq_some_iff.1 (getLast?_pieces c s)
  have hown : LastSegment c s (afterLast c s) := ⟨front, [], hfront, afterLast_ne_nil hne hlast, nofun⟩
  exact ⟨hown.unique, fun h => h ▸ hown⟩

theorem lastSegment_of_trim_ne_nil (h : trim c s ≠ []) : LastSegment c s (afterLast c (trim c s)) :=
  lastSegment_trim.1 ((lastSegment_iff_afterLast h (isTrimmed_trim c s).last).2 rfl)

theorem LastPiece.trim_ne_nil (h : LastSegment c s p) : trim c s ≠ [] := by
  intro hnil
  have htrim := lastSegment_trim.2 h
  rw [hnil] at htrim
  exact not_lastSegment_nil htrim

/-- A text in two parts ends as the second does, or as the first if there is nothing but separators in the
second. -/
theorem lastSegment_parts (hne : s ≠ []) (hs : c ∉ s) (t : List Char) : LastSegment c (s ++ c :: t) p ↔
    p = if trim c t = [] then s else afterLast c (trim c t) := by
  have hown : LastSegment c (s ++ c :: t) (if trim c t = [] then s else afterLast c (trim c t)) := by
    rw [LastSegment, lastPiece_append]
    split
    · next hnil =>
        have hnone : ¬ ∃ q, LastSegment c t q := fun ⟨q, hq⟩ => hq.trim_ne_nil hnil
        have hpassed := (exists_lastPiece_or c t).resolve_left hnone
        exact .inr ⟨hpassed, (lastPiece_of_not_mem hs).2 ⟨rfl, hne⟩⟩
    · next hkey => exact .inl (lastSegment_of_trim_ne_nil hkey)
  exact ⟨fun h => h.unique hown, fun h => h ▸ hown⟩

theorem lastSegment_before (hne : before c s ≠ []) : LastSegment c s p ↔
    p = if trim c (s.dropWhile (· != c)) = [] then before c s
      else afterLast c (trim c (s.dropWhile (· != c))) := by
  cases hsplit : splitOnce c s with
  | none =>
      have hs := splitOnce_eq_none_iff.1 hsplit
      rw [before_of_not_mem hs] at hne ⊢
      have hnil : trim c [] = [] := rfl
      rw [dropWhile_of_not_mem hs, if_pos hnil, LastSegment, lastPiece_of_not_mem hs]
      exact and_iff_left hne
  | some parts =>
      obtain ⟨hs, hfirst⟩ := splitOnce_eq_some (t := parts.1) (u := parts.2) hsplit
      rw [hs, before_append hfirst] at hne ⊢
      rw [dropWhile_append_of_not_mem hfirst, trim_cons_self, lastSegment_parts hne hfirst]

theorem trimEnd_ne_nil {x : Char} (hx : x ∈ s) (hne : x ≠ c) : trimEnd c s ≠ [] := by
  intro hnil
  have hall := List.dropWhile_eq_nil_iff.1 (List.reverse_eq_nil_iff.1 hnil)
  exact hne (by simpa using hall x (List.mem_reverse.2 hx))

namespace Utf8

theorem encode_single (hc : c.toNat < 128) : encode [c] = [c.toUInt8] := by
  have hchar : String.utf8EncodeChar c = [c.toUInt8] := if_pos (Nat.le_of_lt_succ hc)
  rw [encode, List.flatMap_singleton, hchar]

theorem mem_encode_iff (hc : c.toNat < 128) : c.toUInt8 ∈ encode s ↔ c ∈ s := by
  constructor
  · intro h
    have hb : c.toUInt8 < 0x80 := by
      rw [UInt8.lt_iff_toNat_lt]
      exact Nat.lt_of_le_of_lt (Nat.mod_le _ _) hc
    have hown := mem_decodeLossy hb (List.mem_singleton_self _)
    rw [← encode_single hc, decodeLossy_encode, List.mem_singleton] at hown
    have hread := mem_decodeLossy hb h
    rwa [decodeLossy_encode, hown] at hread
  · intro h
    have hown : c.toUInt8 ∈ encode [c] := encode_single hc ▸ List.mem_singleton_self _
    rw [encode, List.flatMap_singleton] at hown
    exact List.mem_flatMap.2 ⟨c, h, hown⟩

theorem encode_flatMap_cons (hc : c.toNat < 128) (ss : List (List Char)) :
    encode (ss.flatMap (c :: ·)) = (ss.map encode).flatMap (c.toUInt8 :: ·) := by
  induction ss with
  | nil => rfl
  | cons s ss ih =>
      rw [List.flatMap_cons, encode_append, ← List.singleton_append, encode_append, encode_single hc, ih]
      rfl

/-- Text and its bytes are cut at the same places, where they are cut at a character of ASCII. -/
theorem pieces_encode (hc : c.toNat < 128) (s : List Char) :
    pieces c.toUInt8 (encode s) = (pieces c s).map encode := by
  obtain ⟨first, rest, hpieces⟩ := List.exists_cons_of_ne_nil (pieces_ne_nil c s)
  have hwhole : ∀ p ∈ pieces c s, c.toUInt8 ∉ encode p := fun p hp =>
    mt (mem_encode_iff hc).1 (mem_pieces hp).2
  have hs := joined_pieces c s
  rw [hpieces] at hs hwhole ⊢
  obtain ⟨hfirst, hrest⟩ := List.forall_mem_cons.1 hwhole
  rw [← hs, joined_cons, encode_append, encode_flatMap_cons hc,
    pieces_flatMap hfirst (List.forall_mem_map.2 hrest), List.map_cons]

end Utf8

end Text

namespace File.Path

open Text

theorem fileName?_eq_some_iff {path name : Raw} : fileName? path = some name ↔
    LastPiece slash (fun p => p = [] ∨ p = [dot]) path name ∧ name ≠ [dot, dot] := by
  rw [fileName?_eq_some_iff_last, lastStep, List.getLast?_filterMap, List.findSome?_eq_some_iff]
  constructor
  · rintro ⟨passed, p, front, hrev, hp, hpassed⟩
    obtain ⟨rfl, hkept, hparent⟩ := inner_eq_name_iff.1 hp
    refine ⟨⟨front.reverse, passed.reverse, ?_, hkept, ?_⟩, hparent⟩
    · simpa using congrArg List.reverse hrev
    · intro q hq
      exact inner_eq_none_iff.1 (hpassed q (List.mem_reverse.1 hq))
  · rintro ⟨⟨front, passed, hpieces, hkept, hpassed⟩, hparent⟩
    refine ⟨passed.reverse, name, front.reverse, by simp [hpieces], ?_, ?_⟩
    · exact inner_eq_name_iff.2 ⟨rfl, hkept, hparent⟩
    · intro q hq
      exact inner_eq_none_iff.2 (hpassed q (List.mem_reverse.1 hq))

theorem extensionOfName_append {stem ending : Raw} (h : dot ∉ ending) :
    extensionOfName (stem ++ dot :: ending) = if stem = [] then none else some ending := by
  rw [extensionOfName, afterLast_append h]
  cases stem with
  | nil => simp
  | cons x stem =>
      have hshort : ending.length + 1 < (x :: stem ++ dot :: ending).length := by
        rw [List.length_append, List.length_cons, List.length_cons]
        omega
      rw [if_pos hshort, if_neg (List.cons_ne_nil x stem)]

theorem extensionOfName_of_dotless {name : Raw} (h : dot ∉ name) : extensionOfName name = none := by
  rw [extensionOfName, afterLast_of_not_mem h]
  exact if_neg (by omega)

section OfText

variable {path name ending : List Char}

theorem encode_eq_dots_iff : (Utf8.encode name = [] ↔ name = []) ∧
    (Utf8.encode name = [dot] ↔ name = ['.']) ∧ (Utf8.encode name = [dot, dot] ↔ name = ['.', '.']) := by
  have hback (s t : List Char) : Utf8.encode s = Utf8.encode t ↔ s = t :=
    ⟨Utf8.encode_injective, congrArg _⟩
  exact ⟨hback name [], hback name ['.'], hback name ['.', '.']⟩

/-- Behind the last name of a path stand only empty pieces and single dots. A double dot is no name. -/
structure EndsInName (path name : List Char) : Prop where
  last : LastPiece '/' (fun p => p = [] ∨ p = ['.']) path name
  no_parent : name ≠ ['.', '.']

theorem lastPiece_encode_iff {P : Raw → Prop} {b : Raw} : LastPiece slash P (Utf8.encode path) b ↔
    ∃ name, b = Utf8.encode name ∧ LastPiece '/' (fun p => P (Utf8.encode p)) path name := by
  have hpieces : pieces slash (Utf8.encode path) = (pieces '/' path).map Utf8.encode :=
    Utf8.pieces_encode (by decide) path
  constructor
  · rintro ⟨front, passed, hs, hb, hpassed⟩
    rw [hpieces] at hs
    obtain ⟨front, back, hcut, rfl, hback⟩ := List.map_eq_append_iff.1 hs
    obtain ⟨name, passed, rfl, rfl, rfl⟩ := List.map_eq_cons_iff.1 hback
    exact ⟨name, rfl, front, passed, hcut, hb, List.forall_mem_map.1 hpassed⟩
  · rintro ⟨name, rfl, front, passed, hs, hb, hpassed⟩
    refine ⟨front.map Utf8.encode, passed.map Utf8.encode, ?_, hb, List.forall_mem_map.2 hpassed⟩
    rw [hpieces, hs, List.map_append, List.map_cons]

theorem fileName?_encode_iff {b : Raw} : fileName? (Utf8.encode path) = some b ↔
    ∃ name, b = Utf8.encode name ∧ EndsInName path name := by
  rw [fileName?_eq_some_iff, lastPiece_encode_iff]
  simp only [encode_eq_dots_iff]
  constructor
  · rintro ⟨⟨name, rfl, hlast⟩, hparent⟩
    exact ⟨name, rfl, hlast, mt encode_eq_dots_iff.2.2.2 hparent⟩
  · rintro ⟨name, rfl, hlast, hparent⟩
    exact ⟨⟨name, rfl, hlast⟩, mt encode_eq_dots_iff.2.2.1 hparent⟩

theorem extensionOfName_encode_iff : extensionOfName (Utf8.encode name) = some (Utf8.encode ending) ↔
    ∃ stem, stem ≠ [] ∧ '.' ∉ ending ∧ name = stem ++ '.' :: ending := by
  have hdots (s : List Char) : dot ∈ Utf8.encode s ↔ '.' ∈ s := Utf8.mem_encode_iff (by decide)
  have hwhole {stem last : List Char} (hlast : '.' ∉ last) :
      extensionOfName (Utf8.encode (stem ++ '.' :: last)) =
        if stem = [] then none else some (Utf8.encode last) := by
    rw [Utf8.encode_append]
    refine (extensionOfName_append (mt (hdots last).1 hlast)).trans ?_
    simp only [encode_eq_dots_iff]
  constructor
  · intro h
    by_cases hdot : '.' ∈ name
    · obtain ⟨stem, last, rfl, hlast⟩ := exists_last_cut hdot
      rw [hwhole hlast] at h
      split at h
      · cases h
      · next hstem =>
          obtain rfl := Utf8.encode_injective (Option.some.inj h)
          exact ⟨stem, hstem, hlast, rfl⟩
    · rw [extensionOfName_of_dotless (mt (hdots name).1 hdot)] at h
      cases h
  · rintro ⟨stem, hstem, hending, rfl⟩
    rw [hwhole hending, if_neg hstem]

theorem extension?_encode_iff : extension? (Utf8.encode path) = some (Utf8.encode ending) ↔
    ∃ stem, stem ≠ [] ∧ '.' ∉ ending ∧ EndsInName path (stem ++ '.' :: ending) := by
  rw [extension?, Option.bind_eq_some_iff]
  simp only [fileName?_encode_iff]
  constructor
  · rintro ⟨_, ⟨name, rfl, hlast⟩, hname⟩
    obtain ⟨stem, hstem, hending, rfl⟩ := extensionOfName_encode_iff.1 hname
    exact ⟨stem, hstem, hending, hlast⟩
  · rintro ⟨stem, hstem, hending, hlast⟩
    exact ⟨_, ⟨_, rfl, hlast⟩, extensionOfName_encode_iff.2 ⟨stem, hstem, hending, rfl⟩⟩

end OfText

end File.Path

end Dispatch
