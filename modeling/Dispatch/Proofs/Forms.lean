import Dispatch.Proofs.Address
import Dispatch.Proofs.Escapes
import Dispatch.Proofs.TextOfBytes

namespace Dispatch

open Text

namespace Text

variable {c : Char} {s t : List Char} {escapes : Char → Bool}

theorem prefix_or_infix_of_mem_pieces (h : s ∈ pieces c t) : s <+: t ∨ c :: s <:+: t := by
  obtain ⟨first, rest, hpieces⟩ := List.exists_cons_of_ne_nil (pieces_ne_nil c t)
  have ht := joined_pieces c t
  rw [hpieces, joined_cons] at ht
  rw [hpieces] at h
  rcases List.mem_cons.1 h with rfl | h
  · exact .inl ⟨_, ht⟩
  · obtain ⟨front, back, rfl⟩ := List.append_of_mem h
    refine .inr ⟨first ++ front.flatMap (c :: ·), back.flatMap (c :: ·), ?_⟩
    rw [← ht]
    simp

end Text

namespace Url

open Percent

section Cuts

variable {c : Char} {escapes : Char → Bool}

theorem Percent.encode_append (s t : List Char) :
    encode escapes (s ++ t) = encode escapes s ++ encode escapes t :=
  List.flatMap_append

theorem Percent.encode_cons_of_kept (hc : escapes c = false) (s : List Char) :
    encode escapes (c :: s) = c :: encode escapes s := by
  rw [encode, List.flatMap_cons, encodeChar, hc]
  rfl

theorem Percent.encode_flatMap_cons (hc : escapes c = false) (ss : List (List Char)) :
    encode escapes (ss.flatMap (c :: ·)) = (ss.map (encode escapes)).flatMap (c :: ·) := by
  induction ss with
  | nil => rfl
  | cons s ss ih =>
      rw [List.flatMap_cons, encode_append, encode_cons_of_kept hc, ih, List.map_cons, List.flatMap_cons]

theorem Percent.encode_eq_nil_iff {s : List Char} : encode escapes s = [] ↔ s = [] := by
  refine ⟨fun h => ?_, by rintro rfl; rfl⟩
  cases s with
  | nil => rfl
  | cons c s =>
      rw [encode, List.flatMap_cons, encodeChar] at h
      split at h
      · obtain ⟨t, ht⟩ := encodeBytes_head c (s.flatMap (encodeChar escapes))
        rw [ht] at h
        cases h
      · cases h

theorem pieces_encode (hc : IsForeign c) (hkept : escapes c = false) (s : List Char) :
    pieces c (encode escapes s) = (pieces c s).map (encode escapes) := by
  have hcut (x : List Char) (hx : x ∈ pieces c s) : c ∉ encode escapes x :=
    not_mem_encode hc (.inr (mem_pieces hx).2)
  obtain ⟨first, rest, hpieces⟩ := List.exists_cons_of_ne_nil (pieces_ne_nil c s)
  have hs := joined_pieces c s
  rw [hpieces, joined_cons] at hs
  rw [hpieces] at hcut ⊢
  obtain ⟨hfirst, hrest⟩ := List.forall_mem_cons.1 hcut
  rw [← hs, encode_append, encode_flatMap_cons hkept, pieces_flatMap hfirst (by simpa using hrest),
    List.map_cons]

theorem splitOnce_encode (hc : IsForeign c) (hkept : escapes c = false) (s : List Char) :
    splitOnce c (encode escapes s) =
      (splitOnce c s).map fun p => (encode escapes p.1, encode escapes p.2) := by
  cases hs : splitOnce c s with
  | none =>
      have hmem := splitOnce_eq_none_iff.1 hs
      exact splitOnce_eq_none_iff.2 (not_mem_encode hc (.inr hmem))
  | some p =>
      obtain ⟨rfl, hmem⟩ := splitOnce_eq_some hs
      rw [encode_append, encode_cons_of_kept hkept, splitOnce_append (not_mem_encode hc (.inr hmem))]
      simp [splitOnce]

end Cuts

namespace Form

def spaced (s : List Char) : List Char := s.map fun c => if c = '+' then ' ' else c

theorem decodeText_eq (s : List Char) : decodeText s = Utf8.decodeLossy (Percent.decode (spaced s)) := rfl

theorem spaced_append (s t : List Char) : spaced (s ++ t) = spaced s ++ spaced t := List.map_append

theorem spaced_encodeBytes (bytes : List UInt8) : spaced (encodeBytes bytes) = encodeBytes bytes :=
  replace_of_not_mem (not_mem_encodeBytes (by decide) bytes) ' '

/-- What is escaped in a text of a form. A space is not, as it has a sign of its own. -/
def escapesText (c : Char) : Bool := !keeps c && c ≠ ' '

theorem spaced_encodeChar (c : Char) : spaced (encodeChar c) = Percent.encodeChar escapesText c := by
  rw [encodeChar, Percent.encodeChar, Percent.encodeChar, escapesText]
  by_cases hspace : c = ' '
  · rw [hspace]
    rfl
  · cases hkeeps : keeps c with
    | false => simp [hspace, spaced_encodeBytes]
    | true =>
        have hplus : c ≠ '+' := by
          rintro rfl
          cases hkeeps
        simp [hspace, spaced, hplus]

theorem spaced_encodeText (s : List Char) : spaced (encodeText s) = encode escapesText s := by
  rw [spaced, encodeText, List.map_flatMap, encode]
  exact congrArg s.flatMap (funext spaced_encodeChar)

theorem decodeText_encodeText (s : List Char) : decodeText (encodeText s) = s := by
  rw [decodeText_eq, spaced_encodeText, decode_encode_whole (by decide), Utf8.decodeLossy_encode]

theorem not_mem_encodeText {c : Char} (hc : IsForeign c) (hplus : c ≠ '+') (hescapes : escapesText c = true)
    (s : List Char) : c ∉ encodeText s := by
  intro hmem
  have hspaced : c ∈ spaced (encodeText s) := List.mem_map.2 ⟨c, hmem, if_neg hplus⟩
  rw [spaced_encodeText] at hspaced
  exact not_mem_encode hc (.inl hescapes) hspaced

theorem decodePair_encodePair (p : Pair) : decodePair (encodePair p) = p := by
  have hname : '=' ∉ encodeText p.1 := not_mem_encodeText (by decide) (by decide) (by decide) _
  have hsplit : splitOnce '=' (encodePair p) = some (encodeText p.1, encodeText p.2) := by
    rw [encodePair, splitOnce_append hname]
    simp [splitOnce]
  simp only [decodePair, hsplit, decodeText_encodeText]

theorem not_mem_encodePair {c : Char} (hc : IsForeign c) (hplus : c ≠ '+') (hequals : c ≠ '=')
    (hescapes : escapesText c = true) (p : Pair) : c ∉ encodePair p := by
  simp [encodePair, hequals, not_mem_encodeText hc hplus hescapes]

theorem pieces_encodePair (p : Pair) : pieces '&' (encodePair p) = [encodePair p] :=
  pieces_of_not_mem (not_mem_encodePair (by decide) (by decide) (by decide) (by decide) p)

theorem decode_encodePair (p : Pair) : decode (encodePair p) = [p] := by
  have hne : encodePair p ≠ [] := by simp [encodePair]
  simp [decode, pieces_encodePair, hne, decodePair_encodePair]

theorem decode_append (query : Option (List Char)) (p : Pair) :
    decode (append query p) = query.elim [] decode ++ [p] := by
  match query with
  | none => exact decode_encodePair p
  | some [] => exact decode_encodePair p
  | some (c :: q) =>
      change decode (c :: q ++ '&' :: encodePair p) = decode (c :: q) ++ [p]
      rw [decode, pieces_append, List.filter_append, List.map_append, ← decode, ← decode,
        decode_encodePair]

theorem hash_not_mem_append {query : Option (List Char)} (h : ∀ q ∈ query, '#' ∉ q) (p : Pair) :
    '#' ∉ append query p := by
  have hp : '#' ∉ encodePair p := not_mem_encodePair (by decide) (by decide) (by decide) (by decide) p
  match query, h with
  | none, _ => exact hp
  | some [], _ => exact hp
  | some (c :: q), h => simpa [append, hp] using h (c :: q) rfl

structure SparesForm (escapes : Char → Bool) : Prop extends SparesEscapes escapes where
  ampersand : escapes '&' = false
  equals : escapes '=' = false
  plus : escapes '+' = false

theorem escapesQuery_sparesForm (special : Bool) : SparesForm (escapesQuery special) where
  toSparesEscapes := escapesQuery_sparesEscapes special
  ampersand := by cases special <;> decide
  equals := by cases special <;> decide
  plus := by cases special <;> decide

variable {escapes : Char → Bool}

theorem SparesForm.escaped_spaced (h : SparesForm escapes) (s : List Char) :
    Escaped (spaced s) (spaced (encode escapes s)) := by
  induction s with
  | nil => exact .nil
  | cons c s ih =>
      rw [encode, List.flatMap_cons, ← encode, Percent.encodeChar, spaced_append]
      cases hc : escapes c with
      | true =>
          have hplus : c ≠ '+' := by
            rintro rfl
            rw [h.plus] at hc
            cases hc
          have hcons : spaced (c :: s) = c :: spaced s := by simp [spaced, hplus]
          rw [hcons, if_pos rfl, spaced_encodeBytes]
          exact .escaped (h.isForeign hc) ih
      | false => exact .kept _ ih

theorem decodeText_encode (h : SparesForm escapes) (s : List Char) :
    decodeText (encode escapes s) = decodeText s := by
  rw [decodeText_eq, (h.escaped_spaced s).decode_eq]
  rfl

theorem decodePair_encode (h : SparesForm escapes) (s : List Char) :
    decodePair (encode escapes s) = decodePair s := by
  rw [decodePair, splitOnce_encode (by decide) h.equals, decodePair]
  cases splitOnce '=' s <;> simp [decodeText_encode h]

theorem decode_encode (h : SparesForm escapes) (s : List Char) :
    decode (encode escapes s) = decode s := by
  have hempty (x : List Char) : decide (encode escapes x ≠ []) = decide (x ≠ []) := by
    simp [encode_eq_nil_iff]
  rw [decode, pieces_encode (by decide) h.ampersand, List.filter_map, List.map_map, decode]
  simp only [Function.comp_def, hempty, decodePair_encode h]

/-- The text has this name of a pair in it, behind a mark that pairs follow. -/
def Spells (text name : List Char) : Prop :=
  ∃ mark w, (mark = '?' ∨ mark = '&') ∧ mark :: w <:+: text ∧ decodeText w = name

theorem Spells.mono {s t name : List Char} (h : Spells s name) (hst : s <:+: t) : Spells t name := by
  obtain ⟨mark, w, hmark, hw, hname⟩ := h
  exact ⟨mark, w, hmark, hw.trans hst, hname⟩

theorem decodePair_name (s : List Char) : ∃ w, w <+: s ∧ (decodePair s).1 = decodeText w := by
  rw [decodePair]
  cases hs : splitOnce '=' s with
  | none => exact ⟨s, List.prefix_refl s, rfl⟩
  | some p =>
      obtain ⟨rfl, -⟩ := splitOnce_eq_some hs
      exact ⟨p.1, List.prefix_append _ _, rfl⟩

theorem spells_of_mem_decode {query : List Char} {p : Pair} (h : p ∈ decode query) :
    Spells ('?' :: query) p.1 := by
  obtain ⟨s, hs, rfl⟩ := List.mem_map.1 h
  have hpiece : s ∈ pieces '&' query := (List.mem_filter.1 hs).1
  obtain ⟨w, ⟨rest, rfl⟩, hname⟩ := decodePair_name s
  rcases prefix_or_infix_of_mem_pieces hpiece with h | h
  · refine ⟨'?', w, .inl rfl, ?_, hname.symm⟩
    exact (List.cons_prefix_cons.2 ⟨rfl, (List.prefix_append w rest).trans h⟩).isInfix
  · refine ⟨'&', w, .inr rfl, ?_, hname.symm⟩
    have hmark : '&' :: w <+: '&' :: (w ++ rest) := ⟨rest, rfl⟩
    exact hmark.isInfix.trans (h.trans (List.suffix_cons _ _).isInfix)

theorem slash_mem_decodeText {s : List Char} (h : '/' ∈ s) : '/' ∈ decodeText s := by
  have hspaced : '/' ∈ spaced s := List.mem_map.2 ⟨'/', h, rfl⟩
  have hbyte : 0x2F ∈ Percent.decode (spaced s) := mem_decode (by decide) hspaced (by decide)
  exact Utf8.mem_decodeLossy (b := 0x2F) (by decide) hbyte

theorem Spells.split {s t name : List Char} (h : Spells (s ++ '/' :: t) name) (hname : '/' ∉ name) :
    Spells s name ∨ Spells t name := by
  obtain ⟨mark, w, hmark, hw, rfl⟩ := h
  have hslash : '/' ∉ mark :: w := by
    intro hmem
    rcases List.mem_cons.1 hmem with rfl | hmem
    · simp at hmark
    · exact hname (slash_mem_decodeText hmem)
  exact (infix_or_infix_of_not_mem hw hslash).imp (⟨mark, w, hmark, ·, rfl⟩) (⟨mark, w, hmark, ·, rfl⟩)

theorem not_spells_of_unmarked {s name : List Char} (h : '?' ∉ s ∧ '&' ∉ s) : ¬ Spells s name := by
  rintro ⟨mark, w, rfl | rfl, hw, -⟩
  · exact h.1 (hw.subset List.mem_cons_self)
  · exact h.2 (hw.subset List.mem_cons_self)

end Form

end Url

end Dispatch
