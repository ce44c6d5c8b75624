import Mathlib.Data.List.Basic
import Mathlib.Data.List.Forall2
import Dispatch.Http.ObjectStore
import Dispatch.Proofs.Address
import Dispatch.Proofs.Escapes

namespace Dispatch

open Text

namespace Url

def written (s : List Char) : List Char := Percent.encode (Percent.escapesSegment true) s

theorem decode_written (s : List Char) : Percent.decode (written s) = Utf8.encode s :=
  Percent.decode_encode_whole (by decide) s

theorem written_injective {s t : List Char} (h : written s = written t) : s = t := by
  apply Utf8.encode_injective
  rw [← decode_written, h, decode_written]

theorem written_eq_nil_iff {s : List Char} : written s = [] ↔ s = [] :=
  ⟨fun h => written_injective (t := []) h, by rintro rfl; rfl⟩

theorem slash_not_mem_written (s : List Char) : '/' ∉ written s :=
  Percent.not_mem_encode (by decide) (.inl (by decide))

def Undotted (s : List Char) : Prop := s ≠ ['.'] ∧ s ≠ ['.', '.']

instance (s : List Char) : Decidable (Undotted s) := inferInstanceAs (Decidable (_ ∧ _))

theorem Undotted.not_dots {s : List Char} (h : Undotted s) :
    isDoubleDot (written s) = false ∧ isSingleDot (written s) = false := by
  have hbytes := decode_written s
  refine ⟨Bool.eq_false_iff.2 fun hd => ?_, Bool.eq_false_iff.2 fun hs => ?_⟩
  · rw [decode_of_isDoubleDot hd] at hbytes
    exact h.2 (Utf8.encode_injective hbytes).symm
  · rw [decode_of_isSingleDot hs] at hbytes
    exact h.1 (Utf8.encode_injective hbytes).symm

/-- The segments that more can be added to: the lone slash of a root path counts for none. -/
def rooted (ss : List (List Char)) : List (List Char) := if ss = [[]] then [] else ss

theorem rooted_of_ne {ss : List (List Char)} (h : ss ≠ [[]]) : rooted ss = ss := if_neg h

theorem push_of_undotted {s : List Char} (h : Undotted (withoutIgnored s)) (ss : List (List Char)) :
    push true ss s = rooted ss ++ [written (withoutIgnored s)] := by
  have hdot : s ≠ ['.'] := by
    rintro rfl
    exact h.1 (by decide)
  have hdots : s ≠ ['.', '.'] := by
    rintro rfl
    exact h.2 (by decide)
  obtain ⟨hdouble, hsingle⟩ := h.not_dots
  rw [written, withoutIgnored] at hdouble hsingle
  rw [push, if_neg (by simp [hdot, hdots])]
  simp only [hdouble, hsingle, Bool.false_eq_true, if_false]
  rfl

theorem foldl_push {segments : List (List Char)} (h : ∀ s ∈ segments, Undotted (withoutIgnored s))
    {ss : List (List Char)} (hroot : ss ≠ [[]]) (hne : ss ≠ []) :
    segments.foldl (push true) ss = ss ++ segments.map fun s => written (withoutIgnored s) := by
  induction segments generalizing ss with
  | nil => exact (List.append_nil ss).symm
  | cons s rest ih =>
      obtain ⟨hs, hrest⟩ := List.forall_mem_cons.1 h
      have hroot' : ss ++ [written (withoutIgnored s)] ≠ [[]] := fun he => by
        have hlen := congrArg List.length he
        have hpos := List.length_pos_iff.2 hne
        simp only [List.length_append, List.length_singleton] at hlen
        omega
      rw [List.foldl_cons, push_of_undotted hs, rooted_of_ne hroot, ih hrest hroot' (by simp),
        List.append_assoc]
      rfl

theorem foldl_push_rooted {s : List Char} {segments : List (List Char)}
    (h : ∀ x ∈ s :: segments, Undotted (withoutIgnored x)) (hs : withoutIgnored s ≠ [])
    (ss : List (List Char)) : (s :: segments).foldl (push true) ss =
      rooted ss ++ (s :: segments).map fun x => written (withoutIgnored x) := by
  obtain ⟨hhead, hrest⟩ := List.forall_mem_cons.1 h
  have hroot : rooted ss ++ [written (withoutIgnored s)] ≠ [[]] := fun he => by
    have hlast := congrArg List.getLast? he
    simp only [List.getLast?_append, List.getLast?_singleton, Option.some_or, Option.some.injEq,
      written_eq_nil_iff] at hlast
    exact hs hlast
  rw [List.foldl_cons, push_of_undotted hhead, foldl_push hrest hroot (by simp), List.append_assoc]
  rfl

def Slashless (ss : List (List Char)) : Prop := ∀ s ∈ ss, '/' ∉ s

theorem resolveDots_slashless {ss : List (List Char)} (h : Slashless ss) :
    Slashless (resolveDots [] ss) := by
  intro s hs
  obtain ⟨i, hi⟩ := List.mem_iff_getElem?.1 hs
  rcases resolveDots_getElem? hi with hnone | rfl | ⟨hmem, -⟩
  · simp at hnone
  · exact List.not_mem_nil
  · exact h s hmem

theorem readPath_slashless (s : List Char) :
    ∃ ss, readPath true s = .segments ss ∧ Slashless ss := by
  cases s with
  | nil => exact ⟨[[]], rfl, by simp [Slashless]⟩
  | cons c rest =>
      refine ⟨resolveDots [] (readPieces (if isSlash true c then rest else c :: rest)), rfl, ?_⟩
      apply resolveDots_slashless
      intro x hx
      obtain ⟨y, rfl, -, hslash, -⟩ := mem_readPieces hx
      exact Percent.not_mem_encode (by decide) (.inr hslash)

theorem parse_slashless {base : List Char} {b : Url} (h : parse base = .ok b) (hb : b.isWeb = true) :
    ∃ ss, b.path = .segments ss ∧ Slashless ss := by
  obtain ⟨rest, hscheme⟩ := parse_scheme h
  rw [parse_web hscheme (isWeb_not_file hb) (isWeb_special hb)] at h
  obtain ⟨host, port, left, -, hcomplete⟩ := readHosted_ok h
  obtain ⟨ss, hread, hss⟩ := readPath_slashless (cutTail left).1
  refine ⟨ss, ?_, hss⟩
  rw [hcomplete, complete_path, isWeb_special hb, hread]

theorem Path.write_append (ss ts : List (List Char)) :
    (Path.segments (ss ++ ts)).write = (Path.segments ss).write ++ (Path.segments ts).write :=
  List.flatMap_append

theorem Path.write_cons (s : List Char) (ss : List (List Char)) :
    (Path.segments (s :: ss)).write = '/' :: (s ++ ss.flatMap ('/' :: ·)) := rfl

theorem Path.write_injective {ss ts : List (List Char)} (hs : Slashless ss) (ht : Slashless ts)
    (h : (Path.segments ss).write = (Path.segments ts).write) : ss = ts := by
  cases ss with
  | nil =>
      cases ts with
      | nil => rfl
      | cons t ts => cases h
  | cons s ss =>
      cases ts with
      | nil => cases h
      | cons t ts =>
          obtain ⟨hs, hss⟩ := List.forall_mem_cons.1 hs
          obtain ⟨ht, hts⟩ := List.forall_mem_cons.1 ht
          rw [Path.write_cons, Path.write_cons] at h
          have hrest := congrArg (pieces '/') (List.cons.inj h).2
          rwa [pieces_flatMap hs hss, pieces_flatMap ht hts] at hrest

def withoutSlash (path : List Char) : List Char :=
  if path.getLast? = some '/' then path.dropLast else path

/-- What objects are put behind: the path without one slash at its end, and without the slash that may be
all that is left then. -/
def stem (path : List Char) : List Char := if withoutSlash path = ['/'] then [] else withoutSlash path

def withoutEmpty (ss : List (List Char)) : List (List Char) :=
  if ss.getLast? = some [] then ss.dropLast else ss

theorem withoutEmpty_slashless {ss : List (List Char)} (h : Slashless ss) :
    Slashless (withoutEmpty ss) := by
  rw [withoutEmpty]
  split
  · exact fun s hs => h s (List.dropLast_subset ss hs)
  · exact h

theorem withoutSlash_write {ss : List (List Char)} (h : Slashless ss) :
    withoutSlash (Path.segments ss).write = (Path.segments (withoutEmpty ss)).write := by
  rcases List.eq_nil_or_concat ss with rfl | ⟨init, s, rfl⟩
  · rfl
  · rw [List.concat_eq_append] at h ⊢
    have hs : '/' ∉ s := h s (by simp)
    have hwrite : (Path.segments (init ++ [s])).write = (Path.segments init).write ++ '/' :: s := by
      rw [Path.write_append, Path.write_cons, List.flatMap_nil, List.append_nil]
    rw [withoutSlash, withoutEmpty, hwrite]
    rcases List.eq_nil_or_concat s with rfl | ⟨front, c, rfl⟩
    · simp
    · have hc : c ≠ '/' := fun he => hs (by simp [he])
      have hlast : ('/' :: (front ++ [c])).getLast? = some c := List.getLast?_concat (l := '/' :: front)
      rw [List.concat_eq_append] at hwrite ⊢
      simp [hlast, hc, hwrite]

theorem rooted_popIfEmpty (ss : List (List Char)) :
    rooted (popIfEmpty ss) = rooted (withoutEmpty ss) := by
  by_cases hroot : ss = [[]]
  · rw [hroot]
    rfl
  · have hlen : ss.getLast? = some [] → ss.length > 1 := fun hlast => by
      obtain ⟨init, rfl⟩ := List.getLast?_eq_some_iff.1 hlast
      have hinit : init ≠ [] := fun he => hroot (by rw [he]; rfl)
      have hpos := List.length_pos_iff.2 hinit
      simp only [List.length_append, List.length_singleton]
      omega
    rw [popIfEmpty, withoutEmpty]
    by_cases hlast : ss.getLast? = some []
    · simp [hlast, hlen hlast]
    · simp [hlast]

theorem stem_write {ss : List (List Char)} (h : Slashless ss) :
    stem (Path.segments ss).write = (Path.segments (rooted (popIfEmpty ss))).write := by
  have hempty : Slashless [[]] := by simp [Slashless]
  have hroot : (Path.segments (withoutEmpty ss)).write = ['/'] ↔ withoutEmpty ss = [[]] :=
    ⟨fun he => Path.write_injective (withoutEmpty_slashless h) hempty he, fun he => by rw [he]; rfl⟩
  rw [stem, withoutSlash_write h, rooted_popIfEmpty, rooted]
  by_cases hs : withoutEmpty ss = [[]]
  · rw [if_pos (hroot.2 hs), if_pos hs]
    rfl
  · rw [if_neg (mt hroot.1 hs), if_neg hs]

section Kept

variable {s : List Char} {ss : List (List Char)}

/-- A segment is added as it is, if it is read off the path as it is. -/
def Keeps (s x : List Char) : Prop :=
  Utf8.decode? (Percent.decode x) = some s → Undotted s ∧ withoutIgnored s = s

theorem push_eq (ss : List (List Char)) (s : List Char) : push true ss s =
    if Undotted s then
      if isDoubleDot (written (withoutIgnored s)) then (rooted ss).dropLast ++ [[]]
      else rooted ss ++
        [if isSingleDot (written (withoutIgnored s)) then [] else written (withoutIgnored s)]
    else ss := by
  rw [push, written, withoutIgnored, rooted]
  by_cases hs : Undotted s
  · rw [if_pos hs, if_neg (by simpa [Undotted] using hs)]
    dsimp only
    split
    · rfl
    · split <;> rfl
  · rw [if_neg hs, if_pos (by simpa [Undotted, imp_iff_not_or] using hs)]

theorem keeps_added (hs : Undotted s) : Keeps s
    (if isSingleDot (written (withoutIgnored s)) then [] else written (withoutIgnored s)) := by
  intro hread
  refine ⟨hs, ?_⟩
  split at hread
  · next hdot =>
      have hnil : s = [] := (Option.some.inj hread).symm
      rw [hnil] at hdot
      exact absurd hdot (by decide)
  · rw [decode_written, Utf8.decode?_encode] at hread
    exact Option.some.inj hread

theorem length_rooted_le (ss : List (List Char)) : (rooted ss).length ≤ ss.length := by
  rw [rooted]
  split <;> simp

theorem push_cases (ss : List (List Char)) (s : List Char) :
    (rooted (push true ss s)).length ≤ (rooted ss).length ∨
      ∃ x, rooted (push true ss s) = rooted ss ++ [x] ∧ Keeps s x := by
  rw [push_eq]
  by_cases hs : Undotted s
  · rw [if_pos hs]
    split
    · left
      by_cases hnil : rooted ss = []
      · rw [hnil]
        exact Nat.le_refl _
      · have hpos := List.length_pos_iff.2 hnil
        refine Nat.le_trans (length_rooted_le _) ?_
        rw [List.length_append, List.length_dropLast, List.length_singleton]
        omega
    · generalize hx : (if isSingleDot _ then [] else written (withoutIgnored s)) = x
      by_cases hroot : rooted ss ++ [x] = [[]]
      · left
        rw [hroot]
        exact Nat.zero_le _
      · exact .inr ⟨x, rooted_of_ne hroot, hx ▸ keeps_added hs⟩
  · rw [if_neg hs]
    exact .inl (Nat.le_refl _)

theorem foldl_push_cases (segments ss : List (List Char)) :
    (rooted (segments.foldl (push true) ss)).length < (rooted ss).length + segments.length ∨
      ∃ xs, rooted (segments.foldl (push true) ss) = rooted ss ++ xs ∧ List.Forall₂ Keeps segments xs := by
  induction segments generalizing ss with
  | nil => exact .inr ⟨[], (List.append_nil _).symm, .nil⟩
  | cons s rest ih =>
      rw [List.foldl_cons, List.length_cons]
      rcases push_cases ss s with hle | ⟨x, hpush, hx⟩
      · left
        rcases ih (push true ss s) with hlt | ⟨xs, hrest, hxs⟩
        · omega
        · rw [hrest, List.length_append, ← hxs.length_eq]
          omega
      · rcases ih (push true ss s) with hlt | ⟨xs, hrest, hxs⟩
        · left
          rw [hpush, List.length_append, List.length_singleton] at hlt
          omega
        · exact .inr ⟨x :: xs, by rw [hrest, hpush, List.append_assoc]; rfl, .cons hx hxs⟩

theorem kept_of_read {segments xs : List (List Char)} (h : List.Forall₂ Keeps segments xs)
    (hread : xs.map (fun x => Utf8.decode? (Percent.decode x)) = segments.map some) :
    ∀ s ∈ segments, Undotted s ∧ withoutIgnored s = s := by
  induction h with
  | nil => exact List.forall_mem_nil _
  | cons hx hxs ih =>
      obtain ⟨hhead, hrest⟩ := List.cons.inj hread
      exact List.forall_mem_cons.2 ⟨hx hhead, ih hrest⟩

theorem rooted_slashless (h : Slashless ss) : Slashless (rooted ss) := by
  rw [rooted]
  split
  · exact List.forall_mem_nil _
  · exact h

theorem popIfEmpty_slashless (h : Slashless ss) : Slashless (popIfEmpty ss) := by
  rw [popIfEmpty]
  split
  · exact fun s hs => h s (List.dropLast_subset _ hs)
  · exact h

theorem push_slashless (h : Slashless ss) (s : List Char) : Slashless (push true ss s) := by
  have hroot := rooted_slashless h
  rw [push_eq]
  split
  · split
    · exact List.forall_mem_append.2
        ⟨fun x hx => hroot x (List.dropLast_subset _ hx), List.forall_mem_singleton.2 List.not_mem_nil⟩
    · refine List.forall_mem_append.2 ⟨hroot, List.forall_mem_singleton.2 ?_⟩
      split
      · exact List.not_mem_nil
      · exact slash_not_mem_written _
  · exact h

theorem foldl_push_slashless (segments : List (List Char)) (h : Slashless ss) :
    Slashless (segments.foldl (push true) ss) := by
  induction segments generalizing ss with
  | nil => exact h
  | cons s rest ih => exact ih (push_slashless h s)

end Kept

end Url

namespace Http.ObjectStore

open Url

def location (bucket key : String) : List (List Char) := bucket.toList :: pieces '/' key.toList

/-- Nothing of the bucket and the key is dropped on the way into a URL. -/
structure Addressable (bucket key : String) : Prop where
  nonempty : bucket.toList ≠ []
  whole : '/' ∉ bucket.toList
  undotted : ∀ s ∈ location bucket key, Undotted s
  kept : ∀ c ∈ bucket.toList ++ key.toList, isIgnored c = false

theorem addressable_of_all {bucket key : String} (hbucket : bucket.toList ≠ [] ∧ '/' ∉ bucket.toList)
    (hundotted : (location bucket key).all (fun s => decide (Undotted s)) = true)
    (hkept : (bucket.toList ++ key.toList).all (fun c => !isIgnored c) = true) :
    Addressable bucket key := by
  refine ⟨hbucket.1, hbucket.2, fun s hs => ?_, fun c hc => ?_⟩
  · exact of_decide_eq_true (List.all_eq_true.1 hundotted s hs)
  · exact Bool.not_eq_true' _ ▸ List.all_eq_true.1 hkept c hc

/-- The URL is that of the endpoint with the bucket and the key behind its path. -/
structure IsAddress (b : Url) (bucket key : String) (u : Url) : Prop where
  site : u = { b with path := u.path }
  path : ∃ rest, u.path.write = stem b.path.write ++ '/' :: rest ∧
    (pieces '/' rest).map (fun s => Utf8.decode? (Percent.decode s)) = (location bucket key).map some

variable {store : ObjectStore} {b : Url} {bucket key : String}

theorem objectUrl_eq {ss : List (List Char)} (h : Url.parse store.base = .ok b) (hb : b.isWeb = true)
    (hss : b.path = .segments ss) : store.objectUrl bucket key = .ok { b with
      path := .segments ((location bucket key).foldl (push true) (popIfEmpty ss)) } := by
  rw [objectUrl, h]
  simp only [extend?, hss, isWeb_special hb]
  rfl

theorem Addressable.kept_location (h : Addressable bucket key) :
    ∀ s ∈ location bucket key, withoutIgnored s = s := by
  intro s hs
  apply withoutIgnored_eq_self
  intro c hc
  rcases List.mem_cons.1 hs with rfl | hs
  · exact h.kept c (List.mem_append_left _ hc)
  · exact h.kept c (List.mem_append_right _ ((mem_pieces hs).1.subset hc))

theorem Addressable.objectUrl {ss : List (List Char)} (ha : Addressable bucket key)
    (h : Url.parse store.base = .ok b) (hb : b.isWeb = true) (hss : b.path = .segments ss) :
    store.objectUrl bucket key = .ok { b with
      path := .segments (rooted (popIfEmpty ss) ++ (location bucket key).map written) } := by
  have hkept := ha.kept_location
  have hundotted : ∀ s ∈ location bucket key, Undotted (withoutIgnored s) := fun s hs => by
    rw [hkept s hs]
    exact ha.undotted s hs
  have hbucket : withoutIgnored bucket.toList ≠ [] := by
    rw [hkept _ List.mem_cons_self]
    exact ha.nonempty
  have hmap : (location bucket key).map (fun s => written (withoutIgnored s)) =
      (location bucket key).map written :=
    List.map_congr_left fun s hs => by rw [hkept s hs]
  rw [objectUrl_eq h hb hss, ← hmap]
  exact congrArg (fun path => Except.ok { b with path := .segments path })
    (foldl_push_rooted hundotted hbucket _)

theorem Addressable.isAddress {ss : List (List Char)} {u : Url} (ha : Addressable bucket key)
    (h : Url.parse store.base = .ok b) (hb : b.isWeb = true) (hss : b.path = .segments ss)
    (hslash : Slashless ss) (hu : store.objectUrl bucket key = .ok u) : IsAddress b bucket key u := by
  rw [ha.objectUrl h hb hss] at hu
  cases hu
  refine ⟨rfl, (written bucket.toList ++ ((pieces '/' key.toList).map written).flatMap ('/' :: ·)), ?_, ?_⟩
  · rw [hss, stem_write hslash, Path.write_append]
    rfl
  · rw [pieces_flatMap (slash_not_mem_written _) fun x hx => by
      obtain ⟨y, -, rfl⟩ := List.mem_map.1 hx
      exact slash_not_mem_written y]
    simp [location, decode_written, Utf8.decode?_encode]

theorem addressable_of_kept (hbucket : bucket.toList ≠ [] ∧ '/' ∉ bucket.toList)
    (h : ∀ s ∈ location bucket key, Undotted s ∧ withoutIgnored s = s) : Addressable bucket key := by
  have hkept (s : List Char) (hs : s ∈ location bucket key) : ∀ c ∈ s, isIgnored c = false := by
    intro c hc
    rw [← (h s hs).2] at hc
    exact Bool.not_eq_true' _ ▸ (List.mem_filter.1 hc).2
  refine ⟨hbucket.1, hbucket.2, fun s hs => (h s hs).1, fun c hc => ?_⟩
  rcases List.mem_append.1 hc with hc | hc
  · exact hkept _ List.mem_cons_self c hc
  · rw [← joined_pieces '/' key.toList] at hc
    obtain ⟨first, rest, hpieces⟩ := List.exists_cons_of_ne_nil (pieces_ne_nil '/' key.toList)
    have hall := fun s hs => hkept s (List.mem_cons_of_mem _ hs)
    rw [hpieces] at hall
    rw [hpieces, joined_cons] at hc
    rcases List.mem_append.1 hc with hc | hc
    · exact hall first List.mem_cons_self c hc
    · obtain ⟨s, hs, hc⟩ := List.mem_flatMap.1 hc
      rcases List.mem_cons.1 hc with rfl | hc
      · decide
      · exact hall s (List.mem_cons_of_mem _ hs) c hc

theorem IsAddress.addressable {ss : List (List Char)} {u : Url} (hss : b.path = .segments ss)
    (hslash : Slashless ss) (hbucket : bucket.toList ≠ [] ∧ '/' ∉ bucket.toList)
    (hu : u.path = .segments ((location bucket key).foldl (push true) (popIfEmpty ss)))
    (ha : IsAddress b bucket key u) : Addressable bucket key := by
  obtain ⟨rest, hpath, hread⟩ := ha.path
  have hpop := popIfEmpty_slashless hslash
  have hroot := rooted_slashless hpop
  -- the segments are known from the text of the path, as none has a slash
  have hsegments : (location bucket key).foldl (push true) (popIfEmpty ss) =
      rooted (popIfEmpty ss) ++ pieces '/' rest := by
    apply Path.write_injective (foldl_push_slashless _ hpop)
      (List.forall_mem_append.2 ⟨hroot, fun s hs => (mem_pieces hs).2⟩)
    rw [← hu, hpath, hss, stem_write hslash, Path.write_append]
    obtain ⟨first, later, hpieces⟩ := List.exists_cons_of_ne_nil (pieces_ne_nil '/' rest)
    have hrest := joined_pieces '/' rest
    rw [hpieces, joined_cons] at hrest
    rw [hpieces, Path.write_cons, hrest]
  have hlength : (pieces '/' rest).length = (location bucket key).length := by
    simpa using congrArg List.length hread
  have hnot : (location bucket key).foldl (push true) (popIfEmpty ss) ≠ [[]] := fun he => by
    have hone := congrArg List.length (hsegments.symm.trans he)
    have hkey := List.length_pos_iff.2 (pieces_ne_nil '/' key.toList)
    rw [List.length_append, hlength, location, List.length_cons, List.length_singleton] at hone
    omega
  -- there are as many as the location has, so none was skipped or taken back
  rcases foldl_push_cases (location bucket key) (popIfEmpty ss) with hlt | ⟨xs, hxs, hkeeps⟩
  · rw [rooted_of_ne hnot, hsegments, List.length_append, hlength] at hlt
    exact absurd hlt (Nat.lt_irrefl _)
  · rw [rooted_of_ne hnot, hsegments, List.append_cancel_left_eq] at hxs
    rw [hxs] at hread
    exact addressable_of_kept hbucket (kept_of_read hkeeps hread)

/-- The URL of an object says just the bucket and the key exactly if nothing of them is dropped. -/
theorem isAddress_iff {u : Url} (h : Url.parse store.base = .ok b) (hb : b.isWeb = true)
    (hbucket : bucket.toList ≠ [] ∧ '/' ∉ bucket.toList) (hu : store.objectUrl bucket key = .ok u) :
    IsAddress b bucket key u ↔ Addressable bucket key := by
  obtain ⟨ss, hss, hslash⟩ := parse_slashless h hb
  refine ⟨fun ha => ha.addressable hss hslash hbucket ?_, fun ha => ha.isAddress h hb hss hslash hu⟩
  rw [objectUrl_eq h hb hss] at hu
  cases hu
  rfl

theorem location_injective {bucket' key' : String} (h : location bucket key = location bucket' key') :
    bucket = bucket' ∧ key = key' := by
  obtain ⟨hbucket, hkey⟩ := List.cons.inj h
  refine ⟨String.toList_injective hbucket, String.toList_injective ?_⟩
  rw [← joined_pieces '/' key.toList, hkey, joined_pieces]

theorem target_path_injective {u u' : Url} (hu : u = { b with path := u.path })
    (hu' : u' = { b with path := u'.path }) (h : u.target = u'.target) : u.path.write = u'.path.write := by
  rw [hu, hu'] at h
  simpa [target] using h

theorem IsAddress.injective {bucket' key' : String} {u u' : Url} (hu : IsAddress b bucket key u)
    (hu' : IsAddress b bucket' key' u') (h : u.target = u'.target) : bucket = bucket' ∧ key = key' := by
  obtain ⟨rest, hpath, hrest⟩ := hu.path
  obtain ⟨rest', hpath', hrest'⟩ := hu'.path
  have hsame := target_path_injective hu.site hu'.site h
  rw [hpath, hpath', List.append_cancel_left_eq] at hsame
  rw [(List.cons.inj hsame).2, hrest'] at hrest
  exact location_injective ((List.map_inj_right fun _ _ => Option.some.inj).1 hrest).symm

/-- Behind an endpoint on the web, the bucket and the segments of the key can be read off the URL of an
object, so that no two objects share one. -/
theorem object_urls_keep_locations {endpoint : String}
    (h : Url.parse (ofEndpoint endpoint).base = .ok b) (hb : b.isWeb = true) :
    (∀ bucket key, Addressable bucket key → ∃ u, (ofEndpoint endpoint).objectUrl bucket key = .ok u ∧
      IsAddress b bucket key u) ∧
    ∀ bucket key bucket' key' u u', Addressable bucket key → Addressable bucket' key' →
      (ofEndpoint endpoint).objectUrl bucket key = .ok u →
      (ofEndpoint endpoint).objectUrl bucket' key' = .ok u' → u.target = u'.target →
      bucket = bucket' ∧ key = key' := by
  obtain ⟨ss, hss, hslash⟩ := parse_slashless h hb
  constructor
  · intro bucket key ha
    have hu := ha.objectUrl h hb hss
    exact ⟨_, hu, ha.isAddress h hb hss hslash hu⟩
  · intro bucket key bucket' key' u u' ha ha' hu hu'
    exact (ha.isAddress h hb hss hslash hu).injective (ha'.isAddress h hb hss hslash hu')

def shelf : String := "http://svc.test/shelf/?sig=1"

def shelfUrl : Url where
  scheme := "http".toList
  host := some (.name "svc.test".toList)
  path := .segments ["shelf".toList, []]
  query := some "sig=1".toList

theorem shelf_parse : Url.parse (ofEndpoint shelf).base = .ok shelfUrl := by rfl

theorem shelfUrl_isWeb : shelfUrl.isWeb = true := by decide

theorem shelf_keeps_locations :
    Url.parse (ofEndpoint shelf).base = .ok shelfUrl ∧ shelfUrl.isWeb = true ∧
      Addressable "bucket" "a//50% #1?é\\" ∧ Addressable "bucket" "a/50% #1?é\\" ∧
      ∃ u u', (ofEndpoint shelf).objectUrl "bucket" "a//50% #1?é\\" = .ok u ∧
        (ofEndpoint shelf).objectUrl "bucket" "a/50% #1?é\\" = .ok u' ∧
        IsAddress shelfUrl "bucket" "a//50% #1?é\\" u ∧ u.target ≠ u'.target := by
  have ha : Addressable "bucket" "a//50% #1?é\\" :=
    addressable_of_all (by decide) (by decide) (by decide)
  have ha' : Addressable "bucket" "a/50% #1?é\\" :=
    addressable_of_all (by decide) (by decide) (by decide)
  obtain ⟨hkeeps, hapart⟩ := object_urls_keep_locations shelf_parse shelfUrl_isWeb
  obtain ⟨u, hu, haddress⟩ := hkeeps _ _ ha
  obtain ⟨u', hu', -⟩ := hkeeps _ _ ha'
  refine ⟨shelf_parse, shelfUrl_isWeb, ha, ha', u, u', hu, hu', haddress, fun htarget => ?_⟩
  exact absurd (hapart _ _ _ _ u u' ha ha' hu hu' htarget).2 (by decide)

/-- Slashes at the end of the text of an endpoint are all dropped, whatever they belong to: the path loses
more than one, and the query loses its own. -/
theorem slashes_at_end_are_dropped :
    (∃ b u, Url.parse? "http://svc.test/shelf///" = .ok b ∧ b.isWeb = true ∧
      Addressable "bucket" "key" ∧
      (ofEndpoint "http://svc.test/shelf///").objectUrl "bucket" "key" = .ok u ∧
      ¬ withoutSlash b.path.write <+: u.path.write) ∧
    ∃ b u, Url.parse? "http://svc.test/?sig=a/" = .ok b ∧ b.isWeb = true ∧
      (ofEndpoint "http://svc.test/?sig=a/").objectUrl "bucket" "key" = .ok u ∧ u.query ≠ b.query := by
  have ha : Addressable "bucket" "key" := addressable_of_all (by decide) (by decide) (by decide)
  exact ⟨⟨_, _, rfl, by decide, ha, rfl, by decide⟩, ⟨_, _, rfl, by decide, rfl, by decide⟩⟩

end Http.ObjectStore

end Dispatch
