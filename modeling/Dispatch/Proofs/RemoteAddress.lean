import Mathlib.Data.List.DropRight
import Dispatch.Proofs.Address
import Dispatch.Storage.Uri

namespace Dispatch

namespace Text

variable {c : Char} {s : List Char} {ss : List (List Char)}

structure IsTrimmed (c : Char) (s : List Char) : Prop where
  head : s.head? ≠ some c
  last : s.getLast? ≠ some c

theorem head?_trimStart (c : Char) (s : List Char) : (trimStart c s).head? ≠ some c := by
  intro h
  have hnot := List.head?_dropWhile_not (· == c) s
  rw [trimStart] at h
  rw [h] at hnot
  exact absurd hnot (by simp)

theorem trimStart_eq_self (h : s.head? ≠ some c) : trimStart c s = s := by
  cases s with
  | nil => rfl
  | cons x s => exact List.dropWhile_cons_of_neg (by simpa using h)

theorem trimEnd_eq_self (h : s.getLast? ≠ some c) : trimEnd c s = s := by
  have hrev := trimStart_eq_self (List.head?_reverse ▸ h)
  rw [trimStart] at hrev
  rw [trimEnd, hrev, List.reverse_reverse]

theorem getLast?_trimEnd (c : Char) (s : List Char) : (trimEnd c s).getLast? ≠ some c := by
  rw [trimEnd, List.getLast?_reverse]
  exact head?_trimStart c s.reverse

theorem trimEnd_isPrefix (c : Char) (s : List Char) : trimEnd c s <+: s :=
  List.rdropWhile_prefix (· == c) s

theorem isTrimmed_trim (c : Char) (s : List Char) : IsTrimmed c (trim c s) where
  head h := by
    obtain ⟨t, ht⟩ := trimEnd_isPrefix c (trimStart c s)
    apply head?_trimStart c s
    rw [trim] at h
    rw [← ht, List.head?_append, h]
    rfl
  last := getLast?_trimEnd c (trimStart c s)

theorem IsTrimmed.trim_eq (h : IsTrimmed c s) : trim c s = s := by
  rw [trim, trimStart_eq_self h.head, trimEnd_eq_self h.last]

theorem IsTrimmed.joined (h : ∀ s ∈ ss, s ≠ [] ∧ IsTrimmed c s) : IsTrimmed c (joined c ss) := by
  induction ss with
  | nil => exact ⟨by simp [Text.joined], by simp [Text.joined]⟩
  | cons s rest ih =>
      obtain ⟨⟨hne, hs⟩, hrest⟩ := List.forall_mem_cons.1 h
      cases rest with
      | nil => exact hs
      | cons t rest =>
          have hjoined := ih hrest
          have hmore : Text.joined c (t :: rest) ≠ [] := by
            rw [joined_cons]
            exact List.append_ne_nil_of_left_ne_nil (hrest t List.mem_cons_self).1 _
          refine ⟨?_, ?_⟩
          · rw [Text.joined, List.head?_append_of_ne_nil _ hne]
            exact hs.head
          · rw [Text.joined, List.append_cons, List.getLast?_append_of_ne_nil _ hmore]
            exact hjoined.last

theorem mem_trim {x : Char} (hx : x ∈ s) (hne : x ≠ c) : x ∈ trim c s := by
  have hkeep {u : List Char} (hu : x ∈ u) : x ∈ u.dropWhile (· == c) := by
    rw [← List.takeWhile_append_dropWhile (p := (· == c)) (l := u)] at hu
    rcases List.mem_append.1 hu with hu | hu
    · exact absurd (List.mem_takeWhile_imp hu) (by simp [hne])
    · exact hu
  exact List.mem_reverse.2 (hkeep (List.mem_reverse.2 (hkeep hx)))

theorem trim_cons_self (c : Char) (s : List Char) : trim c (c :: s) = trim c s := by
  rw [trim, trim, trimStart, List.dropWhile_cons_of_pos (by simp)]
  rfl

theorem dropWhile_of_not_mem (h : c ∉ s) : s.dropWhile (· != c) = [] :=
  List.dropWhile_eq_nil_iff.2 fun _ hx => bne_iff_ne.2 (ne_of_mem_of_not_mem hx h)

theorem dropWhile_append_of_not_mem (h : c ∉ s) (t : List Char) :
    (s ++ c :: t).dropWhile (· != c) = c :: t := by
  rw [dropWhile_append_cons (by simp), dropWhile_of_not_mem h]
  rfl

theorem not_mem_before (c : Char) (s : List Char) : c ∉ before c s := by
  intro h
  exact absurd (List.mem_takeWhile_imp h) (by simp)

theorem trim_flatMap (h : ∀ s ∈ ss, s ≠ [] ∧ IsTrimmed c s) :
    trim c (ss.flatMap (c :: ·)) = joined c ss := by
  cases ss with
  | nil => rfl
  | cons s rest =>
      rw [List.flatMap_cons, List.cons_append, ← joined_cons, trim_cons_self]
      exact (IsTrimmed.joined h).trim_eq

end Text

namespace Storage

open Text

variable {name rest s : List Char}

/-- The segments that an address keeps: without the slashes around them, and not empty. -/
def kept (segments : List (List Char)) : List (List Char) :=
  (segments.map (trim '/')).filter (· ≠ [])

theorem kept_trimmed {segments : List (List Char)} (hs : s ∈ kept segments) :
    s ≠ [] ∧ IsTrimmed '/' s := by
  obtain ⟨hmem, hne⟩ := List.mem_filter.1 hs
  obtain ⟨segment, -, rfl⟩ := List.mem_map.1 hmem
  exact ⟨by simpa using hne, isTrimmed_trim '/' segment⟩

theorem kept_append (segments more : List (List Char)) :
    kept (segments ++ more) = kept segments ++ kept more := by
  rw [kept, List.map_append, List.filter_append]
  rfl

theorem kept_singleton (h : trim '/' s ≠ []) : kept [s] = [trim '/' s] :=
  List.filter_cons_of_pos (by simpa using h)

theorem joined_kept_singleton (h : IsTrimmed '/' s) : joined '/' (kept [s]) = s := by
  by_cases hs : s = []
  · rw [hs]
    rfl
  · rw [kept_singleton (by rwa [h.trim_eq]), h.trim_eq]
    rfl

theorem foldl_addSegment (segments : List (List Char)) (u : List Char) :
    segments.foldl addSegment u = u ++ (kept segments).flatMap ('/' :: ·) := by
  induction segments generalizing u with
  | nil => exact (List.append_nil u).symm
  | cons s segments ih =>
      rw [List.foldl_cons, ih, ← List.singleton_append, kept_append, List.flatMap_append,
        ← List.append_assoc]
      congr 1
      rw [addSegment, kept, List.map_singleton]
      cases trim '/' s with
      | nil => exact (List.append_nil u).symm
      | cons x t => simp

theorem remoteText_eq (bucket : List Char) (segments : List (List Char)) :
    remoteText bucket segments =
      scheme ++ ':' :: '/' :: '/' :: (trim '/' bucket ++ (kept segments).flatMap ('/' :: ·)) := by
  rw [remoteText, foldl_addSegment, List.append_assoc, List.append_assoc]
  rfl

theorem splitScheme_append (h : ':' ∉ name) (rest : List Char) :
    splitScheme (name ++ ':' :: '/' :: '/' :: rest) = some (name, rest) := by
  induction name with
  | nil => rfl
  | cons x name ih =>
      obtain ⟨hx, hname⟩ := not_or.1 (mt List.mem_cons.2 h)
      rw [List.cons_append, splitScheme, ih hname]
      · rfl
      · intro rest hcolon
        exact absurd hcolon (Ne.symm hx)

theorem splitScheme_eq_some (h : splitScheme s = some (name, rest)) :
    s = name ++ ':' :: '/' :: '/' :: rest := by
  induction s using splitScheme.induct generalizing name rest with
  | case1 rest' =>
      cases h
      rfl
  | case2 c s hmark ih =>
      rw [splitScheme] at h
      · obtain ⟨⟨u, v⟩, hrest, heq⟩ := Option.map_eq_some_iff.1 h
        cases heq
        rw [ih hrest, List.cons_append]
      · exact hmark
  | case3 => cases h

theorem sameLetters_scheme : sameLetters scheme scheme = true := beq_self_eq_true _

theorem not_mem_of_sameLetters (h : sameLetters name scheme = true) {c : Char}
    (hc : c.toLower ∉ scheme.map Char.toLower) : c ∉ name := by
  intro hmem
  rw [← beq_iff_eq.1 h] at hc
  exact hc (List.mem_map_of_mem hmem)

theorem colon_not_mem (h : sameLetters name scheme = true) : ':' ∉ name :=
  not_mem_of_sameLetters h (by decide)

/-- Remote is what starts with the scheme, in letters of either case, and the mark behind it. -/
theorem isRemoteText_iff : isRemoteText s = true ↔
    ∃ name rest, s = name ++ ':' :: '/' :: '/' :: rest ∧ sameLetters name scheme = true := by
  constructor
  · intro h
    rw [isRemoteText] at h
    split at h
    · next name rest hsplit => exact ⟨name, rest, splitScheme_eq_some hsplit, h⟩
    · cases h
  · rintro ⟨name, rest, rfl, hname⟩
    rw [isRemoteText, splitScheme_append (colon_not_mem hname)]
    exact hname

/-- What an address comes apart to: the text up to the next slash, and what follows without the slashes
around it. -/
theorem splitRemoteText_append (h : sameLetters name scheme = true) (rest : List Char) :
    splitRemoteText (name ++ ':' :: '/' :: '/' :: rest) =
      if before '/' rest = [] then none
      else some (before '/' rest, trim '/' (rest.dropWhile (· != '/'))) := by
  have hremote : isRemoteText (name ++ ':' :: '/' :: '/' :: rest) = true :=
    isRemoteText_iff.2 ⟨name, rest, rfl, h⟩
  rw [splitRemoteText, if_pos hremote, splitScheme_append (colon_not_mem h)]
  cases hsplit : splitOnce '/' rest with
  | none =>
      have hslash := splitOnce_eq_none_iff.1 hsplit
      simp only [hsplit, before_of_not_mem hslash, dropWhile_of_not_mem hslash]
      rfl
  | some p =>
      obtain ⟨bucket, key⟩ := p
      obtain ⟨rfl, hbucket⟩ := splitOnce_eq_some hsplit
      simp only [hsplit, before_append hbucket, dropWhile_append_of_not_mem hbucket, trim_cons_self]

theorem splitRemoteText_remoteText {bucket : List Char} (hne : trim '/' bucket ≠ [])
    (hslash : '/' ∉ trim '/' bucket) (segments : List (List Char)) :
    splitRemoteText (remoteText bucket segments) =
      some (trim '/' bucket, joined '/' (kept segments)) := by
  have hbefore : before '/' (trim '/' bucket ++ (kept segments).flatMap ('/' :: ·)) =
      trim '/' bucket := by
    cases kept segments with
    | nil => rw [List.flatMap_nil, List.append_nil, before_of_not_mem hslash]
    | cons s rest => exact before_append hslash
  have hrest : (trim '/' bucket ++ (kept segments).flatMap ('/' :: ·)).dropWhile (· != '/') =
      (kept segments).flatMap ('/' :: ·) := by
    cases kept segments with
    | nil => rw [List.flatMap_nil, List.append_nil, dropWhile_of_not_mem hslash]
    | cons s rest => exact dropWhile_append_of_not_mem hslash _
  rw [remoteText_eq, splitRemoteText_append sameLetters_scheme, hbefore, if_neg hne, hrest,
    trim_flatMap fun s => kept_trimmed]

theorem splitRemoteText_parts {bucket key : List Char} (h : splitRemoteText s = some (bucket, key)) :
    bucket ≠ [] ∧ '/' ∉ bucket ∧ IsTrimmed '/' key := by
  have hremote : isRemoteText s = true := by
    by_contra hnot
    rw [splitRemoteText, if_neg hnot] at h
    cases h
  obtain ⟨name, rest, rfl, hname⟩ := isRemoteText_iff.1 hremote
  rw [splitRemoteText_append hname] at h
  split at h
  · cases h
  · next hne =>
      cases h
      exact ⟨hne, not_mem_before '/' rest, isTrimmed_trim '/' _⟩

theorem splitRemote?_bucket {uri bucket key : String} (h : splitRemote? uri = some (bucket, key)) :
    bucket.toList ≠ [] ∧ '/' ∉ bucket.toList := by
  obtain ⟨⟨b, k⟩, hsplit, heq⟩ := Option.map_eq_some_iff.1 h
  obtain ⟨hne, hslash, -⟩ := splitRemoteText_parts hsplit
  cases heq
  rw [String.toList_ofList]
  exact ⟨hne, hslash⟩

theorem splitRemoteText_eq_none_iff : splitRemoteText s = none ↔ isRemoteText s = false ∨
    ∃ name rest, s = name ++ ':' :: '/' :: '/' :: rest ∧ sameLetters name scheme = true ∧
      before '/' rest = [] := by
  constructor
  · intro h
    cases hremote : isRemoteText s with
    | false => exact .inl rfl
    | true =>
        obtain ⟨name, rest, rfl, hname⟩ := isRemoteText_iff.1 hremote
        rw [splitRemoteText_append hname] at h
        split at h
        · next hempty => exact .inr ⟨name, rest, rfl, hname, hempty⟩
        · cases h
  · rintro (hlocal | ⟨name, rest, rfl, hname, hempty⟩)
    · rw [splitRemoteText, if_neg (by simp [hlocal])]
    · rw [splitRemoteText_append hname, if_pos hempty]

theorem isRemote_remoteUri (b : String) (segments : List String) :
    isRemote (remoteUri b segments) = true := by
  rw [isRemote, remoteUri, String.toList_ofList, isRemoteText_iff]
  exact ⟨scheme, _, remoteText_eq _ _, sameLetters_scheme⟩

theorem key_of_remoteUri {b name bucket leading : String} {segments : List String} {x : Char}
    (hx : x ∈ name.toList) (hne : x ≠ '/')
    (h : splitRemote? (remoteUri b (segments ++ [name])) = some (bucket, leading)) :
    leading ≠ "" := by
  have hlast := mem_trim hx hne
  obtain ⟨front, htext⟩ : ∃ front, (remoteUri b (segments ++ [name])).toList =
      scheme ++ ':' :: '/' :: '/' :: (front ++ '/' :: trim '/' name.toList) := by
    refine ⟨trim '/' b.toList ++ (kept (segments.map String.toList)).flatMap ('/' :: ·), ?_⟩
    rw [remoteUri, String.toList_ofList, remoteText_eq, List.map_append, kept_append, List.map_singleton,
      kept_singleton (List.ne_nil_of_mem hlast), List.flatMap_append, ← List.append_assoc]
    simp
  have hslash : (front ++ '/' :: trim '/' name.toList).dropWhile (· != '/') =
      front.dropWhile (· != '/') ++ '/' :: trim '/' name.toList :=
    dropWhile_append_cons (by decide)
  have hmem : x ∈ trim '/' (front.dropWhile (· != '/') ++ '/' :: trim '/' name.toList) :=
    mem_trim (List.mem_append_right _ (List.mem_cons_of_mem _ hlast)) hne
  rw [splitRemote?, htext, splitRemoteText_append sameLetters_scheme, hslash] at h
  obtain ⟨⟨place, key⟩, hparts, heq⟩ := Option.map_eq_some_iff.1 h
  obtain ⟨-, rfl⟩ := Prod.mk.inj heq
  split at hparts
  · cases hparts
  · obtain ⟨-, rfl⟩ := Prod.mk.inj (Option.some.inj hparts)
    exact mt String.ofList_eq_empty_iff.1 (List.ne_nil_of_mem hmem)

/-- Putting an address together and taking it apart are inverse, but for the slashes around the parts: a
bucket and segments come back without them; the parts of an address, which have none, come back as they
are. What does not come apart is not a remote address, or nothing stands behind its mark before the next
slash. -/
theorem remote_parts_come_back :
    (∀ (bucket : String) (segments : List String),
      trim '/' bucket.toList ≠ [] → '/' ∉ trim '/' bucket.toList →
        splitRemote? (remoteUri bucket segments) = some (String.ofList (trim '/' bucket.toList),
          String.ofList (joined '/' (kept (segments.map String.toList))))) ∧
    (∀ uri bucket key, splitRemote? uri = some (bucket, key) →
      bucket ≠ "" ∧ '/' ∉ bucket.toList ∧ IsTrimmed '/' key.toList ∧
        splitRemote? (remoteUri bucket [key]) = some (bucket, key)) ∧
    ∀ uri, splitRemote? uri = none ↔ isRemote uri = false ∨
      ∃ name rest, uri.toList = name ++ ':' :: '/' :: '/' :: rest ∧
        sameLetters name scheme = true ∧ before '/' rest = [] := by
  have together (bucket : String) (segments : List String) (hne : trim '/' bucket.toList ≠ [])
      (hslash : '/' ∉ trim '/' bucket.toList) :
      splitRemote? (remoteUri bucket segments) = some (String.ofList (trim '/' bucket.toList),
        String.ofList (joined '/' (kept (segments.map String.toList)))) := by
    rw [splitRemote?, remoteUri, String.toList_ofList, splitRemoteText_remoteText hne hslash]
    rfl
  refine ⟨together, fun uri bucket key h => ?_, fun uri => ?_⟩
  · obtain ⟨⟨b, k⟩, hsplit, heq⟩ := Option.map_eq_some_iff.1 h
    obtain ⟨hne, hslash, hkey⟩ := splitRemoteText_parts hsplit
    cases heq
    have hbucket : trim '/' (String.ofList b).toList = b := by
      rw [String.toList_ofList, trim_of_not_mem hslash]
    have hback := together (String.ofList b) [String.ofList k] (hbucket.symm ▸ hne)
      (hbucket.symm ▸ hslash)
    rw [hbucket, List.map_singleton, String.toList_ofList, joined_kept_singleton hkey] at hback
    refine ⟨?_, ?_, ?_, hback⟩
    · exact mt String.ofList_eq_empty_iff.1 hne
    · rwa [String.toList_ofList]
    · rwa [String.toList_ofList]
  · rw [splitRemote?, Option.map_eq_none_iff]
    exact splitRemoteText_eq_none_iff

/-- Slashes around the bucket and the segments go, the one inside a segment stays. -/
theorem slashes_come_back_inside :
    trim '/' "/b/".toList ≠ [] ∧ '/' ∉ trim '/' "/b/".toList ∧
      splitRemote? (remoteUri "/b/" ["/x//y/", "//", "z"]) = some ("b", "x//y/z") ∧
      splitRemote? "S3://c/d://e/" = some ("c", "d://e") ∧
      splitRemote? (remoteUri "c" ["d://e"]) = some ("c", "d://e") := by
  have hapart : splitRemote? "S3://c/d://e/" = some ("c", "d://e") := by decide
  exact ⟨by decide, by decide,
    remote_parts_come_back.1 "/b/" ["/x//y/", "//", "z"] (by decide) (by decide),
    hapart, (remote_parts_come_back.2.1 _ _ _ hapart).2.2.2⟩

end Storage

end Dispatch
