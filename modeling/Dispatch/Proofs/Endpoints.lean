import Dispatch.Proofs.Activity
import Dispatch.Proofs.Address
import Dispatch.Settings

namespace Dispatch

open Text

namespace Settings

theorem isWebAddress_iff {s : String} : isWebAddress s = true ↔
    "http://".toList <+: s.toList ∨ "https://".toList <+: s.toList := by
  simp [isWebAddress]

theorem checkEndpoint_eq_ok_iff {setting url : String} {a : Unit} :
    checkEndpoint setting url = .ok a ↔ isWebAddress url = true := by
  rw [checkEndpoint]
  split
  · next hempty =>
      rw [hempty]
      exact iff_of_false nofun (by decide)
  · split
    · next hweb => exact iff_of_true rfl hweb
    · next hweb => exact iff_of_false nofun hweb

theorem checkPositive_eq_ok_iff {setting : String} {d : Duration} {a : Unit} :
    checkPositive setting d = .ok a ↔ d.nanos ≠ 0 := by
  rw [checkPositive]
  split
  · next hzero => exact iff_of_false nofun (not_not_intro hzero)
  · next hzero => exact iff_of_true rfl hzero

theorem validate_eq_ok_iff {s : Settings} : s.validate = .ok () ↔
    isWebAddress s.endpoint = true ∧ isWebAddress s.storageEndpoint = true ∧
      s.pollInterval.nanos ≠ 0 ∧ s.requestTimeout.nanos ≠ 0 := by
  simp only [validate, bind_eq_ok_iff, checkEndpoint_eq_ok_iff, checkPositive_eq_ok_iff, exists_and_left,
    exists_const]

end Settings

namespace Url

namespace IsWebScheme

variable {scheme rest : List Char}

theorem cleaned (h : IsWebScheme scheme) :
    Url.cleaned (scheme ++ ':' :: rest) = scheme ++ ':' :: tidy rest := by
  have hstart : (scheme ++ ':' :: rest).dropWhile isFaint = scheme ++ ':' :: rest := by
    rcases h with rfl | rfl <;> rfl
  have hkept : withoutIgnored scheme = scheme := by
    rcases h with rfl | rfl <;> rfl
  rw [cleaned_eq, hstart, tidy_append_cons (by decide), hkept]

theorem parse (h : IsWebScheme scheme) : Url.parse (scheme ++ ':' :: rest) =
    readHosted scheme ((tidy rest).dropWhile (isSlash true)) := by
  have hread : readScheme (Url.cleaned (scheme ++ ':' :: rest)) = some (scheme, tidy rest) := by
    rw [h.cleaned]
    rcases h with rfl | rfl <;> rfl
  exact parse_web hread h.not_file h.special

theorem parse_isWeb (h : IsWebScheme scheme) {b : Url} (hb : Url.parse (scheme ++ ':' :: rest) = .ok b) :
    b.isWeb = true := by
  rw [h.parse] at hb
  rw [isWeb_iff, readHosted_scheme hb]
  exact h

end IsWebScheme

theorem trimEnd_append_cons {c d : Char} (hc : c ≠ d) (s t : List Char) :
    trimEnd d (s ++ c :: t) = s ++ c :: trimEnd d t := by
  have hstop : (c == d) = false := beq_false_of_ne hc
  rw [trimEnd, List.reverse_append, List.reverse_cons, List.append_assoc, List.singleton_append,
    dropWhile_append_cons (p := (· == d)) hstop]
  simp [trimEnd]

theorem webAddress_trimEnd {s : String} (h : Settings.isWebAddress s = true) :
    ∃ scheme rest, IsWebScheme scheme ∧ trimEnd '/' s.toList = scheme ++ ':' :: rest := by
  rcases Settings.isWebAddress_iff.1 h with ⟨rest, hs⟩ | ⟨rest, hs⟩
  · refine ⟨"http".toList, trimEnd '/' ("//".toList ++ rest), .inl rfl, ?_⟩
    rw [← hs]
    exact trimEnd_append_cons (by decide) "http".toList ("//".toList ++ rest)
  · refine ⟨"https".toList, trimEnd '/' ("//".toList ++ rest), .inr rfl, ?_⟩
    rw [← hs]
    exact trimEnd_append_cons (by decide) "https".toList ("//".toList ++ rest)

/-- What becomes of text behind a slash at the end of `base`. -/
inductive Behind (base : List Char) : Prop
  | unhosted {scheme : List Char} (hscheme : IsWebScheme scheme)
      (h : ∀ v, Url.parse (base ++ '/' :: v) = readHosted scheme ((tidy v).dropWhile (isSlash true)))
  | unreadable (e : Error) (h : ∀ v, Url.parse (base ++ '/' :: v) = .error e)
  | hosted {scheme : List Char} (hscheme : IsWebScheme scheme) (host : Option Host) (port : Option Nat)
      (left : List Char) (h : ∀ v, Url.parse (base ++ '/' :: v) =
        .ok (complete scheme host port (readPath true) (left ++ '/' :: tidy v)))

theorem readHosted_append {scheme : List Char} (hs : isSpecial (String.ofList scheme) = true)
    (s v : List Char) : readHosted scheme (s ++ '/' :: v) =
      (readSite (String.ofList scheme) (s.takeWhile fun c => !endsAuthority true c)).map fun x =>
        complete scheme (some x.1) x.2.1 (readPath true)
          (x.2.2 ++ s.dropWhile (fun c => !endsAuthority true c) ++ '/' :: v) := by
  have hstop : (!endsAuthority true '/') = false := by decide
  rw [readHosted, readAuthority_special hs, hs,
    takeWhile_append_cons (p := fun c => !endsAuthority true c) hstop,
    dropWhile_append_cons (p := fun c => !endsAuthority true c) hstop]
  cases readSite (String.ofList scheme) (s.takeWhile fun c => !endsAuthority true c) with
  | error e => rfl
  | ok x => simp [Except.map, bind, Except.bind, pure, Except.pure]

theorem IsWebScheme.behind {scheme rest : List Char} (h : IsWebScheme scheme) :
    Behind (scheme ++ ':' :: rest) := by
  have hparse (v : List Char) : Url.parse (scheme ++ ':' :: rest ++ '/' :: v) =
      readHosted scheme ((withoutIgnored rest ++ '/' :: tidy v).dropWhile (isSlash true)) := by
    rw [List.append_assoc, List.cons_append, h.parse, tidy_append]
  -- slashes of both kinds are skipped; where nothing else is left, the host is still to come
  by_cases hsite : (withoutIgnored rest).dropWhile (isSlash true) = []
  · refine .unhosted h fun v => ?_
    rw [hparse, List.dropWhile_append, hsite]
    rfl
  · cases hread : readSite (String.ofList scheme) (((withoutIgnored rest).dropWhile (isSlash true)).takeWhile
        fun c => !endsAuthority true c) with
    | error e =>
        refine .unreadable e fun v => ?_
        rw [hparse, dropWhile_append_of_ne_nil hsite, readHosted_append h.special, hread]
        rfl
    | ok x =>
        refine .hosted h (some x.1) x.2.1 (x.2.2 ++ ((withoutIgnored rest).dropWhile (isSlash true)).dropWhile
          fun c => !endsAuthority true c) fun v => ?_
        rw [hparse, dropWhile_append_of_ne_nil hsite, readHosted_append h.special, hread]
        rfl

theorem webAddress_behind {s : String} (h : Settings.isWebAddress s = true) :
    Behind (trimEnd '/' s.toList) := by
  obtain ⟨scheme, rest, hscheme, hs⟩ := webAddress_trimEnd h
  rw [hs]
  exact hscheme.behind

theorem splitOnce_append_right {c : Char} {s t : List Char} {x : List Char × List Char}
    (h : splitOnce c s = some x) : splitOnce c (s ++ t) = some (x.1, x.2 ++ t) := by
  obtain ⟨rfl, hmem⟩ := splitOnce_eq_some h
  rw [List.append_assoc, splitOnce_append hmem]
  simp [splitOnce]

theorem cutTail_append_path {s : List Char} (h : '?' ∈ s ∨ '#' ∈ s) (t : List Char) :
    (cutTail (s ++ t)).1 = (cutTail s).1 := by
  rw [cutTail, cutTail]
  cases hs : splitOnce '#' s with
  | some x =>
      rw [splitOnce_append_right hs]
      dsimp only
      cases splitOnce '?' x.1 <;> rfl
  | none =>
      have hhash := splitOnce_eq_none_iff.1 hs
      have hmark : splitOnce '?' s ≠ none := fun hnone =>
        splitOnce_eq_none_iff.1 hnone (h.resolve_right hhash)
      obtain ⟨y, hy⟩ := Option.ne_none_iff_exists'.1 hmark
      rw [splitOnce_append hhash]
      cases splitOnce '#' t with
      | none =>
          dsimp only [Option.map_none]
          rw [splitOnce_append_right hy, hy]
      | some z =>
          dsimp only [Option.map_some]
          rw [splitOnce_append_right hy, hy]

end Url

end Dispatch
