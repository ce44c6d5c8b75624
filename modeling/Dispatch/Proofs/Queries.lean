import Dispatch.Proofs.Forms

namespace Dispatch.Url

open Text

theorem cutTail_query {s q : List Char} (h : (cutTail s).2.1 = some q) : '?' :: q <:+: s := by
  have hbehind {t : List Char} {x : List Char × List Char} (ht : t <:+: s) (hx : splitOnce '?' t = some x) :
      '?' :: x.2 <:+: s := by
    obtain ⟨rfl, -⟩ := splitOnce_eq_some hx
    exact (List.suffix_append x.1 _).isInfix.trans ht
  rw [cutTail] at h
  cases hs : splitOnce '#' s with
  | none =>
      rw [hs] at h
      dsimp only at h
      cases hq : splitOnce '?' s with
      | none =>
          rw [hq] at h
          cases h
      | some x =>
          rw [hq] at h
          cases h
          exact hbehind (List.infix_refl s) hq
  | some y =>
      obtain ⟨hsy, -⟩ := splitOnce_eq_some hs
      have hy : y.1 <:+: s := (hsy ▸ List.prefix_append _ _ : y.1 <+: s).isInfix
      rw [hs] at h
      dsimp only at h
      cases hq : splitOnce '?' y.1 with
      | none =>
          rw [hq] at h
          cases h
      | some x =>
          rw [hq] at h
          cases h
          exact hbehind hy hq

theorem takeHost_append (bracketed : Bool) (s : List Char) :
    (takeHost bracketed s).1 ++ (takeHost bracketed s).2 = s := by
  induction s generalizing bracketed with
  | nil => rfl
  | cons c s ih =>
      rw [takeHost]
      split
      · rfl
      · exact congrArg (c :: ·) (ih _)

theorem afterLast_suffix (c : Char) (s : List Char) : afterLast c s <:+ s := by
  have hrev := List.takeWhile_prefix (· != c) (l := s.reverse)
  simpa [afterLast] using List.reverse_suffix.2 hrev

theorem readAuthority_suffix {scheme : String} {s left : List Char} {host : Option Host}
    {port : Option Nat} (h : readAuthority scheme s = .ok (host, port, left)) : left <:+ s := by
  generalize hends : (fun c => !endsAuthority (isSpecial scheme) c) = ends at h
  unfold readAuthority at h
  simp only [hends] at h
  generalize hsite : takeHost false (afterLast '@' (s.takeWhile ends)) = site at h
  have hport : site.2 <:+ s.takeWhile ends := by
    rw [← hsite]
    exact List.IsSuffix.trans ⟨_, takeHost_append _ _⟩ (afterLast_suffix '@' _)
  have hback : (site.2.drop 1).dropWhile (· ≠ '\\') ++ s.dropWhile ends <:+ s := by
    obtain ⟨front, hfront⟩ := ((List.dropWhile_suffix (· ≠ '\\')).trans (List.drop_suffix 1 _)).trans hport
    refine ⟨front, ?_⟩
    rw [← List.append_assoc, hfront, List.takeWhile_append_dropWhile]
  -- special schemes read their hosts in another way, but go on behind them in the same
  have hread {x : Except Error Host} {y : Except Error (Option Nat)} {finish : Option Nat → Option Nat}
      (h : (do
        let host ← x
        let port ← y
        return (some host, finish port, (site.2.drop 1).dropWhile (· ≠ '\\') ++ s.dropWhile ends)) =
          Except.ok (host, port, left)) : left <:+ s := by
    cases x with
    | error e => cases h
    | ok host' =>
        cases y with
        | error e => cases h
        | ok port' =>
            cases h
            exact hback
  split at h
  · split at h
    · cases h
    · cases h
      exact List.dropWhile_suffix _
  · split at h
    · exact hread h
    · exact hread h

/-- The URL was read to its end from the last part of a text. -/
def EndsWith (u : Url) (s : List Char) : Prop :=
  ∃ scheme host port path t, u = complete scheme host port path t ∧ t <:+ s

theorem EndsWith.mono {u : Url} {s t : List Char} (h : u.EndsWith s) (hst : s <:+ t) : u.EndsWith t := by
  obtain ⟨scheme, host, port, path, v, rfl, hv⟩ := h
  exact ⟨scheme, host, port, path, v, rfl, hv.trans hst⟩

theorem readHosted_endsWith {scheme s : List Char} {u : Url} (h : readHosted scheme s = .ok u) :
    u.EndsWith s := by
  obtain ⟨host, port, left, hauthority, rfl⟩ := readHosted_ok h
  exact ⟨scheme, host, port, _, left, rfl, readAuthority_suffix hauthority⟩

theorem readFileHost_suffix {s left : List Char} {host : Option Host}
    (h : readFileHost s = .ok (host, left)) : left <:+ s := by
  rw [readFileHost] at h
  split at h
  · cases h
    exact List.suffix_refl s
  · cases hread : Host.read (s.takeWhile fun c => !endsAuthority true c) with
    | error e =>
        rw [hread] at h
        cases h
    | ok x =>
        rw [hread] at h
        cases h
        exact List.drop_suffix _ _

theorem readFile_endsWith {scheme s : List Char} {u : Url} (h : readFile scheme s = .ok u) :
    u.EndsWith s := by
  unfold readFile at h
  split at h
  · next x y rest =>
      split at h
      · cases hr : readFileHost rest with
        | error e =>
            rw [hr] at h
            cases h
        | ok left =>
            rw [hr] at h
            cases h
            have hleft : left.2 <:+ x :: y :: rest :=
              (readFileHost_suffix hr).trans ((List.suffix_cons _ _).trans (List.suffix_cons _ _))
            exact ⟨scheme, _, _, _, _, rfl, hleft⟩
      · cases h
        exact ⟨scheme, _, _, _, _, rfl, List.suffix_refl _⟩
  · cases h
    exact ⟨scheme, _, _, _, _, rfl, List.suffix_refl _⟩

theorem readScheme_suffix {s scheme rest : List Char} (h : readScheme s = some (scheme, rest)) :
    rest <:+ s := by
  rw [readScheme] at h
  split at h
  · cases h
  · split at h
    · split at h
      · next hcolon =>
          cases h
          have hdrop := List.dropWhile_suffix isSchemeChar (l := s)
          rw [hcolon] at hdrop
          exact (List.suffix_cons _ _).trans hdrop
      · cases h
    · cases h

theorem parse_endsWith {s : List Char} {u : Url} (h : parse s = .ok u) : u.EndsWith (cleaned s) := by
  rw [parse] at h
  split at h
  · cases h
  · next scheme rest hscheme =>
      refine EndsWith.mono (s := rest) ?_ (readScheme_suffix hscheme)
      dsimp only at h
      split at h
      · exact readFile_endsWith h
      · split at h
        · exact (readHosted_endsWith h).mono (List.dropWhile_suffix _)
        · split at h
          · exact (readHosted_endsWith h).mono ((List.suffix_cons _ _).trans (List.suffix_cons _ _))
          · cases h
            exact ⟨scheme, _, _, _, _, rfl, List.suffix_refl _⟩
          · cases h
            exact ⟨scheme, _, _, _, _, rfl, List.suffix_refl _⟩

theorem parse_query {s q : List Char} {u : Url} (h : parse s = .ok u) (hq : u.query = some q) :
    ∃ special raw, q = Percent.encode (Percent.escapesQuery special) raw ∧ '?' :: raw <:+: cleaned s := by
  obtain ⟨scheme, host, port, path, t, rfl, ht⟩ := parse_endsWith h
  obtain ⟨raw, hraw, rfl⟩ := Option.map_eq_some_iff.1 hq
  exact ⟨_, raw, rfl, (cutTail_query hraw).trans ht.isInfix⟩

theorem cleaned_infix_withoutIgnored (s : List Char) : cleaned s <:+: withoutIgnored s := by
  have hdrop (s : List Char) : s.dropWhile isFaint <:+ s := List.dropWhile_suffix _
  have hend := List.reverse_prefix.2 (hdrop (s.dropWhile isFaint).reverse)
  rw [List.reverse_reverse] at hend
  rw [cleaned_eq, tidy, withoutIgnored, withoutIgnored]
  exact (hend.isInfix.trans (hdrop s).isInfix).filter _

theorem hash_not_mem_query {s : List Char} {u : Url} (h : parse s = .ok u) : ∀ q ∈ u.query, '#' ∉ q := by
  intro q hq
  obtain ⟨special, raw, rfl, -⟩ := parse_query h hq
  exact Percent.not_mem_encode (by decide) (.inl (by cases special <;> decide))

/-- The pairs in the query of a URL, as they are read where it arrives. -/
def pairs (u : Url) : List Form.Pair := u.query.elim [] Form.decode

theorem spells_of_mem_pairs {s : List Char} {u : Url} (h : parse s = .ok u) {p : Form.Pair}
    (hp : p ∈ u.pairs) : Form.Spells (withoutIgnored s) p.1 := by
  cases hq : u.query with
  | none => simp [pairs, hq] at hp
  | some q =>
      obtain ⟨special, raw, rfl, hraw⟩ := parse_query h hq
      rw [pairs, hq, Option.elim_some, Form.decode_encode (Form.escapesQuery_sparesForm special)] at hp
      exact (Form.spells_of_mem_decode hp).mono (hraw.trans (cleaned_infix_withoutIgnored s))

/-- The URL with one more pair at the end of its query, and nothing else changed. -/
structure Gains (u : Url) (p : Form.Pair) (v : Url) : Prop where
  rest : { v with query := u.query } = u
  pairs : v.pairs = u.pairs ++ [p]
  text : ∃ q, v.target = { u with query := none }.target ++ '?' :: q ∧ Form.decode q = v.pairs ∧ '#' ∉ q

theorem addPair_gains {u : Url} (h : ∀ q ∈ u.query, '#' ∉ q) (p : Form.Pair) : u.Gains p (u.addPair p) where
  rest := rfl
  pairs := Form.decode_append u.query p
  text := by
    refine ⟨Form.append u.query p, ?_, rfl, Form.hash_not_mem_append h p⟩
    simp [target, addPair]

end Dispatch.Url
