import Dispatch.Naming
import Dispatch.Proofs.LastPiece

namespace Dispatch

open Text

namespace Text

variable {c : Char} {s t : List Char} {rest : Option (List Char)}

def marked (c : Char) (part : Option (List Char)) : List Char := part.elim [] (c :: ·)

def closed (c : Char) (part : Option (List Char)) : List Char := part.elim [] (· ++ [c])

theorem before_marked (h : c ∉ s) : before c (s ++ marked c rest) = s := by
  cases rest with
  | none =>
      rw [marked, Option.elim_none, List.append_nil]
      exact before_of_not_mem h
  | some t => exact before_append h

theorem afterLast_closed (h : c ∉ s) : afterLast c (closed c rest ++ s) = s := by
  cases rest with
  | none => exact afterLast_of_not_mem h
  | some t =>
      rw [closed, Option.elim_some, List.append_assoc, List.singleton_append]
      exact afterLast_append h

theorem exists_marked (c : Char) (s : List Char) :
    c ∉ before c s ∧ ∃ rest, s = before c s ++ marked c rest := by
  by_cases h : c ∈ s
  · obtain ⟨first, rest, rfl, hfirst⟩ := List.eq_append_cons_of_mem h
    rw [before_append hfirst]
    exact ⟨hfirst, some rest, rfl⟩
  · rw [before_of_not_mem h]
    exact ⟨h, none, (List.append_nil s).symm⟩

theorem exists_closed (c : Char) (s : List Char) :
    c ∉ afterLast c s ∧ ∃ front, s = closed c front ++ afterLast c s := by
  by_cases h : c ∈ s
  · obtain ⟨front, last, rfl, hlast⟩ := exists_last_cut h
    rw [afterLast_append hlast]
    refine ⟨hlast, some front, ?_⟩
    rw [closed, Option.elim_some, List.append_assoc, List.singleton_append]
  · rw [afterLast_of_not_mem h]
    exact ⟨h, none, rfl⟩

theorem not_mem_marked {x : Char} (hx : x ≠ c) (h : ∀ t ∈ rest, x ∉ t) : x ∉ marked c rest := by
  cases rest with
  | none => exact List.not_mem_nil
  | some t => exact fun hmem => (List.mem_cons.1 hmem).elim hx (h t rfl)

theorem not_mem_closed {x : Char} (hx : x ≠ c) (h : ∀ t ∈ rest, x ∉ t) : x ∉ closed c rest := by
  cases rest with
  | none => exact List.not_mem_nil
  | some t =>
      intro hmem
      exact (List.mem_append.1 hmem).elim (h t rfl) fun hc => hx (List.mem_singleton.1 hc)

theorem of_mem_marked {x : Char} (h : t ∈ rest) (hx : x ∈ t) : x ∈ marked c rest := by
  obtain rfl := h
  exact List.mem_cons_of_mem _ hx

theorem of_mem_closed {x : Char} (h : t ∈ rest) (hx : x ∈ t) : x ∈ closed c rest := by
  obtain rfl := h
  exact List.mem_append_left _ hx

end Text

namespace Naming

/-- A name, which may stand behind a path and in front of a tag and a digest. -/
structure ImageReference where
  path : Option (List Char)
  name : List Char
  tag : Option (List Char)
  digest : Option (List Char)
  path_undigested : ∀ p ∈ path, '@' ∉ p
  name_nonempty : name ≠ []
  name_whole : '/' ∉ name ∧ ':' ∉ name ∧ '@' ∉ name
  tag_whole : ∀ t ∈ tag, '/' ∉ t ∧ '@' ∉ t

namespace ImageReference

variable (r : ImageReference)

def text : List Char := closed '/' r.path ++ (r.name ++ marked ':' r.tag) ++ marked '@' r.digest

theorem at_not_mem : '@' ∉ closed '/' r.path ++ (r.name ++ marked ':' r.tag) := by
  have hpath : '@' ∉ closed '/' r.path := not_mem_closed (by decide) r.path_undigested
  have htag : '@' ∉ marked ':' r.tag := not_mem_marked (by decide) fun t ht => (r.tag_whole t ht).2
  simp [hpath, r.name_whole.2.2, htag]

theorem slash_not_mem : '/' ∉ r.name ++ marked ':' r.tag := by
  have htag : '/' ∉ marked ':' r.tag := not_mem_marked (by decide) fun t ht => (r.tag_whole t ht).1
  simp [r.name_whole.1, htag]

theorem cuts_text : before ':' (afterLast '/' (before '@' r.text)) = r.name := by
  rw [text, before_marked r.at_not_mem, afterLast_closed r.slash_not_mem,
    before_marked r.name_whole.2.1]

end ImageReference

theorem exists_reference {image : List Char}
    (h : before ':' (afterLast '/' (before '@' image)) ≠ []) : ∃ r : ImageReference, r.text = image := by
  obtain ⟨hat, digest, himage⟩ := exists_marked '@' image
  obtain ⟨hslash, path, hrepository⟩ := exists_closed '/' (before '@' image)
  obtain ⟨hcolon, tag, hname⟩ := exists_marked ':' (afterLast '/' (before '@' image))
  rw [hrepository, hname, List.mem_append, List.mem_append, not_or, not_or] at hat
  rw [hname, List.mem_append, not_or] at hslash
  refine ⟨⟨path, _, tag, digest, ?_, h, ⟨hslash.1, hcolon, hat.2.1⟩, ?_⟩, ?_⟩
  · exact fun p hp hmem => hat.1 (of_mem_closed hp hmem)
  · intro t ht
    exact ⟨fun hmem => hslash.2 (of_mem_marked ht hmem), fun hmem => hat.2.2 (of_mem_marked ht hmem)⟩
  · rw [ImageReference.text, ← hname, ← hrepository]
    exact himage.symm

theorem imageName_text (r : ImageReference) : imageName r.text = r.name := by
  obtain ⟨x, name, hname⟩ := List.exists_cons_of_ne_nil r.name_nonempty
  rw [imageName, r.cuts_text, hname]

theorem reference_or_own_name (image : List Char) :
    (∃ r : ImageReference, r.text = image) ∨ imageName image = image := by
  by_cases h : before ':' (afterLast '/' (before '@' image)) = []
  · right
    rw [imageName, h]
  · exact .inl (exists_reference h)

theorem imageName_eq_nil_iff {image : List Char} : imageName image = [] ↔ image = [] := by
  constructor
  · intro h
    obtain ⟨r, rfl⟩ | hown := reference_or_own_name image
    · rw [imageName_text] at h
      exact absurd h r.name_nonempty
    · rwa [hown] at h
  · rintro rfl
    rfl

/-- A reference gives its name, whatever its other parts hold, and a text that is none gives itself. So only
the empty text gives nothing. -/
theorem image_names_are_found :
    (∀ r : ImageReference, baseOfImage (String.ofList r.text) = String.ofList r.name) ∧
    (∀ image : String, (∃ r : ImageReference, r.text = image.toList) ∨ baseOfImage image = image) ∧
    ∀ image, baseOfImage image = "" ↔ image = "" := by
  refine ⟨fun r => ?_, fun image => ?_, fun image => ?_⟩
  · rw [baseOfImage, String.toList_ofList, imageName_text]
  · refine (reference_or_own_name image.toList).imp_right fun hown => ?_
    rw [baseOfImage, hown, String.ofList_toList]
  · rw [← String.toList_eq_nil_iff, baseOfImage, String.toList_ofList, imageName_eq_nil_iff,
      String.toList_eq_nil_iff]

example : baseOfImage "registry.local:5000/tools/prep:1:2@sha256:a/b@c" = "prep" := by decide

end Naming

end Dispatch
