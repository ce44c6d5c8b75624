import Mathlib.Data.List.Basic
import Mathlib.Data.List.Induction
import Dispatch.Proofs.Trees

namespace Dispatch.File

open Text

variable {root path name : Raw} {place names rest : Place}

theorem pathBelow_append (root : Raw) (p q : Place) :
    pathBelow root (p ++ q) = pathBelow (pathBelow root p) q :=
  List.foldl_append

theorem IsName.inner (h : IsName name) : Path.inner name = some (.name name) :=
  inner_name (by simp [h.nonempty, h.no_dot.1]) h.no_dot.2

namespace Path

theorem join_append (path name rest : Raw) : join path (name ++ rest) = join path name ++ rest := by
  unfold join
  split <;> simp

theorem join_of_rootless (hne : path ≠ []) (hlast : path.getLast? ≠ some slash) (name : Raw) :
    join path name = path ++ slash :: name := by
  rw [join, if_neg (by simp [hne, hlast])]

theorem join_cases (hne : path ≠ []) (name : Raw) :
    ∃ front, (path = front ∨ path = front ++ [slash]) ∧ join path name = front ++ slash :: name := by
  by_cases hlast : path.getLast? = some slash
  · obtain ⟨front, rfl⟩ := List.getLast?_eq_some_iff.1 hlast
    refine ⟨front, .inr rfl, ?_⟩
    rw [join, if_pos (by simp), List.append_assoc]
    rfl
  · exact ⟨path, .inl rfl, join_of_rootless hne hlast name⟩

theorem length_join_le (path name : Raw) : path.length + name.length ≤ (join path name).length := by
  unfold join
  split <;> simp

theorem getLast?_join (path : Raw) (h : IsName name) :
    join path name ≠ [] ∧ (join path name).getLast? ≠ some slash := by
  obtain ⟨init, b, rfl⟩ : ∃ init b, name = init ++ [b] := by
    obtain hnil | ⟨init, b, hname⟩ := List.eq_nil_or_concat name
    · exact absurd hnil h.nonempty
    · exact ⟨init, b, by rw [hname, List.concat_eq_append]⟩
  have hb : b ≠ slash := fun he => h.slashless (by simp [he])
  rw [join_append]
  simp [hb]

theorem foldl_join (hne : path ≠ []) (hlast : path.getLast? ≠ some slash)
    (hnames : ∀ name ∈ names, IsName name) : names.foldl join path = path ++ names.path := by
  induction names generalizing path with
  | nil => simp [Place.path]
  | cons name rest ih =>
      obtain ⟨hname, hrest⟩ := List.forall_mem_cons.1 hnames
      obtain ⟨hne', hlast'⟩ := getLast?_join path hname
      rw [List.foldl_cons, ih hne' hlast' hrest, join_of_rootless hne hlast]
      simp [Place.path]

end Path

theorem pathBelow_cons (path : Raw) (hnames : ∀ x ∈ name :: rest, IsName x) :
    pathBelow path (name :: rest) = Path.join path (name ++ Place.path rest) := by
  obtain ⟨hname, hrest⟩ := List.forall_mem_cons.1 hnames
  obtain ⟨hne, hlast⟩ := Path.getLast?_join path hname
  rw [pathBelow, List.foldl_cons, Path.foldl_join hne hlast hrest, Path.join_append]

theorem pathBelow_eq_join (root : Raw) (hne : names ≠ []) (hnames : ∀ name ∈ names, IsName name) :
    pathBelow root names = Path.join root (joined slash names) := by
  obtain ⟨name, rest, rfl⟩ := List.exists_cons_of_ne_nil hne
  rw [pathBelow_cons root hnames, joined_cons]
  rfl

namespace Path

theorem components_slash {s : Raw} (hne : s ≠ []) (t : Raw) :
    components (s ++ slash :: t) = components s ++ (pieces slash t).filterMap inner := by
  have hstart : start (s ++ slash :: t) = start s := by
    rw [start, start, List.head?_append_of_ne_nil _ hne, pieces_append,
      List.head?_append_of_ne_nil _ (pieces_ne_nil slash s)]
  rw [components, hstart, pieces_append, List.filterMap_append, ← List.append_assoc, components]

theorem components_name (h : IsName name) : components name = [.name name] := by
  have hhead : name.head? ≠ some slash := fun he => h.slashless (List.mem_of_head? he)
  rw [components, start, if_neg hhead, pieces_of_not_mem h.slashless, if_neg (by simp [h.no_dot.1])]
  simp [h.inner]

theorem components_join (path : Raw) (h : IsName name) :
    components (join path name) = components path ++ [.name name] := by
  have hname : (pieces slash name).filterMap inner = [.name name] := by
    rw [pieces_of_not_mem h.slashless]
    simp [h.inner]
  by_cases hne : path = []
  · subst hne
    exact components_name h
  · obtain ⟨front, rfl | rfl, hjoin⟩ := join_cases hne name
    · rw [hjoin, components_slash hne, hname]
    · rw [hjoin]
      by_cases hfront : front = []
      · subst hfront
        have hpieces : pieces slash (slash :: name) = [] :: pieces slash name := if_pos rfl
        have hroot : inner [] = none := rfl
        change components (slash :: name) = [.root] ++ [.name name]
        rw [components, start, if_pos List.head?_cons, hpieces, List.filterMap_cons_none hroot, hname]
      · have hend : (pieces slash []).filterMap inner = [] := rfl
        rw [components_slash hfront, components_slash hfront, hname, hend, List.append_nil]

theorem components_pathBelow (root : Raw) (hnames : ∀ name ∈ names, IsName name) :
    components (pathBelow root names) = components root ++ names.map .name := by
  induction names using List.reverseRecOn with
  | nil => exact (List.append_nil _).symm
  | append_singleton names name ih =>
      obtain ⟨hfront, hname⟩ := List.forall_mem_append.1 hnames
      rw [pathBelow_append, pathBelow, List.foldl_cons, List.foldl_nil,
        components_join _ (hname name List.mem_cons_self), ih hfront, List.map_append, List.append_assoc]
      rfl

/-- The part of a path behind a root it starts from is what was joined to the root. -/
theorem below?_pathBelow (root : Raw) (hnames : ∀ name ∈ names, IsName name) :
    below? root (pathBelow root names) = some (names.map .name) := by
  rw [below?, components_pathBelow root hnames, if_pos (List.isPrefixOf_iff_prefix.2 (List.prefix_append _ _)),
    List.drop_left]

end Path

theorem follow_append (tree : Node) (links : Nat) (place : Place) (todo : List Raw) :
    (∃ e, ∀ rest, System.follow tree links place (todo ++ rest) = .error e) ∨
      ∃ links' place', ∀ rest, System.follow tree links place (todo ++ rest) =
        System.follow tree links' place' rest := by
  -- a step is the same with more names behind it, and what fails does so before it comes to them
  fun_induction System.follow tree links place todo with
  | case1 links place => exact .inr ⟨links, place, fun rest => rfl⟩
  | case2 links place name todo hplace hname ih =>
      have hstep (rest : List Raw) : System.follow tree links place (name :: todo ++ rest) =
          System.follow tree links place (todo ++ rest) := by
        rw [List.cons_append, System.follow, if_pos hplace, if_pos hname]
      simpa only [hstep] using ih
  | case3 links place todo hplace hname ih =>
      have hstep (rest : List Raw) : System.follow tree links place ([dot, dot] :: todo ++ rest) =
          System.follow tree links place.dropLast (todo ++ rest) := by
        rw [List.cons_append, System.follow, if_pos hplace, if_neg hname, if_pos rfl]
      simpa only [hstep] using ih
  | case4 links place name todo hplace hname hparent hsize =>
      refine .inl ⟨.nameTooLong, fun rest => ?_⟩
      rw [List.cons_append, System.follow, if_pos hplace, if_neg hname, if_neg hparent, if_pos hsize]
  | case5 links place name todo hplace hname hparent hsize hchild =>
      refine .inl ⟨.notFound, fun rest => ?_⟩
      rw [List.cons_append, System.follow, if_pos hplace, if_neg hname, if_neg hparent, if_neg hsize, hchild]
  | case6 place name todo hplace hname hparent hsize target hchild =>
      refine .inl ⟨.tooManyLinks, fun rest => ?_⟩
      rw [List.cons_append, System.follow, if_pos hplace, if_neg hname, if_neg hparent, if_neg hsize, hchild]
  | case7 place name todo hplace hname hparent hsize target hchild links ih =>
      have hstep (rest : List Raw) : System.follow tree (links + 1) place (name :: todo ++ rest) =
          System.follow tree links (System.start target place) (System.names target ++ todo ++ rest) := by
        rw [List.cons_append, System.follow, if_pos hplace, if_neg hname, if_neg hparent, if_neg hsize, hchild,
          List.append_assoc]
      simpa only [hstep] using ih
  | case8 links place name todo hplace hname hparent hsize n hlink hchild ih =>
      have hstep (rest : List Raw) : System.follow tree links place (name :: todo ++ rest) =
          System.follow tree links (place ++ [name]) (todo ++ rest) := by
        rw [List.cons_append, System.follow, if_pos hplace, if_neg hname, if_neg hparent, if_neg hsize, hchild]
        cases n with
        | link target => exact absurd rfl (hlink target)
        | file content => rfl
        | directory entries => rfl
      simpa only [hstep] using ih
  | case9 links place name todo hplace =>
      refine .inl ⟨.notDirectory, fun rest => ?_⟩
      rw [List.cons_append, System.follow, if_neg hplace]

/-- A path that is not too long to be followed. -/
def IsShort (path : Raw) : Prop := path.length < System.maxPath

instance (path : Raw) : Decidable (IsShort path) := inferInstanceAs (Decidable (_ < _))

/-- A path that names a place, were it not for the length of the path. -/
structure Spells (fs : System) (path : Raw) (place : Place) : Prop where
  no_nul : 0 ∉ path
  nonempty : path ≠ []
  leads : System.follow fs.root System.maxLinks (System.start path fs.workingDirectory)
    (System.names path) = .ok place

variable {fs : System}

theorem spells_of_resolve (h : fs.resolve path = .ok place) :
    Spells fs path place ∧ IsShort path := by
  have hleads := resolve_ok h
  unfold System.resolve at h
  split_ifs at h with hnul hempty hlong
  exact ⟨⟨by simpa using hnul, hempty, hleads⟩, Nat.lt_of_not_le hlong⟩

theorem Spells.resolve (h : Spells fs path place) : fs.resolve path =
    if IsShort path then .ok place else .error .nameTooLong := by
  rw [System.resolve, if_neg (by simp [h.no_nul]), if_neg h.nonempty, h.leads]
  by_cases hshort : IsShort path
  · rw [if_neg (Nat.not_le.2 hshort), if_pos hshort]
  · rw [if_pos (Nat.le_of_not_lt hshort), if_neg hshort]

/-- The names of a path below another one are those of that one and then the names on the way; a slash at the
end of the path is no name of its own. -/
theorem names_pathBelow (hne : path ≠ []) (hnames : ∀ x ∈ name :: rest, IsName x) :
    ∃ way, (System.names path = way ∨ System.names path = way ++ [[]]) ∧
      System.names (pathBelow path (name :: rest)) = way ++ name :: rest := by
  obtain ⟨front, hpath, hjoin⟩ := Path.join_cases hne (name ++ Place.path rest)
  obtain ⟨hname, hrest⟩ := List.forall_mem_cons.1 hnames
  refine ⟨pieces slash front, ?_, ?_⟩
  · rcases hpath with rfl | rfl
    · exact .inl rfl
    · exact .inr (pieces_append slash front [])
  · rw [System.names, pathBelow_cons path hnames, hjoin, pieces_append]
    exact congrArg _ (pieces_flatMap hname.slashless fun x hx => (hrest x hx).slashless)

theorem start_pathBelow (hne : path ≠ []) (hnames : ∀ x ∈ name :: rest, IsName x) (place : Place) :
    System.start (pathBelow path (name :: rest)) place = System.start path place := by
  have hhead : (pathBelow path (name :: rest)).head? = path.head? := by
    rw [pathBelow_cons path hnames, Path.join]
    split <;> exact List.head?_append_of_ne_nil _ hne
  rw [System.start, hhead, System.start]

theorem no_nul_pathBelow (hpath : 0 ∉ path) (hnames : ∀ x ∈ name :: rest, IsName x) :
    0 ∉ pathBelow path (name :: rest) := by
  obtain ⟨hname, hrest⟩ := List.forall_mem_cons.1 hnames
  rw [pathBelow_cons path hnames, Path.join]
  split <;> simp only [List.mem_append, List.mem_cons, not_or]
  · exact ⟨hpath, hname.no_nul, no_nul_path hrest⟩
  · exact ⟨hpath, by decide, hname.no_nul, no_nul_path hrest⟩

theorem pathBelow_ne_nil (path : Raw) (hnames : ∀ x ∈ name :: rest, IsName x) :
    pathBelow path (name :: rest) ≠ [] := by
  have hname := hnames name List.mem_cons_self
  rw [pathBelow_cons path hnames, Path.join_append]
  exact List.append_ne_nil_of_left_ne_nil (Path.getLast?_join path hname).1 _

theorem Spells.below {n : Node} (h : Spells fs path place) (hnames : ∀ x ∈ names, IsName x)
    (hn : fs.root.at? (place ++ names) = some n) (hlink : ∀ target, n ≠ .link target) :
    Spells fs (pathBelow path names) (place ++ names) := by
  cases names with
  | nil => rwa [List.append_nil]
  | cons name rest =>
      refine ⟨no_nul_pathBelow h.no_nul hnames, pathBelow_ne_nil path hnames, ?_⟩
      · obtain ⟨way, hway, hbelow⟩ := names_pathBelow h.nonempty hnames
        have hleads := h.leads
        rw [start_pathBelow h.nonempty hnames, hbelow]
        rcases follow_append fs.root System.maxLinks (System.start path fs.workingDirectory) way with
          ⟨e, he⟩ | ⟨links, place', hfollow⟩
        · rcases hway with hway | hway
          · rw [hway, ← List.append_nil way, he] at hleads
            cases hleads
          · rw [hway, he] at hleads
            cases hleads
        · have hplace : place' = place := by
            rcases hway with hway | hway
            · rw [hway, ← List.append_nil way, hfollow, System.follow_nil] at hleads
              exact Except.ok.inj hleads
            · rw [hway, hfollow, System.follow] at hleads
              split at hleads
              · rw [if_pos (by decide), System.follow_nil] at hleads
                exact Except.ok.inj hleads
              · cases hleads
          rw [hfollow, hplace]
          exact follow_place hnames hn hlink

theorem Spells.entries {entries : List (Raw × Node)} (h : Spells fs path place)
    (hn : fs.root.at? place = some (.directory entries)) :
    fs.entries path = if IsShort path then .ok entries else .error .nameTooLong := by
  rw [System.entries, System.lookup, h.resolve]
  by_cases hshort : IsShort path
  · rw [if_pos hshort, if_pos hshort]
    simp only [bind, Except.bind, hn]
  · rw [if_neg hshort, if_neg hshort]
    rfl

end Dispatch.File
