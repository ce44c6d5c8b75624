import Dispatch.File.Listing
import Dispatch.Proofs.ObjectAddress
import Dispatch.Proofs.TextOfBytes

namespace Dispatch.File

open Text

theorem shown_encode (s : String) : shown s = s := by
  rw [shown, Utf8.decodeLossy_encode, String.ofList_toList]

namespace Node

theorem at?_append (n : Node) (p q : Place) : n.at? (p ++ q) = (n.at? p).bind (·.at? q) := by
  induction p generalizing n with
  | nil => rfl
  | cons name p ih =>
      simp only [List.cons_append, at?]
      cases n.child? name with
      | none => rfl
      | some m => exact ih m

theorem isDirectory_of_child? {n m : Node} {name : Raw} (h : n.child? name = some m) :
    n.isDirectory = true := by
  cases n with
  | directory entries => rfl
  | file content => cases h
  | link target => cases h

def HasDirectory (root : Node) (place : Place) : Prop :=
  ((root.at? place).map Node.isDirectory).getD false = true

theorem hasDirectory_of_at? {root n : Node} {place : Place} (h : root.at? place = some n) :
    root.HasDirectory place ↔ n.isDirectory = true := by
  rw [HasDirectory, h]
  rfl

theorem HasDirectory.dropLast {root : Node} {place : Place} (h : root.HasDirectory place) :
    root.HasDirectory place.dropLast := by
  rcases List.eq_nil_or_concat place with rfl | ⟨init, name, rfl⟩
  · exact h
  · rw [List.concat_eq_append] at h ⊢
    rw [List.dropLast_concat]
    rw [HasDirectory, at?_append] at h
    cases hinit : root.at? init with
    | none => simp [hinit] at h
    | some n =>
        rw [hasDirectory_of_at? hinit]
        cases hchild : n.child? name with
        | none => simp [hinit, at?, hchild] at h
        | some m => exact isDirectory_of_child? hchild

end Node

def lastStep (todo : List Raw) : Option Component :=
  (todo.filterMap Path.inner).getLast?

theorem lastStep_append (before todo : List Raw) :
    lastStep (before ++ todo) = (lastStep todo).or (lastStep before) := by
  rw [lastStep, List.filterMap_append, List.getLast?_append]
  rfl

theorem lastStep_singleton (name : Raw) : lastStep [name] = Path.inner name := by
  rw [lastStep, List.filterMap_cons]
  cases Path.inner name <;> rfl

theorem lastStep_cons (name : Raw) (rest : List Raw) :
    lastStep (name :: rest) = (lastStep rest).or (Path.inner name) := by
  rw [← lastStep_singleton, ← lastStep_append]
  rfl

def EndsInDirectory (todo : List Raw) : Prop := todo ≠ [] ∧ ∀ s, lastStep todo ≠ some (.name s)

theorem EndsInDirectory.rest {name : Raw} {rest : List Raw} (h : EndsInDirectory (name :: rest))
    (hrest : rest ≠ []) : EndsInDirectory rest := by
  refine ⟨hrest, fun s hs => h.2 s ?_⟩
  rw [lastStep_cons, hs]
  rfl

theorem Path.inner_eq_none_iff {p : Raw} : inner p = none ↔ p = [] ∨ p = [dot] := by
  rw [inner]
  by_cases hp : p = [] ∨ p = [dot]
  · simp [hp]
  · rw [if_neg (by simpa using hp), iff_false_right hp]
    split <;> simp

theorem Path.inner_eq_name_iff {p name : Raw} : inner p = some (.name name) ↔
    p = name ∧ ¬ (p = [] ∨ p = [dot]) ∧ p ≠ [dot, dot] := by
  rw [inner]
  by_cases hp : p = [] ∨ p = [dot]
  · simp [hp]
  · rw [if_neg (by simpa using hp)]
    by_cases hparent : p = [dot, dot] <;> simp [hp, hparent]

theorem inner_name {name : Raw} (h : ¬(decide (name = []) || decide (name = [dot])) = true)
    (hparent : name ≠ [dot, dot]) : Path.inner name = some (.name name) :=
  Path.inner_eq_name_iff.2 ⟨rfl, by simpa using h, hparent⟩

/-- A way that goes on after a name that is no directory's own goes on to a parent. -/
theorem EndsInDirectory.after_name {name : Raw} {rest : List Raw}
    (h : EndsInDirectory (name :: rest)) (hname : Path.inner name = some (.name name))
    (before : List Raw) : EndsInDirectory (before ++ rest) := by
  have hlast := h.2 name
  rw [lastStep_cons, hname] at hlast
  cases hrest : lastStep rest with
  | none =>
      rw [hrest] at hlast
      exact absurd rfl hlast
  | some c =>
      constructor
      · intro hnil
        rw [(List.append_eq_nil_iff.1 hnil).2] at hrest
        cases hrest
      · intro s hs
        rw [lastStep_append, hrest] at hs
        apply h.2 s
        rw [lastStep_cons, hrest]
        exact hs

theorem follow_hasDirectory {root : Node} {links : Nat} {place place' : Place} {todo : List Raw}
    (h : System.follow root links place todo = .ok place') (hend : EndsInDirectory todo) :
    root.HasDirectory place' := by
  fun_induction System.follow root links place todo with
  | case1 => exact absurd rfl hend.1
  | case2 links place name rest hplace hname ih =>
      by_cases hrest : rest = []
      · rw [hrest, System.follow_nil] at h
        cases h
        exact hplace
      · exact ih h (hend.rest hrest)
  | case3 links place rest hplace hname ih =>
      by_cases hrest : rest = []
      · rw [hrest, System.follow_nil] at h
        cases h
        exact Node.HasDirectory.dropLast hplace
      · exact ih h (hend.rest hrest)
  -- a plain name is not the last step: the way goes on, behind the names of a link or on its own
  | case7 place name rest hplace hname hparent hsize target hchild links ih =>
      exact ih h (hend.after_name (inner_name hname hparent) _)
  | case8 links place name rest hplace hname hparent hsize n hlink hchild ih =>
      exact ih h (hend.after_name (inner_name hname hparent) [])
  | case4 | case5 | case6 | case9 => cases h

/-- The root, and a dot in front, are no names, so the pieces of a path decide which name is its last. -/
theorem Path.fileName?_eq_some_iff_last {path name : Raw} : fileName? path = some name ↔
    lastStep (pieces slash path) = some (.name name) := by
  have hstart : ∀ c ∈ start path, c ≠ .name name := by
    unfold start
    split
    · simp
    · split <;> simp
  have hlast : (components path).getLast? = some (.name name) ↔
      lastStep (pieces slash path) = some (.name name) := by
    rw [components, List.getLast?_append, lastStep]
    cases ((pieces slash path).filterMap inner).getLast? with
    | some c => simp
    | none =>
        simp only [Option.none_or, reduceCtorEq, iff_false]
        exact fun h => hstart _ (List.mem_of_getLast? h) rfl
  rw [← hlast, fileName?]
  split
  · next s hs => simp [hs]
  · next hs => exact iff_of_false (by simp) (hs name)

theorem lookup_ok {fs : System} {path : Raw} {n : Node} (h : fs.lookup path = .ok n) :
    ∃ place, fs.resolve path = .ok place ∧ fs.root.at? place = some n := by
  rw [System.lookup] at h
  cases hr : fs.resolve path with
  | error e =>
      rw [hr] at h
      cases h
  | ok place =>
      rw [hr] at h
      simp only [bind, Except.bind] at h
      cases hat : fs.root.at? place with
      | none =>
          rw [hat] at h
          cases h
      | some m =>
          rw [hat] at h
          cases h
          exact ⟨place, rfl, hat⟩

theorem resolve_ok {fs : System} {path : Raw} {place : Place} (h : fs.resolve path = .ok place) :
    System.follow fs.root System.maxLinks (System.start path fs.workingDirectory) (System.names path) =
      .ok place := by
  rw [System.resolve] at h
  split at h
  · cases h
  · split at h
    · cases h
    · split at h
      · cases h
      · exact h

theorem fileName?_of_lookup {fs : System} {path : Raw} {n : Node} (h : fs.lookup path = .ok n)
    (hn : n.isDirectory = false) : ∃ name, Path.fileName? path = some name := by
  cases hname : Path.fileName? path with
  | some name => exact ⟨name, rfl⟩
  | none =>
      have hend : EndsInDirectory (System.names path) := by
        constructor
        · exact pieces_ne_nil slash path
        · intro s hlast
          rw [Path.fileName?_eq_some_iff_last.2 hlast] at hname
          cases hname
      obtain ⟨place, hplace, hat⟩ := lookup_ok h
      have hdirectory := follow_hasDirectory (resolve_ok hplace) hend
      rw [Node.hasDirectory_of_at? hat, hn] at hdirectory
      cases hdirectory

/-- What an entry of a directory can be called. -/
structure IsName (name : Raw) : Prop where
  nonempty : name ≠ []
  slashless : slash ∉ name
  no_dot : name ≠ [dot] ∧ name ≠ [dot, dot]
  no_nul : 0 ∉ name
  short : name.length ≤ System.maxName

instance (name : Raw) : Decidable (IsName name) :=
  decidable_of_iff (name ≠ [] ∧ slash ∉ name ∧ (name ≠ [dot] ∧ name ≠ [dot, dot]) ∧ 0 ∉ name ∧
      name.length ≤ System.maxName)
    ⟨fun ⟨hne, hslash, hdot, hnul, hshort⟩ => ⟨hne, hslash, hdot, hnul, hshort⟩,
      fun h => ⟨h.nonempty, h.slashless, h.no_dot, h.no_nul, h.short⟩⟩

namespace Node

mutual

/-- The entries of every directory have names, each a name of its own. -/
def IsWellFormed : Node → Prop
  | .file _ | .link _ => True
  | .directory entries => (entries.map (·.1)).Nodup ∧ AreWellFormed entries

def AreWellFormed : List (Raw × Node) → Prop
  | [] => True
  | (name, n) :: rest => IsName name ∧ IsWellFormed n ∧ AreWellFormed rest

end

mutual

def decideWellFormed : (n : Node) → Decidable n.IsWellFormed
  | .file _ | .link _ => .isTrue trivial
  | .directory entries =>
      have := decideAll entries
      inferInstanceAs (Decidable (_ ∧ _))

def decideAll : (entries : List (Raw × Node)) → Decidable (AreWellFormed entries)
  | [] => .isTrue trivial
  | (_, n) :: rest =>
      have := decideWellFormed n
      have := decideAll rest
      inferInstanceAs (Decidable (_ ∧ _ ∧ _))

end

instance (n : Node) : Decidable n.IsWellFormed := decideWellFormed n

theorem AreWellFormed.of_lookup {entries : List (Raw × Node)} {name : Raw} {n : Node}
    (h : AreWellFormed entries) (hn : entries.lookup name = some n) : n.IsWellFormed := by
  induction entries with
  | nil => cases hn
  | cons e rest ih =>
      obtain ⟨key, m⟩ := e
      obtain ⟨-, hm, hrest⟩ := h
      by_cases hkey : name = key
      · rw [hkey, List.lookup_cons_self] at hn
        cases hn
        exact hm
      · rw [List.lookup_cons, beq_false_of_ne hkey] at hn
        exact ih hrest hn

theorem IsWellFormed.at? {root n : Node} {place : Place} (h : root.IsWellFormed)
    (hn : root.at? place = some n) : n.IsWellFormed := by
  induction place generalizing root with
  | nil =>
      cases hn
      exact h
  | cons name place ih =>
      cases root with
      | file content => cases hn
      | link target => cases hn
      | directory entries =>
          obtain ⟨m, hm, hplace⟩ := Option.bind_eq_some_iff.1 hn
          exact ih (h.2.of_lookup hm) hplace

mutual

theorem leaves_names : ∀ {n : Node}, n.IsWellFormed → ∀ p ∈ n.leaves,
    (n.isDirectory = true → p.1 ≠ []) ∧ ∀ name ∈ p.1, IsName name
  | .file _, _, p, hp => by
      obtain rfl := List.mem_singleton.1 hp
      exact ⟨fun hd => absurd hd Bool.false_ne_true, by simp⟩
  | .link _, _, p, hp => by
      obtain rfl := List.mem_singleton.1 hp
      exact ⟨fun hd => absurd hd Bool.false_ne_true, by simp⟩
  | .directory _, h, p, hp => (leavesOf_names h.2 p hp).imp (fun hne _ => hne) id

theorem leavesOf_names : ∀ {entries : List (Raw × Node)}, AreWellFormed entries →
    ∀ p ∈ leavesOf entries, p.1 ≠ [] ∧ ∀ name ∈ p.1, IsName name
  | [], _, _, hp => absurd hp List.not_mem_nil
  | (name, n) :: rest, h, p, hp => by
      obtain ⟨hname, hn, hrest⟩ := h
      rcases List.mem_append.1 hp with hp | hp
      · obtain ⟨q, hq, rfl⟩ := List.mem_map.1 hp
        exact ⟨List.cons_ne_nil _ _, List.forall_mem_cons.2 ⟨hname, (leaves_names hn q hq).2⟩⟩
      · exact leavesOf_names hrest p hp

end

theorem leavesOf_head {entries : List (Raw × Node)} {p : Place × Node} (h : p ∈ leavesOf entries) :
    ∃ name ∈ entries.map (·.1), p.1.head? = some name := by
  induction entries with
  | nil => cases h
  | cons e rest ih =>
      rcases List.mem_append.1 h with hp | hp
      · obtain ⟨q, -, rfl⟩ := List.mem_map.1 hp
        exact ⟨e.1, List.mem_cons_self, rfl⟩
      · obtain ⟨name, hname, hhead⟩ := ih hp
        exact ⟨name, List.mem_cons_of_mem _ hname, hhead⟩

mutual

theorem leaves_nodup : ∀ {n : Node}, n.IsWellFormed → (n.leaves.map (·.1)).Nodup
  | .file _, _ => List.pairwise_singleton _ _
  | .link _, _ => List.pairwise_singleton _ _
  | .directory _, h => leavesOf_nodup h.1 h.2

theorem leavesOf_nodup : ∀ {entries : List (Raw × Node)}, (entries.map (·.1)).Nodup →
    AreWellFormed entries → ((leavesOf entries).map (·.1)).Nodup
  | [], _, _ => List.nodup_nil
  | (name, n) :: rest, hnames, h => by
      obtain ⟨hname, hnodup⟩ := List.nodup_cons.1 hnames
      obtain ⟨-, hn, hrest⟩ := h
      rw [leavesOf, List.map_append, List.nodup_append]
      refine ⟨?_, leavesOf_nodup hnodup hrest, ?_⟩
      · have hbelow : (n.leaves.map fun p => (name :: p.1, p.2)).map (·.1) =
            (n.leaves.map (·.1)).map (name :: ·) := by
          simp [Function.comp_def]
        rw [hbelow]
        exact List.Pairwise.map (name :: ·) (fun _ _ hne he => hne (List.cons.inj he).2) (leaves_nodup hn)
      · -- a place below the first entry starts with its name, which no other entry has
        rintro place hfirst place' hrest' rfl
        obtain ⟨p, hp, rfl⟩ := List.mem_map.1 hfirst
        obtain ⟨q, -, rfl⟩ := List.mem_map.1 hp
        obtain ⟨r, hr, hplace⟩ := List.mem_map.1 hrest'
        obtain ⟨key, hkey, hhead⟩ := leavesOf_head hr
        rw [hplace] at hhead
        cases hhead
        exact hname hkey

end

end Node

def Place.path (place : Place) : Raw := place.flatMap (slash :: ·)

theorem no_nul_path {names : Place} (h : ∀ name ∈ names, IsName name) : 0 ∉ names.path := by
  intro hmem
  obtain ⟨name, hname, hzero⟩ := List.mem_flatMap.1 hmem
  rcases List.mem_cons.1 hzero with hslash | hzero
  · exact absurd hslash (by decide)
  · exact (h name hname).no_nul hzero

theorem follow_place {root n : Node} {links : Nat} {place names : Place}
    (hnames : ∀ name ∈ names, IsName name) (hn : root.at? (place ++ names) = some n)
    (hlink : ∀ target, n ≠ .link target) :
    System.follow root links place names = .ok (place ++ names) := by
  induction names generalizing place with
  | nil => rw [System.follow_nil, List.append_nil]
  | cons name rest ih =>
      obtain ⟨hname, hrest⟩ := List.forall_mem_cons.1 hnames
      rw [List.append_cons] at hn ⊢
      obtain ⟨m, hm, hbelow⟩ := Option.bind_eq_some_iff.1 (Node.at?_append root (place ++ [name]) rest ▸ hn)
      obtain ⟨p, hp, hchild⟩ := Option.bind_eq_some_iff.1 (Node.at?_append root place [name] ▸ hm)
      obtain ⟨c, hc, hcm⟩ := Option.bind_eq_some_iff.1 hchild
      cases hcm
      have hdirectory : root.HasDirectory place :=
        (Node.hasDirectory_of_at? hp).2 (Node.isDirectory_of_child? hc)
      have hstep : (root.at? place).bind (·.child? name) = some m := by rw [hp]; exact hc
      have hnot : ∀ target, m ≠ .link target := by
        rintro target rfl
        cases rest with
        | nil =>
            cases hbelow
            exact hlink target rfl
        | cons next rest => cases hbelow
      rw [System.follow_child hdirectory ⟨hname.nonempty, hname.no_dot⟩ hname.short hstep hnot]
      exact ih hrest hn

theorem lookup_path {fs : System} {place : Place} {n : Node} (hne : place ≠ [])
    (hnames : ∀ name ∈ place, IsName name) (hshort : place.path.length < System.maxPath)
    (hn : fs.root.at? place = some n) (hlink : ∀ target, n ≠ .link target) :
    fs.lookup place.path = .ok n := by
  have hway : System.names place.path = [] :: place :=
    pieces_flatMap List.not_mem_nil fun name hname => (hnames name hname).slashless
  obtain ⟨name, rest, rfl⟩ := List.exists_cons_of_ne_nil hne
  have hhead : (Place.path (name :: rest)).head? = some slash := rfl
  have hempty : Place.path (name :: rest) ≠ [] := List.cons_ne_nil _ _
  have hnul : (Place.path (name :: rest)).contains 0 = false := by
    rw [List.contains_eq_mem, decide_eq_false_iff_not]
    exact no_nul_path hnames
  have hroot : ((fs.root.at? []).map Node.isDirectory).getD false = true := by
    obtain ⟨m, hm, -⟩ := Option.bind_eq_some_iff.1 hn
    exact Node.isDirectory_of_child? hm
  have hresolve : fs.resolve (Place.path (name :: rest)) = .ok (name :: rest) := by
    rw [System.resolve, if_neg (by rw [hnul]; decide), if_neg hempty, if_neg (Nat.not_le.2 hshort), hway,
      System.start, if_pos hhead, System.follow, if_pos hroot, if_pos (by decide)]
    exact follow_place hnames hn hlink
  rw [System.lookup, hresolve]
  simp only [bind, Except.bind, hn]

theorem read_path {fs : System} {place : Place} {content : List UInt8} (hne : place ≠ [])
    (hnames : ∀ name ∈ place, IsName name) (hshort : place.path.length < System.maxPath)
    (hn : fs.root.at? place = some (.file content)) : fs.read place.path = .ok content := by
  rw [System.read, lookup_path hne hnames hshort hn fun _ => nofun]
  rfl

theorem listTree_of_pairwise (root : Raw) {n : Node}
    (h : (n.leaves.map (·.1)).Pairwise fun p q => Place.isAtMost p q = true) :
    listTree root n = (n.leaves.map (·.1)).map fun names => ⟨names, pathBelow root names⟩ := by
  rw [listTree, List.mergeSort_of_pairwise h]

theorem listTree_names (root : Raw) {n : Node} (h : n.IsWellFormed) :
    ((listTree root n).map (·.names)).Nodup ∧
      ∀ f ∈ listTree root n, (n.isDirectory = true → f.names ≠ []) ∧ ∀ name ∈ f.names, IsName name := by
  have hnames : (listTree root n).map (·.names) = (n.leaves.map (·.1)).mergeSort Place.isAtMost := by
    simp [listTree, Function.comp_def]
  refine ⟨?_, fun f hf => ?_⟩
  · rw [hnames, (List.mergeSort_perm _ _).nodup_iff]
    exact n.leaves_nodup h
  · have hmem : f.names ∈ (n.leaves.map (·.1)).mergeSort Place.isAtMost := by
      rw [← hnames]
      exact List.mem_map_of_mem hf
    rw [List.mem_mergeSort] at hmem
    obtain ⟨p, hp, hplace⟩ := List.mem_map.1 hmem
    rw [← hplace]
    exact n.leaves_names h p hp

end Dispatch.File
