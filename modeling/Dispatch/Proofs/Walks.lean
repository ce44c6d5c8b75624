import Mathlib.Data.List.Sort
import Dispatch.Proofs.Descent

namespace Dispatch.File

open Text

namespace Node

theorem leavesOf_eq (entries : List (Raw × Node)) :
    leavesOf entries = entries.flatMap fun e => e.2.leaves.map fun p => (e.1 :: p.1, p.2) := by
  induction entries with
  | nil => rfl
  | cons e rest ih => rw [leavesOf, ih, List.flatMap_cons]

theorem directoriesOf_eq (entries : List (Raw × Node)) :
    directoriesOf entries = entries.flatMap fun e => e.2.directories.map (e.1 :: ·) := by
  induction entries with
  | nil => rfl
  | cons e rest ih => rw [directoriesOf, ih, List.flatMap_cons]

theorem AreWellFormed.of_mem {entries : List (Raw × Node)} {e : Raw × Node}
    (h : AreWellFormed entries) (he : e ∈ entries) : IsName e.1 ∧ e.2.IsWellFormed := by
  induction entries with
  | nil => cases he
  | cons e' rest ih =>
      obtain ⟨hname, hn, hrest⟩ := h
      rcases List.mem_cons.1 he with rfl | he
      · exact ⟨hname, hn⟩
      · exact ih hrest he

theorem lookup_eq_some_iff_mem {entries : List (Raw × Node)} (h : (entries.map (·.1)).Nodup)
    {name : Raw} {n : Node} : entries.lookup name = some n ↔ (name, n) ∈ entries := by
  induction entries with
  | nil => simp
  | cons e rest ih =>
      obtain ⟨key, m⟩ := e
      obtain ⟨hkey, hrest⟩ := List.nodup_cons.1 h
      by_cases he : name = key
      · subst he
        have hmem : (name, n) ∉ rest := fun hmem => hkey (List.mem_map.2 ⟨_, hmem, rfl⟩)
        simp [hmem, eq_comm]
      · rw [List.lookup_cons, beq_false_of_ne he, ih hrest]
        simp [he]

theorem at?_directory_cons {entries : List (Raw × Node)} (h : (entries.map (·.1)).Nodup) {m : Node}
    {name : Raw} {rest : Place} : (directory entries).at? (name :: rest) = some m ↔
      ∃ e ∈ entries, e.1 = name ∧ e.2.at? rest = some m := by
  refine Option.bind_eq_some_iff.trans ⟨?_, ?_⟩
  · rintro ⟨n, hn, hm⟩
    exact ⟨_, (lookup_eq_some_iff_mem h).1 hn, rfl, hm⟩
  · rintro ⟨e, he, rfl, hm⟩
    exact ⟨e.2, (lookup_eq_some_iff_mem h).2 he, hm⟩

theorem IsWellFormed.isName {root n : Node} {place : Place} (h : root.IsWellFormed)
    (hn : root.at? place = some n) : ∀ name ∈ place, IsName name := by
  induction place generalizing root with
  | nil => simp
  | cons name rest ih =>
      cases root with
      | file content => cases hn
      | link target => cases hn
      | directory entries =>
          obtain ⟨e, he, rfl, hrest⟩ := (at?_directory_cons h.1).1 hn
          obtain ⟨hname, hwf⟩ := h.2.of_mem he
          exact List.forall_mem_cons.2 ⟨hname, ih hwf hrest⟩

theorem eq_directory {n : Node} (h : n.isDirectory = true) : ∃ entries, n = .directory entries := by
  cases n with
  | directory entries => exact ⟨entries, rfl⟩
  | file content => cases h
  | link target => cases h

section Leaf

variable {n : Node} (h : n.isDirectory = false)

include h

theorem leaves_leaf : n.leaves = [([], n)] := by
  cases n with
  | directory entries => cases h
  | file content => rfl
  | link target => rfl

theorem directories_leaf : n.directories = [] := by
  cases n with
  | directory entries => cases h
  | file content => rfl
  | link target => rfl

theorem at?_leaf (name : Raw) (rest : Place) : n.at? (name :: rest) = none := by
  cases n with
  | directory entries => cases h
  | file content => rfl
  | link target => rfl

end Leaf

theorem IsWellFormed.mem_leaves_iff {n m : Node} {place : Place} (h : n.IsWellFormed) :
    (place, m) ∈ n.leaves ↔ n.at? place = some m ∧ m.isDirectory = false := by
  -- along the place: a node that is no directory is its own only leaf
  induction place generalizing n with
  | nil =>
      cases hn : n.isDirectory with
      | false =>
          rw [leaves_leaf hn]
          constructor
          · intro hm
            obtain rfl : m = n := (Prod.mk.inj (List.mem_singleton.1 hm)).2
            exact ⟨rfl, hn⟩
          · rintro ⟨⟨⟩, -⟩
            exact List.mem_singleton_self _
      | true =>
          obtain ⟨entries, rfl⟩ := eq_directory hn
          constructor
          · intro hm
            exact absurd rfl (leavesOf_names h.2 _ hm).1
          · rintro ⟨⟨⟩, hm⟩
            cases hm
  | cons name rest ih =>
      cases hn : n.isDirectory with
      | false =>
          rw [leaves_leaf hn, at?_leaf hn]
          simp
      | true =>
          obtain ⟨entries, rfl⟩ := eq_directory hn
          rw [at?_directory_cons h.1, leaves, leavesOf_eq]
          simp only [List.mem_flatMap, List.mem_map, Prod.mk.injEq, List.cons.injEq, Prod.exists]
          constructor
          · rintro ⟨key, c, he, q, m', hq, ⟨rfl, rfl⟩, rfl⟩
            obtain ⟨hat, hm⟩ := (ih (h.2.of_mem he).2).1 hq
            exact ⟨⟨key, c, he, rfl, hat⟩, hm⟩
          · rintro ⟨⟨key, c, he, rfl, hat⟩, hm⟩
            exact ⟨key, c, he, rest, m, (ih (h.2.of_mem he).2).2 ⟨hat, hm⟩, ⟨rfl, rfl⟩, rfl⟩

theorem hasDirectory_iff {root : Node} {place : Place} :
    root.HasDirectory place ↔ ∃ n, root.at? place = some n ∧ n.isDirectory = true := by
  rw [HasDirectory]
  cases root.at? place with
  | none => simp
  | some n => simp

theorem IsWellFormed.mem_directories_iff {n : Node} {place : Place} (h : n.IsWellFormed) :
    place ∈ n.directories ↔ n.HasDirectory place := by
  rw [hasDirectory_iff]
  induction place generalizing n with
  | nil =>
      cases hn : n.isDirectory with
      | false =>
          rw [directories_leaf hn]
          refine iff_of_false List.not_mem_nil ?_
          rintro ⟨m, ⟨⟩, hm⟩
          rw [hn] at hm
          cases hm
      | true =>
          obtain ⟨entries, rfl⟩ := eq_directory hn
          exact iff_of_true List.mem_cons_self ⟨_, rfl, hn⟩
  | cons name rest ih =>
      cases hn : n.isDirectory with
      | false => simp [directories_leaf hn, at?_leaf hn]
      | true =>
          obtain ⟨entries, rfl⟩ := eq_directory hn
          simp only [at?_directory_cons h.1, directories, directoriesOf_eq]
          simp only [List.mem_cons, reduceCtorEq, false_or, List.mem_flatMap, List.mem_map, List.cons.injEq]
          constructor
          · rintro ⟨e, he, q, hq, rfl, rfl⟩
            obtain ⟨m, hat, hm⟩ := (ih (h.2.of_mem he).2).1 hq
            exact ⟨m, ⟨e, he, rfl, hat⟩, hm⟩
          · rintro ⟨m, ⟨e, he, rfl, hat⟩, hm⟩
            exact ⟨e, he, rest, (ih (h.2.of_mem he).2).2 ⟨m, hat, hm⟩, rfl, rfl⟩

end Node

def listedAt (root : Raw) (place : Place) : Listed := ⟨place, pathBelow root place⟩

def leavesBelow (d : Place × Node) : List Place := d.2.leaves.map fun p => d.1 ++ p.1

def directoriesBelow (d : Place × Node) : List Place := d.2.directories.map (d.1 ++ ·)

/-- The directories among some entries, the last of them first. -/
def laterReads (place : Place) (entries : List (Raw × Node)) : List (Place × Node) :=
  ((entries.filter (·.2.isDirectory)).map fun e => (place ++ [e.1], e.2)).reverse

def filesAmong (place : Place) (entries : List (Raw × Node)) : List Place :=
  (entries.filter (!·.2.isDirectory)).map fun e => place ++ [e.1]

variable {root : Raw} {place : Place} {entries arranged : List (Raw × Node)}

theorem foldl_meet (hplace : ∀ name ∈ place, IsName name) (hentries : ∀ e ∈ entries, IsName e.1)
    (w : Walk) :
    entries.foldl (Walk.meet root (pathBelow root place)) w =
      ⟨(laterReads place entries).map (pathBelow root ·.1) ++ w.pending,
        w.files ++ (filesAmong place entries).map (listedAt root)⟩ := by
  induction entries generalizing w with
  | nil => simp [laterReads, filesAmong]
  | cons e rest ih =>
      obtain ⟨hname, hrest⟩ := List.forall_mem_cons.1 hentries
      have hnames : ∀ name ∈ place ++ [e.1], IsName name := by
        simpa [List.forall_mem_append, or_imp, forall_and] using ⟨hplace, hname⟩
      have hpath : Path.join (pathBelow root place) e.1 = pathBelow root (place ++ [e.1]) :=
        (pathBelow_append root place [e.1]).symm
      rw [List.foldl_cons, ih hrest, Walk.meet, hpath]
      cases he : e.2.isDirectory with
      | true => simp [laterReads, filesAmong, he]
      | false =>
          have hbelow := Path.below?_pathBelow root hnames
          simp [laterReads, filesAmong, he, hbelow, listedAt, Component.raw, Function.comp_def]

theorem leavesBelow_directory (place : Place) (entries : List (Raw × Node)) :
    leavesBelow (place, .directory entries) =
      entries.flatMap fun e => leavesBelow (place ++ [e.1], e.2) := by
  rw [leavesBelow, Node.leaves, Node.leavesOf_eq, List.map_flatMap]
  simp [leavesBelow, Function.comp_def]

theorem directoriesBelow_directory (place : Place) (entries : List (Raw × Node)) :
    directoriesBelow (place, .directory entries) =
      place :: entries.flatMap fun e => directoriesBelow (place ++ [e.1], e.2) := by
  rw [directoriesBelow, Node.directories, Node.directoriesOf_eq, List.map_cons, List.map_flatMap]
  simp [directoriesBelow, Function.comp_def]

theorem flatMap_entries_perm {α : Type} (place : Place) (h : arranged.Perm entries)
    (gather : Place × Node → List α) : (entries.flatMap fun e => gather (place ++ [e.1], e.2)).Perm
      ((arranged.filter (!·.2.isDirectory)).flatMap (fun e => gather (place ++ [e.1], e.2)) ++
        (laterReads place arranged).flatMap gather) := by
  have hparts := List.filter_append_perm (fun e : Raw × Node => e.2.isDirectory) arranged
  have hall := ((hparts.trans h).symm).flatMap_right fun e => gather (place ++ [e.1], e.2)
  have hlater : ((laterReads place arranged).flatMap gather).Perm
      ((arranged.filter (·.2.isDirectory)).flatMap fun e => gather (place ++ [e.1], e.2)) := by
    have hreverse := (List.reverse_perm ((arranged.filter (·.2.isDirectory)).map
      fun e => (place ++ [e.1], e.2))).flatMap_right gather
    rwa [List.flatMap_map] at hreverse
  rw [List.flatMap_append] at hall
  exact hall.trans (List.perm_append_comm.trans (hlater.symm.append_left _))

theorem leavesBelow_perm (place : Place) (h : arranged.Perm entries) :
    (leavesBelow (place, .directory entries)).Perm
      (filesAmong place arranged ++ (laterReads place arranged).flatMap leavesBelow) := by
  have hfiles : (arranged.filter (!·.2.isDirectory)).flatMap
      (fun e => leavesBelow (place ++ [e.1], e.2)) = filesAmong place arranged := by
    rw [filesAmong, List.map_eq_flatMap]
    refine List.flatMap_congr fun e he => ?_
    have hleaf : e.2.isDirectory = false := by simpa using (List.mem_filter.1 he).2
    simp [leavesBelow, Node.leaves_leaf hleaf]
  rw [leavesBelow_directory, ← hfiles]
  exact flatMap_entries_perm place h leavesBelow

theorem directoriesBelow_perm (place : Place) (h : arranged.Perm entries) :
    (directoriesBelow (place, .directory entries)).Perm
      (place :: (laterReads place arranged).flatMap directoriesBelow) := by
  have hnone : (arranged.filter (!·.2.isDirectory)).flatMap
      (fun e => directoriesBelow (place ++ [e.1], e.2)) = [] := by
    rw [List.flatMap_eq_nil_iff]
    intro e he
    have hleaf : e.2.isDirectory = false := by simpa using (List.mem_filter.1 he).2
    simp [directoriesBelow, Node.directories_leaf hleaf]
  have hperm := flatMap_entries_perm place h directoriesBelow
  rw [hnone, List.nil_append] at hperm
  rw [directoriesBelow_directory]
  exact hperm.cons place

/-- What a walk comes to from the directories that are still to be read: it reads them all and those below
them, each under its path, and finds every leaf; or the path of one of them is too long. -/
inductive Reads (root : Raw) (todo : List (Place × Node)) (files : List Listed) :
    Except ClientError Walk → Prop
  | all {found : List Place} (leaves : found.Perm (todo.flatMap leavesBelow))
      (short : ∀ p ∈ todo.flatMap directoriesBelow, IsShort (pathBelow root p)) :
      Reads root todo files (.ok ⟨[], files ++ found.map (listedAt root)⟩)
  | stopped {p : Place} (below : p ∈ todo.flatMap directoriesBelow) (long : ¬ IsShort (pathBelow root p)) :
      Reads root todo files (.error (.io (pathBelow root p) .nameTooLong))

theorem Reads.nil (root : Raw) (files : List Listed) : Reads root [] files (.ok ⟨[], files⟩) := by
  have hall : Reads root [] files (.ok ⟨[], files ++ [].map (listedAt root)⟩) := .all (.refl _) (by simp)
  rwa [List.map_nil, List.append_nil] at hall

/-- A directory that is read is traded for those in it. -/
theorem Reads.directory {todo : List (Place × Node)} {files : List Listed} {r : Except ClientError Walk}
    (h : arranged.Perm entries) (hshort : IsShort (pathBelow root place))
    (hr : Reads root (laterReads place arranged ++ todo)
      (files ++ (filesAmong place arranged).map (listedAt root)) r) :
    Reads root ((place, .directory entries) :: todo) files r := by
  have hleaves := (leavesBelow_perm place h).append_right (todo.flatMap leavesBelow)
  have hdirectories := (directoriesBelow_perm place h).append_right (todo.flatMap directoriesBelow)
  rw [List.append_assoc, ← List.flatMap_append] at hleaves
  rw [List.cons_append, ← List.flatMap_append] at hdirectories
  cases hr with
  | all leaves short =>
      rw [List.append_assoc, ← List.map_append]
      refine .all ((leaves.append_left _).trans hleaves.symm) fun p hp => ?_
      rcases List.mem_cons.1 (hdirectories.mem_iff.1 hp) with rfl | hp
      · exact hshort
      · exact short p hp
  | stopped below long => exact .stopped (hdirectories.mem_iff.2 (List.mem_cons_of_mem _ below)) long

theorem at?_laterReads {n : Node} (hwf : n.IsWellFormed) (hat : n.at? place = some (.directory entries))
    (h : arranged.Perm entries) :
    ∀ d ∈ laterReads place arranged, n.at? d.1 = some d.2 ∧ d.2.isDirectory = true := by
  intro d hd
  obtain ⟨e, he, rfl⟩ := List.mem_map.1 (List.mem_reverse.1 hd)
  obtain ⟨he, hdirectory⟩ := List.mem_filter.1 he
  refine ⟨?_, hdirectory⟩
  rw [Node.at?_append, hat]
  exact (Node.at?_directory_cons (hwf.at? hat).1).2 ⟨e, h.mem_iff.1 he, rfl, rfl⟩

section Run

variable {fs : System} {n : Node} (order : Order)

theorem walk_nil (fs : System) (root : Raw) (rounds : Nat) (files : List Listed) :
    walk order fs root rounds ⟨[], files⟩ = .ok ⟨[], files⟩ := by
  cases rounds <;> rfl

theorem walk_directory (hplace : ∀ name ∈ place, IsName name) (hentries : ∀ e ∈ entries, IsName e.1)
    (hread : fs.entries (pathBelow root place) = .ok entries) (rounds : Nat) (todo : List (Place × Node))
    (files : List Listed) :
    let arranged := order.arrange (pathBelow root place) entries
    walk order fs root (rounds + 1)
        ⟨((place, .directory entries) :: todo).map (pathBelow root ·.1), files⟩ =
      walk order fs root rounds
        ⟨(laterReads place arranged ++ todo).map (pathBelow root ·.1),
          files ++ (filesAmong place arranged).map (listedAt root)⟩ := by
  have hnames : ∀ e ∈ order.arrange (pathBelow root place) entries, IsName e.1 := fun e he =>
    hentries e ((order.perm (pathBelow root place) entries).mem_iff.1 he)
  rw [List.map_cons, walk]
  simp only [hread]
  rw [List.map_append, ← foldl_meet hplace hnames ⟨todo.map (pathBelow root ·.1), files⟩]
  rfl

theorem walk_stopped {cause : Error} (hread : fs.entries (pathBelow root place) = .error cause)
    (m : Node) (rounds : Nat) (todo : List (Place × Node)) (files : List Listed) :
    walk order fs root (rounds + 1) ⟨((place, m) :: todo).map (pathBelow root ·.1), files⟩ =
      .error (.io (pathBelow root place) cause) := by
  rw [List.map_cons, walk]
  simp only [hread]
  rfl

theorem walk_reads (hwf : n.IsWellFormed)
    (hentries : ∀ place entries, n.at? place = some (.directory entries) →
      fs.entries (pathBelow root place) =
        if IsShort (pathBelow root place) then .ok entries else .error .nameTooLong)
    {rounds : Nat} {todo : List (Place × Node)}
    (htodo : ∀ d ∈ todo, n.at? d.1 = some d.2 ∧ d.2.isDirectory = true)
    (hrounds : (todo.flatMap directoriesBelow).length ≤ rounds) (files : List Listed) :
    Reads root todo files (walk order fs root rounds ⟨todo.map (pathBelow root ·.1), files⟩) := by
  -- a directory is traded for those in it, so each round leaves one less to be read
  induction rounds generalizing todo files with
  | zero =>
      cases todo with
      | nil => exact walk_nil order fs root 0 files ▸ .nil root files
      | cons d todo =>
          obtain ⟨place, m⟩ := d
          obtain ⟨entries, rfl⟩ := Node.eq_directory (htodo _ List.mem_cons_self).2
          simp [directoriesBelow_directory] at hrounds
  | succ rounds ih =>
      cases todo with
      | nil => exact walk_nil order fs root (rounds + 1) files ▸ .nil root files
      | cons d todo =>
          obtain ⟨place, m⟩ := d
          obtain ⟨⟨hat, hm⟩, hrest⟩ := List.forall_mem_cons.1 htodo
          obtain ⟨entries, rfl⟩ := Node.eq_directory hm
          have hread := hentries place entries hat
          by_cases hshort : IsShort (pathBelow root place)
          · rw [if_pos hshort] at hread
            have harranged := order.perm (pathBelow root place) entries
            have hcount := ((directoriesBelow_perm place harranged).append_right
              (todo.flatMap directoriesBelow)).length_eq
            rw [List.flatMap_cons, hcount, List.cons_append, List.length_cons,
              ← List.flatMap_append] at hrounds
            have hnames : ∀ e ∈ entries, IsName e.1 := fun e he => ((hwf.at? hat).2.of_mem he).1
            have hlater := List.forall_mem_append.2 ⟨at?_laterReads hwf hat harranged, hrest⟩
            rw [walk_directory order (hwf.isName hat) hnames hread]
            exact .directory harranged hshort (ih hlater (Nat.le_of_succ_le_succ hrounds) _)
          · rw [if_neg hshort] at hread
            rw [walk_stopped order hread]
            refine .stopped ?_ hshort
            rw [List.flatMap_cons, directoriesBelow_directory]
            exact List.mem_cons_self

end Run

/-- The first names that differ decide; a place comes before those below it. -/
def Place.Before (p q : Place) : Prop := List.Lex (· < ·) p q

theorem Place.before_cons {a b : Raw} {p q : Place} :
    Before (a :: p) (b :: q) ↔ a < b ∨ a = b ∧ p.Before q := List.cons_lex_cons_iff

theorem isAtMost_iff {p q : Place} : p.isAtMost q = true ↔ p = q ∨ p.Before q := by
  induction p generalizing q with
  | nil =>
      cases q with
      | nil => exact iff_of_true rfl (.inl rfl)
      | cons b q => exact iff_of_true rfl (.inr .nil)
  | cons a p ih =>
      cases q with
      | nil => exact iff_of_false Bool.false_ne_true (not_or.2 ⟨List.cons_ne_nil _ _, List.not_lex_nil⟩)
      | cons b q =>
          rw [Place.isAtMost, Place.before_cons, List.cons.injEq]
          by_cases h : a = b
          · have hirrefl : ¬ a < a := Std.lt_irrefl
            rw [if_pos h, ih, ← h]
            simp [hirrefl]
          · simp [h]

theorem isAtMost_iff_le {p q : Place} : p.isAtMost q = true ↔ p ≤ q := by
  have hle : p ≤ q ↔ p.Before q ∨ p = q := Std.le_iff_lt_or_eq
  rw [isAtMost_iff, hle, or_comm]

theorem pairwise_isAtMost (places : List Place) :
    (places.mergeSort Place.isAtMost).Pairwise fun p q => p.isAtMost q = true := by
  refine List.pairwise_mergeSort (fun p q r hpq hqr => ?_) (fun p q => ?_) places
  · rw [isAtMost_iff_le] at *
    exact Std.le_trans hpq hqr
  · simpa only [Bool.or_eq_true, isAtMost_iff_le] using Std.le_total

/-- Files that list a directory: everything below it that is no directory and to which only directories
lead, each with the names on the way and with the root joined with those, in the order of the names. -/
structure IsListing (root : Raw) (n : Node) (files : List Listed) : Prop where
  mem_iff (f : Listed) : f ∈ files ↔
    (∃ m, n.at? f.names = some m ∧ m.isDirectory = false) ∧
      f.path = Path.join root (joined slash f.names)
  ordered : files.Pairwise fun f g => f.names.Before g.names

theorem IsListing.unique {n : Node} {files files' : List Listed} (h : IsListing root n files)
    (h' : IsListing root n files') : files = files' := by
  have : Std.Irrefl fun f g : Listed => f.names.Before g.names := ⟨fun f => Std.lt_irrefl (a := f.names)⟩
  have : Std.Antisymm fun f g : Listed => f.names.Before g.names :=
    ⟨fun f g hfg hgf => absurd (List.lt_trans hfg hgf) Std.lt_irrefl⟩
  exact h.ordered.eq_of_mem_iff h'.ordered fun f => (h.mem_iff f).trans (h'.mem_iff f).symm

theorem isListing_listTree (root : Raw) {n : Node} (hwf : n.IsWellFormed) (hd : n.isDirectory = true) :
    IsListing root n (listTree root n) := by
  constructor
  · intro f
    have hpath {m : Node} (hat : n.at? f.names = some m) (hm : m.isDirectory = false) :
        pathBelow root f.names = Path.join root (joined slash f.names) := by
      refine pathBelow_eq_join root (fun hnil => ?_) (hwf.isName hat)
      rw [hnil] at hat
      cases hat
      rw [hd] at hm
      cases hm
    rw [listTree]
    simp only [List.mem_map, List.mem_mergeSort]
    constructor
    · rintro ⟨_, ⟨⟨place, m⟩, hleaf, rfl⟩, rfl⟩
      obtain ⟨hat, hm⟩ := hwf.mem_leaves_iff.1 hleaf
      exact ⟨⟨m, hat, hm⟩, hpath hat hm⟩
    · rintro ⟨⟨m, hat, hm⟩, hf⟩
      refine ⟨f.names, ⟨(f.names, m), hwf.mem_leaves_iff.2 ⟨hat, hm⟩, rfl⟩, ?_⟩
      rw [hpath hat hm, ← hf]
  · have hsorted := pairwise_isAtMost (n.leaves.map (·.1))
    have hnodup := (List.mergeSort_perm (n.leaves.map (·.1)) Place.isAtMost).nodup_iff.2
      (n.leaves_nodup hwf)
    refine List.pairwise_map.2 ((hsorted.and hnodup).imp fun h => ?_)
    exact (isAtMost_iff.1 h.1).resolve_left h.2

theorem mergeSort_listedAt {n : Node} {found : List Place} (h : found.Perm (n.leaves.map (·.1))) :
    (found.map (listedAt root)).mergeSort (fun f g => Place.isAtMost f.names g.names) = listTree root n := by
  have hsame : found.mergeSort Place.isAtMost = (n.leaves.map (·.1)).mergeSort Place.isAtMost :=
    List.Perm.eq_of_pairwise
      (fun _ _ _ _ hpq hqp => Std.le_antisymm (isAtMost_iff_le.1 hpq) (isAtMost_iff_le.1 hqp))
      (pairwise_isAtMost _) (pairwise_isAtMost _)
      ((List.mergeSort_perm ..).trans (h.trans (List.mergeSort_perm ..).symm))
  have hmap : (found.mergeSort Place.isAtMost).map (listedAt root) =
      (found.map (listedAt root)).mergeSort fun f g => Place.isAtMost f.names g.names :=
    List.map_mergeSort fun _ _ _ _ => rfl
  rw [← hmap, hsame]
  rfl

theorem walk_error {order : Order} {fs : System} {rounds : Nat} {w : Walk} {e : ClientError}
    (h : walk order fs root rounds w = .error e) : ∃ dir cause, e = .io dir cause := by
  induction rounds generalizing w with
  | zero => cases h
  | succ rounds ih =>
      obtain ⟨pending, files⟩ := w
      cases pending with
      | nil => cases h
      | cons dir rest =>
          rw [walk] at h
          cases hread : fs.entries dir with
          | error cause =>
              simp only [hread] at h
              cases h
              exact ⟨dir, cause, rfl⟩
          | ok entries =>
              simp only [hread] at h
              exact ih h

theorem listFiles_of_lookup {fs : System} {n : Node} (h : fs.lookup root = .ok n) :
    (∃ files, listFiles fs root = .ok files) ∨ ∃ dir e, listFiles fs root = .error (.io dir e) := by
  rw [listFiles, listFilesIn, h]
  cases hn : n.isDirectory with
  | true =>
      simp only [hn, if_true]
      cases hwalk : walk .stored fs root n.directories.length ⟨[root], []⟩ with
      | ok w => exact .inl ⟨_, rfl⟩
      | error e =>
          obtain ⟨dir, cause, rfl⟩ := walk_error hwalk
          exact .inr ⟨dir, cause, rfl⟩
  | false =>
      obtain ⟨name, hname⟩ := fileName?_of_lookup h hn
      simp [hn, hname]

section Directory

variable {fs : System} {n : Node}

theorem listFilesIn_directory (order : Order) (hwf : fs.root.IsWellFormed) (hn : fs.lookup root = .ok n)
    (hd : n.isDirectory = true) :
    (∀ p ∈ n.directories, IsShort (pathBelow root p)) ∧
        (∃ files, walk order fs root n.directories.length ⟨[root], []⟩ = .ok ⟨[], files⟩) ∧
        listFilesIn order fs root = .ok (listTree root n) ∨
      ∃ p ∈ n.directories, ¬ IsShort (pathBelow root p) ∧
        listFilesIn order fs root = .error (.io (pathBelow root p) .nameTooLong) := by
  obtain ⟨place, hplace, hat⟩ := lookup_ok hn
  have hspells := (spells_of_resolve hplace).1
  have hn' := hwf.at? hat
  have hentries (p : Place) (entries : List (Raw × Node)) (hp : n.at? p = some (.directory entries)) :
      fs.entries (pathBelow root p) =
        if IsShort (pathBelow root p) then .ok entries else .error .nameTooLong := by
    have hbelow : fs.root.at? (place ++ p) = some (.directory entries) := by
      rw [Node.at?_append, hat]
      exact hp
    exact (hspells.below (hn'.isName hp) hbelow fun _ => nofun).entries hbelow
  have hall : ([([], n)] : List (Place × Node)).flatMap directoriesBelow = n.directories := by
    simp [directoriesBelow]
  have hleaves : ([([], n)] : List (Place × Node)).flatMap leavesBelow = n.leaves.map (·.1) := by
    simp [leavesBelow]
  have hstart : walk order fs root n.directories.length
      ⟨([([], n)] : List (Place × Node)).map (pathBelow root ·.1), []⟩ =
      walk order fs root n.directories.length ⟨[root], []⟩ := by
    rfl
  have hreads := walk_reads order hn' hentries (List.forall_mem_singleton.2 ⟨rfl, hd⟩)
    (Nat.le_of_eq (congrArg List.length hall)) []
  rw [hstart] at hreads
  rw [listFilesIn, hn]
  simp only [hd, if_true]
  generalize hr : walk order fs root n.directories.length ⟨[root], []⟩ = r at hreads
  cases hreads with
  | @all found leaves short =>
      rw [hleaves] at leaves
      rw [hall] at short
      refine .inl ⟨short, ⟨_, rfl⟩, ?_⟩
      rw [← mergeSort_listedAt leaves]
      rfl
  | stopped below long => exact .inr ⟨_, hall ▸ below, long, rfl⟩

theorem listFiles_directory (hwf : fs.root.IsWellFormed) (hn : fs.lookup root = .ok n)
    (hd : n.isDirectory = true) (hshort : ∀ p ∈ n.directories, IsShort (pathBelow root p)) :
    listFiles fs root = .ok (listTree root n) := by
  rcases listFilesIn_directory .stored hwf hn hd with ⟨-, -, hlist⟩ | ⟨p, hp, hlong, -⟩
  · exact hlist
  · exact absurd (hshort p hp) hlong

theorem eq_listTree (hwf : fs.root.IsWellFormed) (hn : fs.lookup root = .ok n) (hd : n.isDirectory = true)
    {files : List Listed} (h : listFiles fs root = .ok files) : files = listTree root n := by
  rcases listFilesIn_directory .stored hwf hn hd with ⟨-, -, hlist⟩ | ⟨p, -, -, hstop⟩
  · exact Except.ok.inj (h.symm.trans hlist)
  · cases h.symm.trans hstop

/-- However a directory is spelled and in whatever order directories yield their entries, what is below is
listed whole, and no directory is left to be read; unless there is one below whose path is too long, which
is then named. -/
theorem directories_are_listed (hwf : fs.root.IsWellFormed) (hn : fs.lookup root = .ok n)
    (hd : n.isDirectory = true) :
    ((∀ place, n.HasDirectory place → IsShort (pathBelow root place)) →
      ∃ files, IsListing root n files ∧ ∀ order, listFilesIn order fs root = .ok files ∧
        ∃ found, walk order fs root n.directories.length ⟨[root], []⟩ = .ok ⟨[], found⟩) ∧
    ∀ place, n.HasDirectory place → ¬ IsShort (pathBelow root place) →
      ∀ order, ∃ place', n.HasDirectory place' ∧ ¬ IsShort (pathBelow root place') ∧
        listFilesIn order fs root = .error (.io (pathBelow root place') .nameTooLong) := by
  obtain ⟨start, -, hat⟩ := lookup_ok hn
  have hn' := hwf.at? hat
  constructor
  · intro hshort
    refine ⟨listTree root n, isListing_listTree root hn' hd, fun order => ?_⟩
    rcases listFilesIn_directory order hwf hn hd with ⟨-, hread, hlist⟩ | ⟨p, hp, hlong, -⟩
    · exact ⟨hlist, hread⟩
    · exact absurd (hshort p (hn'.mem_directories_iff.1 hp)) hlong
  · intro place hplace hlong order
    rcases listFilesIn_directory order hwf hn hd with ⟨hshort, -⟩ | ⟨p, hp, hlong', hstop⟩
    · exact absurd (hshort place (hn'.mem_directories_iff.2 hplace)) hlong
    · exact ⟨p, hn'.mem_directories_iff.1 hp, hlong', hstop⟩

end Directory

/-- A directory with a way back up in it, and with a name that a comparison of whole paths would put in front
of what is below its neighbour. -/
def burrow : Node := .directory [("a", .directory [("up", .link ".."), ("z", .file [1])]), ("a-b", .file [2])]

def burrowFiles : System := ⟨.directory [("w", .directory [("e", burrow)])], ["w"]⟩

theorem burrow_lookup : burrowFiles.lookup "./e//" = .ok burrow := by
  have hway : System.names "./e//" = ([".", "e", "", ""] : Place) := by decide
  have hstart : System.start "./e//" burrowFiles.workingDirectory = (["w"] : Place) := by decide
  have hchild : (burrowFiles.root.at? ["w"]).bind (·.child? "e") = some burrow := rfl
  have hown : ∀ target, burrow ≠ .link target := by simp [burrow]
  have hresolve : burrowFiles.resolve "./e//" = .ok ["w", "e"] := by
    rw [System.resolve, if_neg (by decide), if_neg (by decide), if_neg (by decide), hway, hstart,
      System.follow_stay rfl (by decide),
      System.follow_child rfl (by decide) (by decide) hchild hown]
    exact (System.follow_stay rfl (by decide)).trans
      ((System.follow_stay rfl (by decide)).trans (System.follow_nil ..))
  rw [System.lookup, hresolve]
  rfl

theorem burrow_is_listed : burrowFiles.root.IsWellFormed ∧ burrowFiles.lookup "./e//" = .ok burrow ∧
    burrow.isDirectory = true ∧
      (∀ place, burrow.HasDirectory place → IsShort (pathBelow "./e//" place)) ∧
    ∀ order, listFilesIn order burrowFiles "./e//" =
      .ok [⟨["a", "up"], "./e//a/up"⟩, ⟨["a", "z"], "./e//a/z"⟩, ⟨["a-b"], "./e//a-b"⟩] := by
  have hwf : burrowFiles.root.IsWellFormed := by decide
  have hburrow : burrow.IsWellFormed := by decide
  have hshort : ∀ place, burrow.HasDirectory place → IsShort (pathBelow "./e//" place) := by
    have hall : ∀ place ∈ burrow.directories, IsShort (pathBelow "./e//" place) := by decide
    exact fun place hplace => hall place (hburrow.mem_directories_iff.2 hplace)
  obtain ⟨files, hfiles, hlist⟩ := (directories_are_listed hwf burrow_lookup rfl).1 hshort
  have htree : listTree "./e//" burrow =
      [⟨["a", "up"], "./e//a/up"⟩, ⟨["a", "z"], "./e//a/z"⟩, ⟨["a-b"], "./e//a-b"⟩] := by
    rw [listTree_of_pairwise "./e//" (by decide)]
    rfl
  refine ⟨hwf, burrow_lookup, rfl, hshort, fun order => ?_⟩
  rw [(hlist order).1, hfiles.unique (isListing_listTree _ hburrow rfl), htree]

def shaft : Node := .directory [("below-the-first-directory", .directory [])]

def shaftFiles : System := ⟨.directory [("d", shaft)], []⟩

def shaftRoot (slashes : Nat) : Raw := ("d" : Raw) ++ List.replicate slashes slash

theorem length_shaftRoot (k : Nat) : (shaftRoot k).length = k + 1 := by
  have hname : ("d" : Raw).length = 1 := by decide
  rw [shaftRoot, List.length_append, List.length_replicate, hname, Nat.add_comm]

theorem pieces_replicate (k : Nat) :
    pieces slash (List.replicate k slash) = List.replicate (k + 1) [] := by
  induction k with
  | zero => rfl
  | succ k ih => rw [List.replicate_succ, pieces, if_pos rfl, ih, ← List.replicate_succ]

theorem follow_replicate {tree : Node} {place : Place} (h : tree.HasDirectory place) (links k : Nat) :
    System.follow tree links place (List.replicate k []) = .ok place := by
  induction k with
  | zero => exact System.follow_nil tree links place
  | succ k ih => rw [List.replicate_succ, System.follow_stay h (.inl rfl), ih]

theorem shaftRoot_spells (k : Nat) : Spells shaftFiles (shaftRoot k) ["d"] := by
  have hroot : shaftRoot k = 100 :: List.replicate k slash := rfl
  have hway : System.names (shaftRoot k) = ("d" : Raw) :: List.replicate k [] := by
    rw [System.names, hroot, pieces, if_neg (by decide), pieces_replicate, List.replicate_succ]
    rfl
  have hchild : (shaftFiles.root.at? []).bind (·.child? "d") = some shaft := rfl
  refine ⟨?_, List.cons_ne_nil _ _, ?_⟩
  · rw [hroot, List.mem_cons, List.mem_replicate, not_or]
    exact ⟨by decide, fun h => absurd h.2 (by decide)⟩
  · have hreal (target : Raw) : shaft ≠ .link target := Node.noConfusion
    have hshaft : shaftFiles.root.HasDirectory ["d"] := rfl
    rw [hway]
    exact (System.follow_child rfl (by decide) (by decide) hchild hreal).trans (follow_replicate hshaft _ _)

theorem shaft_lookup {k : Nat} (h : k + 1 < System.maxPath) :
    shaftFiles.lookup (shaftRoot k) = .ok shaft := by
  rw [System.lookup, (shaftRoot_spells k).resolve, if_pos (by rwa [IsShort, length_shaftRoot])]
  rfl

theorem listTree_shaft (root : Raw) : listTree root shaft = [] := by
  rw [listTree_of_pairwise root (by decide)]
  rfl

theorem shaft_unread {k : Nat} (h : k + 1 < System.maxPath) (hlong : System.maxPath ≤ k + 26) :
    listFiles shaftFiles (shaftRoot k) =
      .error (.io (pathBelow (shaftRoot k) ["below-the-first-directory"]) .nameTooLong) := by
  have hwf : shaftFiles.root.IsWellFormed := by decide
  have hlonger : ¬ IsShort (pathBelow (shaftRoot k) ["below-the-first-directory"]) := by
    have hlength := Path.length_join_le (shaftRoot k) "below-the-first-directory"
    have hname : ("below-the-first-directory" : Raw).length = 25 := by decide
    rw [length_shaftRoot, hname] at hlength
    exact Nat.not_lt.2 (Nat.le_trans hlong hlength)
  have hdirectories : shaft.directories = ([[], ["below-the-first-directory"]] : List Place) := by decide
  rcases listFilesIn_directory .stored hwf (shaft_lookup h) rfl with ⟨hshort, -⟩ | ⟨p, hp, hstop, hlist⟩
  · exact absurd (hshort _ (by simp [hdirectories])) hlonger
  · rw [hdirectories] at hp
    rcases List.mem_pair.1 hp with rfl | rfl
    · rw [pathBelow, List.foldl_nil, IsShort, length_shaftRoot] at hstop
      exact absurd h hstop
    · exact hlist

/-- Nothing is to be listed, but the directory inside cannot be read under its path. -/
theorem long_spelling_stops_listing : shaftFiles.root.IsWellFormed ∧
    shaftFiles.lookup (shaftRoot 4080) = .ok shaft ∧ shaft.isDirectory = true ∧
    IsListing (shaftRoot 4080) shaft [] ∧ listFiles shaftFiles (shaftRoot 4080) =
      .error (.io (pathBelow (shaftRoot 4080) ["below-the-first-directory"]) .nameTooLong) := by
  have hshaft : shaft.IsWellFormed := by decide
  refine ⟨by decide, shaft_lookup (by decide), rfl, ?_, shaft_unread (by decide) (by decide)⟩
  rw [← listTree_shaft (shaftRoot 4080)]
  exact isListing_listTree _ hshaft rfl

end Dispatch.File
