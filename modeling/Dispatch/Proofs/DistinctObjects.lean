import Mathlib.Data.List.Forall2
import Mathlib.Data.List.Nodup
import Dispatch.Proofs.LastPiece
import Dispatch.Proofs.ObjectUploads

namespace Dispatch

open Text

namespace File

def IsText (name : Raw) : Prop := ∃ s, name = Utf8.encode s

/-- The names as text, with replacements for what is none. -/
def readNames (names : Place) : List (List Char) := names.map Utf8.decodeLossy

theorem map_encode_readNames {names : Place} (h : ∀ name ∈ names, IsText name) :
    (readNames names).map Utf8.encode = names := by
  have hback : ∀ name ∈ names, Utf8.encode (Utf8.decodeLossy name) = name := by
    intro name hname
    obtain ⟨s, rfl⟩ := h name hname
    rw [Utf8.decodeLossy_encode]
  rw [readNames, List.map_map]
  exact (List.map_congr_left hback).trans (List.map_id names)

theorem eq_encode_of_decodeLossy {name : Raw} {s : List Char} (h : Utf8.decodeLossy name = s)
    (hs : Utf8.replacement ∉ s) : name = Utf8.encode s := by
  subst h
  exact (Utf8.encode_decodeLossy hs).symm

section Name

variable {name : Raw} (h : IsName name)

include h

theorem IsName.decodeLossy_undotted : Utf8.decodeLossy name ≠ [] ∧ Url.Undotted (Utf8.decodeLossy name) :=
  ⟨fun he => h.nonempty (eq_encode_of_decodeLossy he (by decide)),
    fun he => h.no_dot.1 (eq_encode_of_decodeLossy he (by decide)),
    fun he => h.no_dot.2 (eq_encode_of_decodeLossy he (by decide))⟩

theorem IsName.decodeLossy_slashless : '/' ∉ Utf8.decodeLossy name := by
  intro hslash
  have hpart := Utf8.infix_of_mem_decodeLossy hslash (by decide)
  exact h.slashless (hpart.subset (List.mem_singleton_self slash))

end Name

end File

namespace Http.ObjectStore

open File Storage Url

/-- The names as text without tabs and line ends. -/
def keptNames (names : Place) : List (List Char) := (readNames names).map withoutIgnored

/-- What is left of each of the names is a name again. -/
def Steady (names : Place) : Prop := ∀ s ∈ keptNames names, s ≠ [] ∧ Undotted s

/-- No name has tabs or line ends in it. -/
def Unbroken (names : Place) : Prop := ∀ s ∈ readNames names, ∀ c ∈ s, isIgnored c = false

theorem Unbroken.keptNames {names : Place} (h : Unbroken names) : keptNames names = readNames names :=
  (List.map_congr_left fun s hs => withoutIgnored_eq_self (h s hs)).trans (List.map_id _)

theorem Unbroken.steady {names : Place} (h : Unbroken names) (hnames : ∀ name ∈ names, IsName name) :
    Steady names := by
  intro s hs
  rw [h.keptNames] at hs
  obtain ⟨name, hname, rfl⟩ := List.mem_map.1 hs
  exact (hnames name hname).decodeLossy_undotted

def folders (bucket leading : String) : List (List Char) :=
  bucket.toList :: if leading = "" then [] else pieces '/' leading.toList

theorem location_objectKey {bucket leading : String} {names : Place} (hne : names ≠ [])
    (hnames : ∀ name ∈ names, IsName name) :
    location bucket (objectKey leading names) = folders bucket leading ++ readNames names := by
  have hkey : pieces '/' (joined '/' (readNames names)) = readNames names := by
    apply pieces_joined
    · simpa [readNames] using hne
    · exact List.forall_mem_map.2 fun name hname => (hnames name hname).decodeLossy_slashless
  rw [location, objectKey, ← readNames, folders]
  split
  · rw [String.toList_ofList, hkey]
    rfl
  · have happend : (leading ++ "/" ++ String.ofList (joined '/' (readNames names))).toList =
        leading.toList ++ '/' :: joined '/' (readNames names) := by
      simp
    rw [happend, pieces_append, hkey]
    rfl

section Endpoint

variable {store : ObjectStore} {b : Url}

def targetBelow (b : Url) (front segments : List (List Char)) : List Char :=
  ({ b with path := .segments (front ++ segments.map written) } : Url).target

theorem targetBelow_injective (b : Url) (front : List (List Char)) :
    Function.Injective (targetBelow b front) := by
  have hslash (segments : List (List Char)) : Slashless (segments.map written) := by
    intro s hs
    obtain ⟨x, -, rfl⟩ := List.mem_map.1 hs
    exact slash_not_mem_written x
  intro segments segments' h
  have hpath := target_path_injective (b := b) rfl rfl h
  rw [Path.write_append, Path.write_append, List.append_cancel_left_eq] at hpath
  exact (List.map_inj_right fun _ _ => written_injective).1
    (Path.write_injective (hslash segments) (hslash segments') hpath)

/-- Behind one prefix, the rest of the path of an object is what its names are written as. -/
theorem objectUrl_below (h : Url.parse store.base = .ok b) (hb : b.isWeb = true) (bucket leading : String) :
    ∃ front, ∀ names, names ≠ [] → (∀ name ∈ names, IsName name) → Steady names →
      ∃ u, store.objectUrl bucket (objectKey leading names) = .ok u ∧
        u.target = targetBelow b front (keptNames names) := by
  obtain ⟨ss, hss, -⟩ := parse_slashless h hb
  refine ⟨rooted ((folders bucket leading).foldl (push true) (popIfEmpty ss)), ?_⟩
  intro names hne hnames hs
  refine ⟨_, objectUrl_eq h hb hss, ?_⟩
  obtain ⟨name, rest, rfl⟩ := List.exists_cons_of_ne_nil hne
  have hsegments : ∀ s ∈ readNames (name :: rest), Undotted (withoutIgnored s) := fun s hmem =>
    (hs _ (List.mem_map_of_mem hmem)).2
  have hhead : withoutIgnored (Utf8.decodeLossy name) ≠ [] := (hs _ List.mem_cons_self).1
  rw [readNames, List.map_cons] at hsegments
  rw [location_objectKey hne hnames, List.foldl_append, readNames, List.map_cons,
    foldl_push_rooted hsegments hhead]
  simp [targetBelow, keptNames, readNames, Function.comp_def]

theorem targets_eq {fs : System} {bucket leading : String} {front : List (List Char)}
    {files : List Listed} {ms : List Message}
    (hputs : List.Forall₂ (IsPut store fs bucket leading) files ms)
    (h : ∀ f ∈ files, ∃ u, store.objectUrl bucket (objectKey leading f.names) = .ok u ∧
      u.target = targetBelow b front (keptNames f.names)) :
    ms.map (·.url.target) = (files.map (keptNames ·.names)).map (targetBelow b front) := by
  induction hputs with
  | nil => rfl
  | cons put later ih =>
      obtain ⟨⟨u, hu, htarget⟩, hrest⟩ := List.forall_mem_cons.1 h
      rw [put.address] at hu
      cases hu
      rw [List.map_cons, List.map_cons, List.map_cons, ih hrest, htarget]

/-- The files of a directory are put in different places if their names are text without tabs and line ends.
Names that are no text are in the way if they differ only in what is replaced, and tabs and line ends if
names are the same without them. -/
theorem files_get_objects_of_their_own {τ : Type} (t : Transport τ) {fs : System} {path : Raw}
    {uri v : String} {n : Node} {l l' : Link τ} (h : Url.parse store.base = .ok b) (hb : b.isWeb = true)
    (hwf : fs.root.IsWellFormed) (hn : fs.lookup path = .ok n) (hd : n.isDirectory = true)
    (hup : store.upload t fs path uri l = (.ok v, l')) :
    ∃ bucket leading ms, splitRemote? uri = some (bucket, leading) ∧ l'.sent = l.sent ++ ms ∧
      List.Forall₂ (IsPut store fs bucket leading) (listTree path n) ms ∧
      ((∀ f ∈ listTree path n, Unbroken f.names ∧ ∀ name ∈ f.names, IsText name) →
        (ms.map (·.url.target)).Nodup) ∧
      ((∀ f ∈ listTree path n, Unbroken f.names) →
        ((ms.map (·.url.target)).Nodup ↔ ((listTree path n).map (readNames ·.names)).Nodup)) ∧
      ((∀ f ∈ listTree path n, Steady f.names) →
        ((ms.map (·.url.target)).Nodup ↔ ((listTree path n).map (keptNames ·.names)).Nodup)) := by
  obtain ⟨ms, s, hu, rfl⟩ := (upload_eq_iff h hb).1 hup
  obtain ⟨-, -, bucket, leading, files, haddress, hfiles, hall⟩ := hu.ok
  obtain rfl : files = listTree path n := eq_listTree hwf hn hd hfiles
  obtain ⟨place, -, hat⟩ := lookup_ok hn
  obtain ⟨hnodup, hnames⟩ := listTree_names path (hwf.at? hat)
  obtain ⟨front, hfront⟩ := objectUrl_below h hb bucket leading
  -- all targets start alike, so they differ as far as the kept names do
  have hkept (hs : ∀ f ∈ listTree path n, Steady f.names) :
      (ms.map (·.url.target)).Nodup ↔ ((listTree path n).map (keptNames ·.names)).Nodup := by
    rw [targets_eq hall.puts fun f hf => hfront f.names ((hnames f hf).1 hd) (hnames f hf).2 (hs f hf)]
    exact List.nodup_map_iff (targetBelow_injective b front)
  have hread (hs : ∀ f ∈ listTree path n, Unbroken f.names) :
      (ms.map (·.url.target)).Nodup ↔ ((listTree path n).map (readNames ·.names)).Nodup := by
    rw [hkept fun f hf => (hs f hf).steady (hnames f hf).2,
      List.map_congr_left fun f hf => (hs f hf).keptNames]
  refine ⟨bucket, leading, ms, haddress, rfl, hall.puts, fun hs => ?_, hread, hkept⟩
  rw [hread fun f hf => (hs f hf).1]
  refine List.Nodup.map_on (fun f hf g hg hfg => ?_) (List.Nodup.of_map _ hnodup)
  have hsame : f.names = g.names := by
    rw [← map_encode_readNames (hs f hf).2, hfg, map_encode_readNames (hs g hg).2]
  exact List.inj_on_of_nodup_map hnodup hf hg hsame

end Endpoint

def crate : Node := .directory [("a", .directory [("b", .file [2]), ("b?", .file [3])]), ("b#", .file [1])]

def storeroom : System := ⟨.directory [("d", crate)], []⟩

theorem storeroom_wellFormed : storeroom.root.IsWellFormed := by decide

theorem crate_lookup : storeroom.lookup "/d" = .ok crate :=
  @lookup_path storeroom ["d"] crate (by decide) (by decide) (by decide) rfl fun _ => nofun

theorem crate_tree : listTree "/d" crate =
    [⟨["a", "b"], "/d/a/b"⟩, ⟨["a", "b?"], "/d/a/b?"⟩, ⟨["b#"], "/d/b#"⟩] := by
  rw [listTree_of_pairwise "/d" (by decide)]
  rfl

theorem shelf_puts {fs : System} {content : List UInt8} {place : Place} (names : Place) (hne : place ≠ [])
    (hnames : ∀ name ∈ place, IsName name) (hshort : IsShort place.path)
    (hn : fs.root.at? place = some (.file content)) :
    ∃ m, IsPut (ofEndpoint shelf) fs "bucket" "key" ⟨names, place.path⟩ m ∧ m.body = content := by
  have hread := read_path hne hnames hshort hn
  obtain ⟨m, put⟩ : ∃ m, IsPut (ofEndpoint shelf) fs "bucket" "key" ⟨names, place.path⟩ m :=
    exists_isPut shelf_parse shelfUrl_isWeb hread
  have hbody := put.content
  rw [hread] at hbody
  exact ⟨m, put, (Except.ok.inj hbody).symm⟩

theorem storeroom_files_kept_apart :
    Url.parse (ofEndpoint shelf).base = .ok shelfUrl ∧ shelfUrl.isWeb = true ∧
      storeroom.root.IsWellFormed ∧ storeroom.lookup "/d" = .ok crate ∧ crate.isDirectory = true ∧
      (∀ f ∈ listTree "/d" crate, Unbroken f.names ∧ ∀ name ∈ f.names, IsText name) ∧
      ∃ l', (ofEndpoint shelf).upload Transport.scripted storeroom "/d" "s3://bucket/key"
          ⟨[⟨200, []⟩, ⟨200, []⟩, ⟨200, []⟩], []⟩ = (.ok "s3://bucket/key", l') ∧
        l'.sent.length = 3 ∧ (l'.sent.map (·.url.target)).Nodup := by
  have haddress : splitRemote? "s3://bucket/key" = some ("bucket", "key") := by decide
  have hsource : isRemote (shown "/d") = false := by rw [shown_encode]; decide
  have hplain : ∀ f ∈ listTree "/d" crate, Unbroken f.names ∧ ∀ name ∈ f.names, IsText name := by
    rw [crate_tree]
    simp [Unbroken, readNames, Utf8.decodeLossy_encode, isIgnored, IsText]
  obtain ⟨m, put, -⟩ :=
    @shelf_puts storeroom [2] ["d", "a", "b"] ["a", "b"] (by decide) (by decide) (by decide) rfl
  obtain ⟨m', put', -⟩ :=
    @shelf_puts storeroom [3] ["d", "a", "b?"] ["a", "b?"] (by decide) (by decide) (by decide) rfl
  obtain ⟨m'', put'', -⟩ :=
    @shelf_puts storeroom [1] ["d", "b#"] ["b#"] (by decide) (by decide) (by decide) rfl
  have hup : Uploads Transport.scripted (ofEndpoint shelf) storeroom "/d" "s3://bucket/key"
      [⟨200, []⟩, ⟨200, []⟩, ⟨200, []⟩] [m, m', m''] [] (.ok "s3://bucket/key") :=
    .put haddress hsource (crate_tree ▸ listFiles_directory storeroom_wellFormed crate_lookup rfl (by decide))
      (.done (.cons put rfl (by decide)
        (.cons put' rfl (by decide) (.cons put'' rfl (by decide) .nil))))
  have hrun := hup.upload shelf_parse shelfUrl_isWeb []
  obtain ⟨bucket, leading, ms, -, hsent, -, hapart, -⟩ := files_get_objects_of_their_own
    Transport.scripted shelf_parse shelfUrl_isWeb storeroom_wellFormed crate_lookup rfl hrun
  obtain rfl : [m, m', m''] = ms := hsent
  exact ⟨shelf_parse, shelfUrl_isWeb, storeroom_wellFormed, crate_lookup, rfl, hplain, _, hrun, rfl,
    hapart hplain⟩

def pair (x y : Raw) : Node := .directory [(x, .file [1]), (y, .file [2])]

def cellar (x y : Raw) : System := ⟨.directory [("e", pair x y)], []⟩

/-- The second of the two files is put over the first, and the upload succeeds. -/
def Overwritten (x y : Raw) : Prop := ∃ m m' : Message,
  (ofEndpoint shelf).upload Transport.scripted (cellar x y) "/e" "s3://bucket/key"
      ⟨[⟨200, []⟩, ⟨200, []⟩], []⟩ = (.ok "s3://bucket/key", ⟨[], [m, m']⟩) ∧
    m.url = m'.url ∧ m.body ≠ m'.body

theorem path_below_pair (name : Raw) : pathBelow "/e" [name] = Place.path ["e", name] :=
  congrArg (("/e" : Raw) ++ slash :: ·) (List.append_nil name).symm

theorem isShort_path {name : Raw} (h : IsName name) : IsShort (Place.path ["e", name]) := by
  have hlength : (Place.path ["e", name]).length = name.length + 3 := by
    rw [← path_below_pair]
    exact congrArg (· + 3) rfl
  have hname : name.length ≤ 255 := h.short
  have hmax : System.maxPath = 4096 := rfl
  rw [IsShort]
  omega

section Pair

variable {x y : Raw} (hx : IsName x) (hy : IsName y) (hlt : x < y)

include hlt

theorem pair_tree : listTree "/e" (pair x y) =
    [⟨[x], Place.path ["e", x]⟩, ⟨[y], Place.path ["e", y]⟩] := by
  have hne : x ≠ y := fun he => Std.lt_irrefl (he ▸ hlt)
  have hordered : ((pair x y).leaves.map (·.1)).Pairwise fun p q => Place.isAtMost p q = true := by
    simp [pair, Node.leaves, Node.leavesOf, Place.isAtMost, hne, hlt]
  rw [listTree_of_pairwise "/e" hordered, ← path_below_pair, ← path_below_pair]
  rfl

include hx hy

theorem cellar_wellFormed : (cellar x y).root.IsWellFormed := by
  have hne : x ≠ y := fun he => Std.lt_irrefl (he ▸ hlt)
  have hpair : (pair x y).IsWellFormed := ⟨by simp [hne], hx, trivial, hy, trivial, trivial⟩
  exact ⟨List.nodup_singleton _, by decide, hpair, trivial⟩

theorem pair_overwritten (hurls : (ofEndpoint shelf).objectUrl "bucket" (objectKey "key" [x]) =
    (ofEndpoint shelf).objectUrl "bucket" (objectKey "key" [y])) : Overwritten x y := by
  have hne : y ≠ x := fun he => Std.lt_irrefl (he ▸ hlt)
  have haddress : splitRemote? "s3://bucket/key" = some ("bucket", "key") := by decide
  have hsource : isRemote (shown "/e") = false := by rw [shown_encode]; decide
  have hdir : IsName "e" := by decide
  have hnames (name : Raw) (h : IsName name) : ∀ x ∈ (["e", name] : Place), IsName x :=
    List.forall_mem_cons.2 ⟨hdir, List.forall_mem_singleton.2 h⟩
  have hlookup : (cellar x y).lookup "/e" = .ok (pair x y) :=
    @lookup_path (cellar x y) ["e"] (pair x y) (by decide) (by decide) (by decide) rfl fun _ => nofun
  have hfirst : (cellar x y).root.at? ["e", x] = some (.file [1]) := by
    have hchild : (pair x y).child? x = some (.file [1]) := List.lookup_cons_self
    exact congrArg (·.bind (Node.at? · [])) hchild
  have hsecond : (cellar x y).root.at? ["e", y] = some (.file [2]) := by
    have hchild : (pair x y).child? y = some (.file [2]) := by
      simp [pair, Node.child?, List.lookup_cons, beq_false_of_ne hne]
    exact congrArg (·.bind (Node.at? · [])) hchild
  obtain ⟨m, put, hm⟩ := shelf_puts [x] (List.cons_ne_nil _ _) (hnames x hx) (isShort_path hx) hfirst
  obtain ⟨m', put', hm'⟩ := shelf_puts [y] (List.cons_ne_nil _ _) (hnames y hy) (isShort_path hy) hsecond
  have hlist : listFiles (cellar x y) "/e" = .ok (listTree "/e" (pair x y)) :=
    listFiles_directory (cellar_wellFormed hx hy hlt) hlookup rfl (by
      have hdirectories : (pair x y).directories = [[]] := rfl
      rw [hdirectories]
      decide)
  have hup : Uploads Transport.scripted (ofEndpoint shelf) (cellar x y) "/e" "s3://bucket/key"
      [⟨200, []⟩, ⟨200, []⟩] [m, m'] [] (.ok "s3://bucket/key") :=
    .put haddress hsource (pair_tree hlt ▸ hlist)
      (.done (.cons put rfl (by decide) (.cons put' rfl (by decide) .nil)))
  rw [put.address, put'.address] at hurls
  refine ⟨m, m', hup.upload shelf_parse shelfUrl_isWeb [], Except.ok.inj hurls, ?_⟩
  rw [hm, hm']
  decide

end Pair

theorem tabs_are_lost : (cellar "a\tb" "ab").root.IsWellFormed ∧ Overwritten "a\tb" "ab" := by
  have hurls : (ofEndpoint shelf).objectUrl "bucket" ("key" ++ "/" ++ "a\tb") =
      (ofEndpoint shelf).objectUrl "bucket" ("key" ++ "/" ++ "ab") := by decide +kernel
  rw [← objectKey_encode (by decide), ← objectKey_encode (by decide)] at hurls
  have hx : IsName "a\tb" := by decide
  have hy : IsName "ab" := by decide
  have hlt : ("a\tb" : Raw) < ("ab" : Raw) := by decide
  exact ⟨cellar_wellFormed hx hy hlt, pair_overwritten hx hy hlt hurls⟩

theorem strange_names_meet : (cellar [0xFE] [0xFF]).root.IsWellFormed ∧ Overwritten [0xFE] [0xFF] := by
  have hread (b : UInt8) (hb : Utf8.lead? b = none) : Utf8.decodeLossy [b] = [Utf8.replacement] := by
    rw [Utf8.decodeLossy_of_no_lead hb, Utf8.decodeLossy]
  have hkeys : objectKey "key" [[0xFE]] = objectKey "key" [[0xFF]] := by
    rw [objectKey, objectKey, List.map_singleton, hread 0xFE (by decide), List.map_singleton,
      hread 0xFF (by decide)]
  have hx : IsName [0xFE] := by decide
  have hy : IsName [0xFF] := by decide
  have hlt : ([0xFE] : Raw) < [0xFF] := by decide
  exact ⟨cellar_wellFormed hx hy hlt, pair_overwritten hx hy hlt (by rw [hkeys])⟩

/-- Two files whose names differ in a tab only are put in one place, and so are two whose names are no text. -/
theorem different_files_meet :
    ((cellar "a\tb" "ab").root.IsWellFormed ∧ Overwritten "a\tb" "ab") ∧
      (cellar [0xFE] [0xFF]).root.IsWellFormed ∧ Overwritten [0xFE] [0xFF] :=
  ⟨tabs_are_lost, strange_names_meet⟩

end Http.ObjectStore

end Dispatch
