import Dispatch.Proofs.Activity
import Dispatch.Proofs.LastPiece

namespace Dispatch

open Storage File Text

theorem File.System.lookup_of_isFile {fs : System} {path : Raw} (h : fs.isFile path = true) :
    ∃ content, fs.lookup path = .ok (.file content) := by
  rw [isFile] at h
  cases hn : fs.lookup path with
  | error e =>
      rw [hn] at h
      cases h
  | ok n =>
      rw [hn] at h
      cases n with
      | file content => exact ⟨content, rfl⟩
      | _ => cases h

theorem File.System.not_isDirectory_of_isFile {fs : System} {path : Raw} (h : fs.isFile path = true) :
    fs.isDirectory path = false := by
  obtain ⟨content, hn⟩ := lookup_of_isFile h
  rw [isDirectory, hn]
  rfl

theorem File.System.fileName?_of_isFile {fs : System} {path : Raw} (h : fs.isFile path = true) :
    ∃ name, Path.fileName? path = some name := by
  obtain ⟨content, hn⟩ := lookup_of_isFile h
  exact fileName?_of_lookup hn rfl

namespace Program

variable {fs : System} {source script tag : String} {given : Option String} {s : ScriptSource}
  {program : Program} {e : ValidationError}

/-- What the script is called. A file has its own name, whatever is given with it. -/
inductive NameOf (fs : System) (source : String) : Option String → String → Prop
  | given_remote (hr : isRemote source = true) (name : String) : NameOf fs source (some name) name
  | given_directory (hr : isRemote source = false) (hd : fs.isDirectory source = true) (name : String) :
      NameOf fs source (some name) name
  | file (hr : isRemote source = false) (hf : fs.isFile source = true) (given : Option String)
      {name : String} (hn : Path.EndsInName source.toList name.toList) : NameOf fs source given name
  | address (hr : isRemote source = true) {name : String}
      (hn : LastSegment '/' source.toList name.toList) : NameOf fs source none name

inductive Nameless (fs : System) (source : String) : Option String → ValidationError → Prop
  | directory (hr : isRemote source = false) (hd : fs.isDirectory source = true) :
      Nameless fs source none (.scriptNameMissing source)
  | missing (hr : isRemote source = false) (hd : fs.isDirectory source = false)
      (hf : fs.isFile source = false) (given : Option String) :
      Nameless fs source given (.sourceMissing source)

theorem lastSegment_iff (hr : isRemote source = true) {name : List Char} :
    lastSegment source.toList = name ↔ LastSegment '/' source.toList name := by
  obtain ⟨scheme, rest, hsource, -⟩ := isRemoteText_iff.1 hr
  have hcolon : ':' ∈ source.toList := by simp [hsource]
  have hne : trimEnd '/' source.toList ≠ [] := trimEnd_ne_nil hcolon (by decide)
  rw [← lastSegment_trimEnd, lastSegment_iff_afterLast hne (getLast?_trimEnd '/' _), lastSegment]

theorem NameOf.scriptName {name : String} (h : NameOf fs source given name) :
    scriptName fs source given = .ok name := by
  cases h with
  | given_remote hr => exact if_pos hr
  | given_directory hr hd => simp [Program.scriptName, hr, hd]
  | file hr hf given hn =>
      have hd := System.not_isDirectory_of_isFile hf
      have hname := Path.fileName?_encode_iff.2 ⟨_, rfl, hn⟩
      simp [Program.scriptName, hr, hd, hname, hf, shown_encode]
  | address hr hn => simp [Program.scriptName, hr, (lastSegment_iff hr).2 hn]

theorem Nameless.scriptName (h : Nameless fs source given e) : scriptName fs source given = .error e := by
  cases h with
  | directory hr hd => simp [Program.scriptName, hr, hd]
  | missing hr hd hf given =>
      simp only [Program.scriptName, hr, hd, hf]
      cases Path.fileName? (source : Raw) <;> rfl

theorem named_or_nameless (fs : System) (source : String) (given : Option String) :
    (∃ name, NameOf fs source given name) ∨ ∃ e, Nameless fs source given e := by
  cases hr : isRemote source with
  | true =>
      cases given with
      | some name => exact .inl ⟨name, .given_remote hr name⟩
      | none =>
          refine .inl ⟨String.ofList (lastSegment source.toList), .address hr ?_⟩
          rw [String.toList_ofList]
          exact (lastSegment_iff hr).1 rfl
  | false =>
      cases hd : fs.isDirectory source with
      | true =>
          cases given with
          | some name => exact .inl ⟨name, .given_directory hr hd name⟩
          | none => exact .inr ⟨_, .directory hr hd⟩
      | false =>
          cases hf : fs.isFile source with
          | true =>
              obtain ⟨_, hsome⟩ := System.fileName?_of_isFile hf
              obtain ⟨name, -, hname⟩ := Path.fileName?_encode_iff.1 hsome
              refine .inl ⟨String.ofList name, .file hr hf given ?_⟩
              rwa [String.toList_ofList]
          | false => exact .inr ⟨_, .missing hr hd hf given⟩

theorem scriptName_eq_ok_iff : scriptName fs source given = .ok script ↔ NameOf fs source given script := by
  refine ⟨fun h => ?_, NameOf.scriptName⟩
  obtain ⟨name, hname⟩ | ⟨e, he⟩ := named_or_nameless fs source given
  · cases h.symm.trans hname.scriptName
    exact hname
  · cases h.symm.trans he.scriptName

theorem scriptName_eq_error_iff : scriptName fs source given = .error e ↔ Nameless fs source given e := by
  refine ⟨fun h => ?_, Nameless.scriptName⟩
  obtain ⟨name, hname⟩ | ⟨e', he⟩ := named_or_nameless fs source given
  · cases h.symm.trans hname.scriptName
  · cases h.symm.trans he.scriptName
    exact he

/-- The last name of a path is `ending` behind a dot and something in front of it. -/
def HasEnding (path ending : String) : Prop :=
  ∃ stem, stem ≠ [] ∧ Path.EndsInName path.toList (stem ++ '.' :: ending.toList)

/-- What a script is run by. The tag tells one Python from another. -/
inductive RunBy (script tag : String) : String → Prop
  | python3 (hs : HasEnding script "py") (ht : tag = "py3") : RunBy script tag "python3"
  | python2 (hs : HasEnding script "py") (ht : tag = "py2") : RunBy script tag "python2"
  | python (hs : HasEnding script "py") (h3 : tag ≠ "py3") (h2 : tag ≠ "py2") : RunBy script tag "python"
  | bash (hs : HasEnding script "sh") : RunBy script tag "bash"

theorem extension?_eq_iff {ending : String} (h : '.' ∉ ending.toList) :
    Path.extension? script = some (ending : Raw) ↔ HasEnding script ending := by
  rw [Path.extension?_encode_iff, HasEnding]
  exact exists_congr fun stem => and_congr_right fun _ => and_iff_right h

theorem extension?_py : Path.extension? script = some ("py" : Raw) ↔ HasEnding script "py" :=
  extension?_eq_iff (by decide)

theorem extension?_sh : Path.extension? script = some ("sh" : Raw) ↔ HasEnding script "sh" :=
  extension?_eq_iff (by decide)

theorem RunBy.of_py (hs : HasEnding script "py") (tag : String) : RunBy script tag (interpreterOf tag) := by
  unfold interpreterOf
  split
  · next ht => exact .python3 hs ht
  · next h3 =>
      split
      · next ht => exact .python2 hs ht
      · next h2 => exact .python hs h3 h2

theorem interpreter_of_py (hs : HasEnding script "py") : interpreter script tag = .ok (interpreterOf tag) :=
  if_pos (extension?_py.2 hs)

theorem interpreter_of_sh (hs : HasEnding script "sh") : interpreter script tag = .ok "bash" := by
  rw [interpreter, extension?_sh.2 hs, if_neg (by decide), if_pos rfl]

theorem interpreter_of_other (hpy : ¬ HasEnding script "py") (hsh : ¬ HasEnding script "sh") :
    interpreter script tag = .error (.notAScript script) := by
  rw [interpreter, if_neg (mt extension?_py.1 hpy), if_neg (mt extension?_sh.1 hsh)]

theorem RunBy.interpreter {i : String} (h : RunBy script tag i) : interpreter script tag = .ok i := by
  cases h with
  | python3 hs ht => rw [interpreter_of_py hs, interpreterOf, if_pos ht]
  | python2 hs ht => rw [interpreter_of_py hs, interpreterOf, if_neg (by simp [ht]), if_pos ht]
  | python hs h3 h2 => rw [interpreter_of_py hs, interpreterOf, if_neg h3, if_neg h2]
  | bash hs => exact interpreter_of_sh hs

theorem interpreter_eq_ok_iff {i : String} : interpreter script tag = .ok i ↔ RunBy script tag i := by
  refine ⟨fun h => ?_, RunBy.interpreter⟩
  by_cases hpy : HasEnding script "py"
  · cases h.symm.trans (interpreter_of_py hpy)
    exact .of_py hpy tag
  · by_cases hsh : HasEnding script "sh"
    · cases h.symm.trans (interpreter_of_sh hsh)
      exact .bash hsh
    · cases h.symm.trans (interpreter_of_other hpy hsh)

theorem interpreter_eq_error_iff : interpreter script tag = .error e ↔
    ¬ HasEnding script "py" ∧ ¬ HasEnding script "sh" ∧ e = .notAScript script := by
  constructor
  · intro h
    have hpy : ¬ HasEnding script "py" := fun hs => nomatch h.symm.trans (interpreter_of_py hs)
    have hsh : ¬ HasEnding script "sh" := fun hs => nomatch h.symm.trans (interpreter_of_sh hs)
    cases h.symm.trans (interpreter_of_other hpy hsh)
    exact ⟨hpy, hsh, rfl⟩
  · rintro ⟨hpy, hsh, rfl⟩
    exact interpreter_of_other hpy hsh

theorem resolve_eq_ok_iff : resolve fs s = .ok program ↔
    ∃ i, NameOf fs s.source s.scriptName program.script ∧ RunBy program.script s.tag i ∧
      program.entrypoint = [i, mountPoint ++ "/" ++ program.script] := by
  simp only [resolve, bind_eq_ok_iff, scriptName_eq_ok_iff, interpreter_eq_ok_iff]
  constructor
  · rintro ⟨script, hname, i, hrun, ⟨⟩⟩
    exact ⟨i, hname, hrun, rfl⟩
  · rintro ⟨i, hname, hrun, hentry⟩
    exact ⟨program.script, hname, i, hrun, by rw [← hentry]; rfl⟩

theorem resolve_eq_error_iff : resolve fs s = .error e ↔ Nameless fs s.source s.scriptName e ∨
    ∃ script, NameOf fs s.source s.scriptName script ∧
      ¬ HasEnding script "py" ∧ ¬ HasEnding script "sh" ∧ e = .notAScript script := by
  simp only [resolve, bind_eq_error_iff, scriptName_eq_error_iff, scriptName_eq_ok_iff]
  refine or_congr_right (exists_congr fun script => and_congr_right fun _ => ?_)
  -- behind the interpreter nothing is refused
  rw [← interpreter_eq_error_iff]
  exact or_iff_left fun ⟨_, _, h⟩ => nomatch h

/-- A script can be run exactly if it has a name, and that name an ending with an interpreter. What runs it is
the interpreter with the name below the mount; what cannot be run is refused, for the want of a name or
of an ending. -/
theorem scripts_run_by_name (fs : System) (s : ScriptSource) :
    (∀ program, resolve fs s = .ok program ↔
      ∃ i, NameOf fs s.source s.scriptName program.script ∧ RunBy program.script s.tag i ∧
        program.entrypoint = [i, "/code/source/" ++ program.script]) ∧
    ∀ e, resolve fs s = .error e ↔ Nameless fs s.source s.scriptName e ∨
      ∃ script, NameOf fs s.source s.scriptName script ∧
        ¬ HasEnding script "py" ∧ ¬ HasEnding script "sh" ∧ e = .notAScript script := by
  have hmount : mountPoint ++ "/" = "/code/source/" := by decide
  refine ⟨fun program => ?_, fun e => resolve_eq_error_iff⟩
  rw [resolve_eq_ok_iff, hmount]

example : resolve .empty { source := "s3://code/lib", scriptName := some "jobs/run.v2.sh//", tag := "py3" } =
    .ok { script := "jobs/run.v2.sh//", entrypoint := ["bash", "/code/source/jobs/run.v2.sh//"] } := by
  decide +kernel

theorem HasEnding.of_slashless {ending : String} (h : HasEnding script ending) (hs : '/' ∉ script.toList) :
    ∃ stem, script.toList = stem ++ '.' :: ending.toList := by
  obtain ⟨stem, -, hlast, -⟩ := h
  exact ⟨stem, ((lastPiece_of_not_mem hs).1 hlast).1.symm⟩

theorem RunBy.hasEnding {i : String} (h : RunBy script tag i) :
    HasEnding script "py" ∨ HasEnding script "sh" := by
  cases h with
  | python3 hs | python2 hs | python hs => exact .inl hs
  | bash hs => exact .inr hs

theorem RunBy.getLast?_ne {i : String} (h : RunBy script tag i) (hs : '/' ∉ script.toList) :
    script.toList.getLast? ≠ some ':' := by
  rcases h.hasEnding with h | h <;>
  · obtain ⟨stem, hstem⟩ := h.of_slashless hs
    rw [hstem]
    simp

theorem lastSegment_address {name rest p : List Char} (hname : sameLetters name scheme = true)
    (h : LastSegment '/' (name ++ ':' :: '/' :: '/' :: rest) p) :
    LastSegment '/' rest p ∨ p.getLast? = some ':' := by
  have hslash : '/' ∉ name ++ [':'] := by
    simpa using not_mem_of_sameLetters hname (by decide)
  have hcut : name ++ ':' :: '/' :: '/' :: rest = (name ++ [':']) ++ ['/'] ++ '/' :: rest := by simp
  rw [hcut, LastSegment, lastPiece_append] at h
  refine h.imp_right fun h => ?_
  have hscheme := ((lastPiece_of_not_mem hslash).1 (lastSegment_concat.1 h.2)).1
  rw [hscheme, List.getLast?_concat]

/-- Where the last segment of an address stands among the parts of the address: in the key, or else it is the
bucket. -/
theorem lastSegment_of_split {name rest bucket key p : List Char} (hname : sameLetters name scheme = true)
    (hsplit : splitRemoteText (name ++ ':' :: '/' :: '/' :: rest) = some (bucket, key))
    (h : LastSegment '/' rest p) :
    if key = [] then p = bucket else (pieces '/' key).getLast? = some p := by
  rw [splitRemoteText_append hname] at hsplit
  by_cases hbucket : before '/' rest = []
  · rw [if_pos hbucket] at hsplit
    cases hsplit
  · rw [if_neg hbucket] at hsplit
    cases hsplit
    have hown := (lastSegment_before hbucket).1 h
    by_cases hkey : trim '/' (rest.dropWhile (· != '/')) = []
    · rwa [if_pos hkey] at hown ⊢
    · rw [if_neg hkey] at hown ⊢
      rw [getLast?_pieces, hown]

theorem head?_of_not_split {name rest p : List Char} (hname : sameLetters name scheme = true)
    (hsplit : splitRemoteText (name ++ ':' :: '/' :: '/' :: rest) = none) (h : LastSegment '/' rest p) :
    rest.head? = some '/' := by
  rw [splitRemoteText_append hname] at hsplit
  by_cases hbucket : before '/' rest = []
  · cases rest with
    | nil => exact absurd h not_lastSegment_nil
    | cons x rest =>
        by_cases hx : x = '/'
        · exact congrArg some hx
        · simp [before, hx] at hbucket
  · rw [if_neg hbucket] at hsplit
    cases hsplit

/-- The name that an address gives to a script follows the mark of the address. It is the last segment of the
key if there is one; but where there is only a bucket it is the bucket, and where there is no bucket it is
found behind more slashes. -/
theorem addresses_name_scripts (hr : isRemote source = true)
    (hp : resolve fs { source, tag } = .ok program) :
    ∃ name rest, source.toList = name ++ ':' :: '/' :: '/' :: rest ∧ sameLetters name scheme = true ∧
      LastSegment '/' rest program.script.toList ∧
      match splitRemote? source with
      | some (bucket, key) =>
          if key = "" then program.script = bucket
          else (pieces '/' key.toList).getLast? = some program.script.toList
      | none => rest.head? = some '/' := by
  obtain ⟨i, hname, hrun, -⟩ := resolve_eq_ok_iff.1 hp
  obtain ⟨name, rest, hsource, hscheme⟩ := isRemoteText_iff.1 hr
  have hscript : LastSegment '/' source.toList program.script.toList := by
    cases hname with
    | file hr' => simp [hr] at hr'
    | address _ hn => exact hn
  have hrest : LastSegment '/' rest program.script.toList :=
    (lastSegment_address hscheme (hsource ▸ hscript)).resolve_right (hrun.getLast?_ne hscript.not_mem)
  refine ⟨name, rest, hsource, hscheme, hrest, ?_⟩
  rw [splitRemote?, hsource]
  cases hsplit : splitRemoteText (name ++ ':' :: '/' :: '/' :: rest) with
  | none => exact head?_of_not_split hscheme hsplit hrest
  | some parts =>
      have hparts := lastSegment_of_split hscheme hsplit hrest
      simp only [Option.map_some, String.ofList_eq_empty_iff, String.toList_ofList]
      by_cases hkey : parts.2 = []
      · rw [if_pos hkey] at hparts ⊢
        rw [← hparts, String.ofList_toList]
      · rwa [if_neg hkey] at hparts ⊢

theorem long_key_names_script :
    isRemote "S3://b.py/jobs//run.py/" = true ∧
      resolve .empty { source := "S3://b.py/jobs//run.py/", tag := "py2" } =
        .ok { script := "run.py", entrypoint := ["python2", "/code/source/run.py"] } ∧
      splitRemote? "S3://b.py/jobs//run.py/" = some ("b.py", "jobs//run.py") ∧
      (pieces '/' "jobs//run.py".toList).getLast? = some "run.py".toList := by
  have hr : isRemote "S3://b.py/jobs//run.py/" = true := by decide +kernel
  have hp : resolve .empty { source := "S3://b.py/jobs//run.py/", tag := "py2" } =
      .ok { script := "run.py", entrypoint := ["python2", "/code/source/run.py"] } := by decide +kernel
  have hsplit : splitRemote? "S3://b.py/jobs//run.py/" = some ("b.py", "jobs//run.py") := by
    decide +kernel
  obtain ⟨name, rest, -, -, -, hscript⟩ := addresses_name_scripts hr hp
  rw [hsplit] at hscript
  exact ⟨hr, hp, hsplit, hscript⟩

/-- An address without a key gives a script the name of the bucket, and one without a bucket gives it a name as
well. -/
theorem bucket_taken_for_script :
    resolve .empty { source := "s3://run.py", tag := "py3" } =
        .ok { script := "run.py", entrypoint := ["python3", "/code/source/run.py"] } ∧
      isRemote "s3://run.py" = true ∧ splitRemote? "s3://run.py" = some ("run.py", "") ∧
      resolve .empty { source := "s3:///run.py", tag := "py3" } =
        .ok { script := "run.py", entrypoint := ["python3", "/code/source/run.py"] } ∧
      isRemote "s3:///run.py" = true ∧ splitRemote? "s3:///run.py" = none := by
  decide +kernel

end Program

end Dispatch
