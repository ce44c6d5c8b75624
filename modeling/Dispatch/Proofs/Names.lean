import Dispatch.Proofs.Normalization
import Dispatch.Proofs.Positions
import Dispatch.Proofs.Run
import Dispatch.Service.Scripted

namespace Dispatch

open Activity Storage

def slashless (name : String) : List Char := Text.trim '/' name.toList

theorem slashless_inputName (n : Nat) : slashless (inputName n) = (inputName n).toList := by
  apply Text.trim_of_not_mem
  rw [inputName, String.toList_append, List.mem_append, not_or]
  refine ⟨by decide, ?_⟩
  intro hmem
  have hdigit :=
    Nat.isDigit_of_mem_toDigits (b := 10) (by decide) (by decide) (Nat.toList_repr ▸ hmem)
  cases hdigit

theorem slashless_inputName_injective (m n : Nat)
    (h : slashless (inputName m) = slashless (inputName n)) : m = n := by
  rw [slashless_inputName, slashless_inputName] at h
  exact inputName_injective m n (String.toList_injective h)

theorem addSegment_eq_iff {u x y : List Char} :
    addSegment u x = addSegment u y ↔ Text.trim '/' x = Text.trim '/' y := by
  constructor
  · intro h
    unfold addSegment at h
    split at h
    · next hx =>
        split at h
        · next hy => rw [hx, hy]
        · simp at h
    · split at h
      · simp at h
      · next hx hy => simpa using h
  · intro h
    rw [addSegment, addSegment, h]

theorem remoteUri_eq_iff {b job x y : String} :
    remoteUri b [job, x] = remoteUri b [job, y] ↔ slashless x = slashless y := by
  constructor
  · intro h
    exact addSegment_eq_iff.1 (String.ofList_injective h)
  · intro h
    exact congrArg String.ofList (addSegment_eq_iff.2 h)

theorem nodup_destinations_iff {b job : String} {names : List String} :
    (names.map fun name => remoteUri b [job, name]).Nodup ↔ (names.map slashless).Nodup := by
  simp only [List.Nodup, List.pairwise_map, ne_eq, remoteUri_eq_iff]

def destinations (t : List Event) : List String :=
  t.filterMap fun
    | .called (.upload _ uri) _ => some uri
    | _ => none

@[simp] theorem destinations_append (t u : List Event) :
    destinations (t ++ u) = destinations t ++ destinations u :=
  List.filterMap_append

/-- The names, from a position on, of the inputs that must be uploaded. -/
def localNames : Nat → List InputDescriptor → List String
  | _, [] => []
  | n, d :: ds =>
      if isRemote d.source then localNames (n + 1) ds else d.finalName n :: localNames (n + 1) ds

theorem localNames_sublist (n : Nat) (ds : List InputDescriptor) :
    (localNames n ds).Sublist (named inputName n (ds.map (·.name))) := by
  induction ds generalizing n with
  | nil => exact .slnil
  | cons d ds ih =>
      rw [localNames]
      split
      · exact (ih (n + 1)).cons _
      · exact (ih (n + 1)).cons_cons _

theorem localNames_append_remote {d : InputDescriptor} (hd : isRemote d.source = true) (n : Nat)
    (ds : List InputDescriptor) : localNames n (ds ++ [d]) = localNames n ds := by
  induction ds generalizing n with
  | nil => exact if_pos hd
  | cons d' ds ih => rw [List.cons_append, localNames, localNames, ih]

theorem Locates.destinations_nil {known : Option String} {t : List Event} {r : Except Halt String}
    (h : Locates known t r) : destinations t = [] := by
  cases h <;> rfl

theorem Locates.agrees {known : Option String} {t : List Event} {b : String}
    (h : Locates known t (.ok b)) : ∀ b' ∈ known, b' = b := by
  cases h <;> simp

namespace Normalizes

variable {job : String} {known : Option String} {n : Nat} {ds : List InputDescriptor}
    {t : List Event}
  {r : Except Halt (List InputDescriptor)}

theorem names {ds' : List InputDescriptor} (h : Normalizes job known n ds t (.ok ds')) :
    ds'.map (·.name) = (named inputName n (ds.map (·.name))).map some := by
  generalize hr : Except.ok ds' = r at h
  induction h generalizing ds' with
  | done known n => cases hr; rfl
  | @remote known n d ds t r hd rest ih =>
      cases r with
      | error h => cases hr
      | ok ds'' => cases hr; exact congrArg _ (ih rfl)
  | unlocated hd hb => cases hr
  | refused hd hb e => cases hr
  | @uploaded known n d ds t b u r hd hb source rest ih =>
      cases r with
      | error h => cases hr
      | ok ds'' => cases hr; exact congrArg _ (ih rfl)

/-- All uploads are to one bucket, in the order of the inputs; there are as many as were needed if
normalization succeeds. -/
theorem uploads (h : Normalizes job known n ds t r) :
    ∃ b, (∀ b' ∈ known, b' = b) ∧
      destinations t <+: (localNames n ds).map (fun name => remoteUri b [job, name]) ∧
      ∀ ds', r = .ok ds' →
        destinations t = (localNames n ds).map fun name => remoteUri b [job, name] := by
  -- once the bucket is known, what follows has no other
  induction h with
  | done known n => exact ⟨known.getD "", by cases known <;> simp, List.nil_prefix, fun _ _ => rfl⟩
  | @remote known n d ds t r hd rest ih =>
      obtain ⟨b, hb, hpre, hall⟩ := ih
      rw [localNames, if_pos hd]
      refine ⟨b, hb, hpre, ?_⟩
      intro ds' hr
      cases r with
      | error h => cases hr
      | ok ds'' => exact hall ds'' rfl
  | unlocated hd hb =>
      rw [hb.destinations_nil]
      cases hb
      exact ⟨"", by simp, List.nil_prefix, by simp⟩
  | @refused known n d ds t b hd hb e =>
      refine ⟨b, hb.agrees, ?_, by simp⟩
      rw [destinations_append, hb.destinations_nil, localNames, if_neg (by simp [hd])]
      exact ⟨_, rfl⟩
  | @uploaded known n d ds t b u r hd hb source rest ih =>
      obtain ⟨b', hb', hpre, hall⟩ := ih
      have he : b = b' := hb' b rfl
      subst he
      have hcons : destinations
          (t ++ .called (.upload d.source (remoteUri b [job, d.finalName n])) (.ok source) :: u) =
          remoteUri b [job, d.finalName n] :: destinations u := by
        rw [destinations_append, hb.destinations_nil]
        rfl
      rw [hcons, localNames, if_neg (by simp [hd])]
      refine ⟨b, hb.agrees, ?_, ?_⟩
      · exact List.cons_prefix_cons.2 ⟨rfl, hpre⟩
      · intro ds' hr
        cases r with
        | error h => cases hr
        | ok ds'' => exact congrArg _ (hall ds'' rfl)

theorem destinations_nodup (h : Normalizes job known n ds t r)
    (hds : ((localNames n ds).map slashless).Nodup) : (destinations t).Nodup := by
  obtain ⟨b, -, hpre, -⟩ := h.uploads
  exact (nodup_destinations_iff.2 hds).sublist hpre.sublist

end Normalizes

variable {σ : Type} (cs : Collaborators σ) (job : String)

theorem normalizeOutputsFrom_names {n : Nat} {outputs : List (Channel OutputDescriptor)}
    {ds : List OutputDescriptor}
    {s s' : Shared σ} (h : normalizeOutputsFrom cs job n outputs s = (.ok ds, s')) :
    ds.map (·.name) =
      (named outputName n (outputs.map (Channel.given OutputDescriptor.name))).map some := by
  induction outputs generalizing n ds s with
  | nil => cases h; rfl
  | cons c outputs ih =>
      obtain ⟨d, t, hd, h⟩ := bind_eq_ok h
      obtain ⟨rest, t', hrest, h⟩ := bind_eq_ok h
      cases h
      have hname := c.toOutput_name cs job hd
      rw [List.map_cons, ih hrest, List.map_cons, named, List.map_cons, ← hname]
      rfl

theorem localNames_nodup {names : List (Option String)} {ds : List InputDescriptor}
    (hgiven : names = ds.map (·.name)) (hA : Apart slashless inputName names) :
    ((localNames 1 ds).map slashless).Nodup := by
  have hall := (named_nodup_iff slashless_inputName_injective).2 hA
  rw [hgiven] at hall
  exact hall.sublist ((localNames_sublist 1 ds).map slashless)

theorem normalizeInputs_apart (inputs : List (Channel InputDescriptor)) (s : Shared σ) :
    ∃ t, Effect cs s t (normalizeInputs cs job inputs s).2 ∧
      (Apart slashless inputName (givenNames inputs) → (destinations t).Nodup) ∧
      ∀ ds, (normalizeInputs cs job inputs s).1 = .ok ds →
        ((ds.map (·.name)).Nodup ↔ Apart id inputName (givenNames inputs)) ∧
        ((destinations t).Nodup ↔
          ((localNames 1 (inputs.filterMap Channel.descriptor?)).map slashless).Nodup) := by
  obtain ⟨t, ht, ⟨h, hh, rfl⟩ | ⟨hgiven, hN⟩⟩ := normalizeInputs_normalizes cs job inputs s
  · refine ⟨[], ht, fun _ => List.nodup_nil, ?_⟩
    intro ds hds
    rw [hh] at hds
    cases hds
  · refine ⟨t, ht, fun hA => hN.destinations_nodup (localNames_nodup hgiven hA), ?_⟩
    intro ds hds
    obtain ⟨b, -, -, hall⟩ := hN.uploads
    rw [hds] at hN hall
    rw [hN.names, hall ds rfl, hgiven]
    exact ⟨named_some_nodup_iff inputName_injective _, nodup_destinations_iff⟩

theorem normalizeOutputs_apart {outputs : List (Channel OutputDescriptor)}
    {ds : List OutputDescriptor} {s : Shared σ}
    (h : (normalizeOutputs cs job outputs s).1 = .ok ds) :
    (ds.map (·.name)).Nodup ↔
      Apart id outputName (outputs.map (Channel.given OutputDescriptor.name)) := by
  rw [normalizeOutputsFrom_names cs job (Prod.ext h rfl)]
  exact named_some_nodup_iff outputName_injective _

section Scripts

open ScriptSource

/-- Every upload that succeeded was answered with a remote address. -/
def AnswersRemote (t : List Event) : Prop :=
  ∀ path uri address, .called (.upload path uri) (.ok address) ∈ t → isRemote address = true

theorem Ships.destinations_nodup {job : String} {source : ScriptSource} {known : Option String}
    {t : List Event}
    {r : Except Halt String} (hS : Ships job source known t r) : (destinations t).Nodup := by
  cases hS with
  | remote hr => exact List.nodup_nil
  | unlocated hr hb =>
      rw [hb.destinations_nil]
      exact List.nodup_nil
  | refused hr hb e =>
      rw [destinations_append, hb.destinations_nil]
      exact List.nodup_singleton _
  | uploaded hr hb address =>
      rw [destinations_append, hb.destinations_nil]
      exact List.nodup_singleton _

theorem Ships.destinations_ok {job : String} {source : ScriptSource} {known : Option String}
    {t : List Event} {address : String} (hS : Ships job source known t (.ok address)) :
    destinations t = [] ∧ isRemote address = true ∨
      ∃ b, known.or (located t) = some b ∧
        destinations t = [remoteUri b [job, Program.channelName]] ∧
        ∃ path uri, .called (.upload path uri) (.ok address) ∈ t := by
  cases hS with
  | remote hr => exact .inl ⟨rfl, hr⟩
  | @uploaded t b hr hb =>
      refine .inr ⟨b, or_located_append hb.settles _, ?_, _, _,
        List.mem_append_right _ (List.mem_singleton.2 rfl)⟩
      rw [destinations_append, hb.destinations_nil]
      rfl

theorem injected_nodup {names : List (Option String)} {ds : List InputDescriptor}
    (hgiven : names = ds.map (·.name))
    (hA : Apart slashless inputName (names ++ [some Program.channelName])) :
    ((Program.channelName :: localNames 1 ds).map slashless).Nodup := by
  have hall := (named_nodup_iff slashless_inputName_injective).2 hA
  rw [hgiven, named_append, List.map_append, List.nodup_append_comm, ← List.map_append] at hall
  exact hall.sublist (((localNames_sublist 1 ds).cons_cons _).map slashless)

theorem injected_destinations_nodup {source : ScriptSource} {known : Option String}
    {ds : List InputDescriptor}
    {t u : List Event} {address : String} {r : Except Halt (List InputDescriptor)}
    (hS : Ships job source known t (.ok address))
    (hN : Normalizes job (known.or (located t)) 1 (ds ++ [channel address]) u r)
    (hR : AnswersRemote t) (hA : ((Program.channelName :: localNames 1 ds).map slashless).Nodup) :
    (destinations (t ++ u)).Nodup := by
  obtain ⟨b, hb, hpre, -⟩ := hN.uploads
  have hall :
      ((Program.channelName :: localNames 1 ds).map fun name => remoteUri b [job, name]).Nodup :=
    nodup_destinations_iff.2 hA
  rw [destinations_append]
  rcases hS.destinations_ok with ⟨hown, hremote⟩ | ⟨b', hb', hown, path, uri, hup⟩
  · rw [localNames_append_remote (d := channel address) hremote] at hpre
    rw [hown]
    exact hall.sublist (hpre.sublist.cons _)
  · have hremote := hR path uri address hup
    rw [localNames_append_remote (d := channel address) hremote] at hpre
    have hsame : b' = b := hb b' hb'
    rw [hown, hsame]
    exact hall.sublist (hpre.sublist.cons_cons _)

theorem gather_apart (fs : File.System) (source : ScriptSource) (plan : Plan) (s : Shared σ) :
    ∃ t u, Effect cs s t (Staged.apply (source.hook cs fs) plan s).2 ∧
      Effect cs s (t ++ u) (plan.gather cs (source.hook cs fs) s).2 ∧
      (Apart slashless inputName (givenNames plan.inputs ++ [some Program.channelName]) →
        (destinations u).Nodup ∧ (AnswersRemote t → (destinations (t ++ u)).Nodup)) ∧
      ∀ plan' ds, (plan.gather cs (source.hook cs fs) s).1 = .ok (plan', ds) →
        ((ds.map (·.name)).Nodup ↔
          Apart id inputName (givenNames plan.inputs ++ [some Program.channelName])) := by
  obtain ⟨t, s', ht, ⟨h, hS, hx⟩ | ⟨address, program, hS, -, hx⟩⟩ := source.hook_ships cs fs plan s
  · have hown : (destinations t).Nodup := by
      rcases hS with rfl | hS
      · exact List.nodup_nil
      · exact hS.destinations_nodup
    rw [plan.gather_of_error cs hx, hx]
    refine ⟨t, [], ht, ht.trans (.refl s'), fun _ => ⟨List.nodup_nil, fun _ => ?_⟩, ?_⟩
    · rwa [List.append_nil]
    · intro plan' ds hds
      cases hds
  · have hlast : givenNames (plan.inputs ++ [.descriptor (channel address)]) =
        givenNames plan.inputs ++ [some Program.channelName] := List.map_append
    have hds :
        (plan.inputs ++ [Channel.descriptor (channel address)]).filterMap Channel.descriptor? =
        plan.inputs.filterMap Channel.descriptor? ++ [channel address] := List.filterMap_append
    rw [plan.gather_of_ok cs hx, hx]
    obtain ⟨u, hu, ⟨h, hh, rfl⟩ | ⟨hgiven, hN⟩⟩ :=
      normalizeInputs_normalizes cs plan.jobName (plan.inputs ++ [.descriptor (channel address)]) s'
    · refine ⟨t, [], ht, ht.trans hu, fun _ => ⟨List.nodup_nil, fun _ => ?_⟩, ?_⟩
      · rw [List.append_nil]
        exact hS.destinations_nodup
      · intro plan' ds hok
        rw [hh] at hok
        cases hok
    · rw [← hlast]
      refine ⟨t, u, ht, ht.trans hu, fun hA => ⟨?_, fun hR => ?_⟩, ?_⟩
      · exact hN.destinations_nodup (localNames_nodup hgiven hA)
      · rw [hlast] at hA hgiven
        rw [hds] at hN hgiven
        rw [List.map_append] at hgiven
        have hinjected := injected_nodup (List.append_cancel_right hgiven) hA
        exact injected_destinations_nodup plan.jobName hS (ht.bucket ▸ hN) hR hinjected
      · intro plan' ds hok
        obtain ⟨ds', hds', heq⟩ := map_eq_ok hok
        cases heq
        rw [hds'] at hN
        rw [hN.names, hgiven]
        exact named_some_nodup_iff inputName_injective _

end Scripts

/-- Inputs and outputs have distinct names once they are normalized if and only if the names that
were given are distinct and none of them is the one made for a channel without a name. Local inputs
are uploaded to distinct addresses if this holds also without the slashes around names, and, where
all goes well, exactly if the names of the local inputs differ without them. A script counts as an
input that was given its channel's name. -/
theorem channels_stay_apart (s : Shared σ) :
    (∀ inputs, ∃ t, Effect cs s t (normalizeInputs cs job inputs s).2 ∧
      (Apart slashless inputName (givenNames inputs) → (destinations t).Nodup) ∧
      ∀ ds, (normalizeInputs cs job inputs s).1 = .ok ds →
        ((ds.map (·.name)).Nodup ↔ Apart id inputName (givenNames inputs)) ∧
        ((destinations t).Nodup ↔
          ((localNames 1 (inputs.filterMap Channel.descriptor?)).map slashless).Nodup)) ∧
    (∀ fs (source : ScriptSource) (plan : Plan), ∃ t u,
      Effect cs s t (Staged.apply (source.hook cs fs) plan s).2 ∧
      Effect cs s (t ++ u) (plan.gather cs (source.hook cs fs) s).2 ∧
      (Apart slashless inputName (givenNames plan.inputs ++ [some Program.channelName]) →
        (destinations u).Nodup ∧ (AnswersRemote t → (destinations (t ++ u)).Nodup)) ∧
      ∀ plan' ds, (plan.gather cs (source.hook cs fs) s).1 = .ok (plan', ds) →
        ((ds.map (·.name)).Nodup ↔
          Apart id inputName (givenNames plan.inputs ++ [some Program.channelName]))) ∧
    ∀ outputs ds, (normalizeOutputs cs job outputs s).1 = .ok ds →
      ((ds.map (·.name)).Nodup ↔
        Apart id outputName (outputs.map (Channel.given OutputDescriptor.name))) :=
  ⟨fun inputs => normalizeInputs_apart cs job inputs s,
    fun fs source plan => gather_apart cs fs source plan s,
    fun _ _ hds => normalizeOutputs_apart cs job hds⟩

def localInput (name : Option String) (source : String) : Channel InputDescriptor :=
  .descriptor { name, source, destination := "/opt/" ++ source }

def mixedInputs : List (Channel InputDescriptor) :=
  [localInput none "a", localInput (some "input-2/") "b", localInput none "c"]

def mixedPlan : Plan := { jobName := "job", inputs := mixedInputs }

def scriptFiles : File.System := ⟨.directory [("run.py", .file [])], []⟩

def localScript : ScriptSource := { source := "run.py", tag := defaultTag }

section LocalScript

open File Script

theorem scriptFiles_lookup : scriptFiles.lookup "run.py" = .ok (.file []) := by
  have hnames : System.names "run.py" = ["run.py"] := by decide +kernel
  have hstep : System.follow scriptFiles.root System.maxLinks [] ["run.py"] = .ok ["run.py"] := by
    rw [System.follow_child (n := .file []) (by decide +kernel) (by decide) (by decide) rfl (by simp)]
    exact System.follow_nil ..
  have hresolve : scriptFiles.resolve "run.py" = .ok ["run.py"] := by
    rw [System.resolve, hnames]
    exact hstep
  rw [System.lookup, hresolve]
  rfl

theorem localScript_resolve : Program.resolve scriptFiles localScript =
    .ok { script := "run.py", entrypoint := ["python3", "/code/source/run.py"] } := by
  have hname : Program.scriptName scriptFiles "run.py" none = .ok "run.py" := by
    rw [Program.scriptName, System.isDirectory, System.isFile, scriptFiles_lookup]
    decide +kernel
  rw [Program.resolve, localScript, hname]
  decide +kernel

theorem localScript_hook :
    (Staged.apply (localScript.hook collaborators scriptFiles) mixedPlan { world := {} }).2.trace =
      [.called .defaultBucket (.ok "bucket"),
        .called (.upload "run.py" "s3://bucket/job/source") (.ok "s3://bucket/job/source")] := by
  rw [Staged.apply_hook, localScript_resolve]
  rfl

theorem mixed_inputs_stay_apart :
    (∃ t, Effect collaborators { world := {} } t
        (normalizeInputs collaborators "job" mixedInputs { world := {} }).2 ∧ (destinations t).Nodup) ∧
      ∃ t u, Effect collaborators { world := {} } (t ++ u)
          (mixedPlan.gather collaborators (localScript.hook collaborators scriptFiles) { world := {} }).2 ∧
        t ≠ [] ∧ AnswersRemote t ∧ (destinations (t ++ u)).Nodup := by
  obtain ⟨hinputs, hscripts, -⟩ := channels_stay_apart collaborators "job" { world := {} }
  constructor
  · obtain ⟨t, ht, hA, -⟩ := hinputs mixedInputs
    have hnamed : ((named inputName 1 (givenNames mixedInputs)).map slashless).Nodup := by
      decide +kernel
    exact ⟨t, ht, hA ((named_nodup_iff slashless_inputName_injective).1 hnamed)⟩
  · obtain ⟨t, u, ht, hu, hA, -⟩ := hscripts scriptFiles localScript mixedPlan
    have hnamed : ((named inputName 1
        (givenNames mixedInputs ++ [some Program.channelName])).map slashless).Nodup := by
      decide +kernel
    have htrace := ht.trace
    rw [localScript_hook, List.nil_append] at htrace
    have hremote : AnswersRemote t := by
      intro path uri address hup
      rw [← htrace] at hup
      rcases List.mem_cons.1 hup with hbucket | hup
      · cases hbucket
      · cases List.mem_singleton.1 hup
        decide +kernel
    refine ⟨t, u, hu, by simp [← htrace], hremote, ?_⟩
    exact (hA ((named_nodup_iff slashless_inputName_injective).1 hnamed)).2 hremote

end LocalScript

def takenInputs : List (Channel InputDescriptor) :=
  [localInput (some "input-2") "a", localInput none "b"]

def slashedInputs : List (Channel InputDescriptor) :=
  [localInput (some "data") "a", localInput (some "data/") "b"]

/-- A given name can be the one that another input gets by its position, and names that differ by a
slash lead to one address. -/
theorem distinct_names_meet :
    let taken := normalizeInputs Script.collaborators "job" takenInputs { world := {} }
    let slashed := normalizeInputs Script.collaborators "job" slashedInputs { world := {} }
    ((givenNames takenInputs).filterMap id).Nodup ∧
      (taken.1.toOption.map fun ds => ds.map (·.name)) = some [some "input-2", some "input-2"] ∧
      destinations taken.2.trace = ["s3://bucket/job/input-2", "s3://bucket/job/input-2"] ∧
      ((givenNames slashedInputs).filterMap id).Nodup ∧
      (slashed.1.toOption.map fun ds => ds.map (·.name)) = some [some "data", some "data/"] ∧
      destinations slashed.2.trace = ["s3://bucket/job/data", "s3://bucket/job/data"] := by
  decide +kernel

end Dispatch
