import Dispatch.Proofs.Names
import Dispatch.Proofs.Placement

namespace Dispatch

open Activity Storage

/-- An input with nothing left to be found out: it has a name, and its source is remote. -/
structure InputDescriptor.IsWhole (d : InputDescriptor) : Prop where
  named : d.name.isSome = true
  remote : isRemote d.source = true

section Answers

variable {t u : List Event} {job b : String} {n : Nat} {xs : List Sourced}

theorem answersRemote_nil : AnswersRemote [] := nofun

theorem answersRemote_append : AnswersRemote (t ++ u) ↔ AnswersRemote t ∧ AnswersRemote u := by
  simp only [AnswersRemote, List.mem_append, or_imp, forall_and]

theorem Locates.answersRemote {known : Option String} {r : Except Halt String} (h : Locates known t r) :
    AnswersRemote t := by
  cases h <;> simp [AnswersRemote]

theorem Sourced.answersRemote_uploads (x : Sourced) :
    AnswersRemote (x.uploads n job b) ↔ isRemote x.source = true := by
  cases hx : isRemote x.input.source with
  | true =>
      rw [Sourced.uploads, if_pos hx, x.own hx]
      exact iff_of_true answersRemote_nil hx
  | false =>
      rw [Sourced.uploads, if_neg (by simp [hx])]
      constructor
      · intro h
        exact h _ _ _ List.mem_cons_self
      · intro h path uri address hup
        cases List.mem_singleton.1 hup
        exact h

theorem answersRemote_uploads :
    AnswersRemote (uploads job b n xs) ↔ ∀ x ∈ xs, isRemote x.source = true := by
  induction xs generalizing n with
  | nil => exact iff_of_true answersRemote_nil nofun
  | cons x xs ih =>
      rw [uploads_cons, answersRemote_append, x.answersRemote_uploads, ih, List.forall_mem_cons]

theorem Sourced.whole_isWhole (x : Sourced) : (x.whole n).IsWhole ↔ isRemote x.source = true :=
  ⟨InputDescriptor.IsWhole.remote, fun h => ⟨rfl, h⟩⟩

theorem wholes_isWhole : (∀ d ∈ wholes n xs, d.IsWhole) ↔ ∀ x ∈ xs, isRemote x.source = true := by
  induction xs generalizing n with
  | nil => exact iff_of_true nofun nofun
  | cons x xs ih =>
      change (∀ d ∈ x.whole n :: wholes (n + 1) xs, d.IsWhole) ↔ _
      rw [List.forall_mem_cons, List.forall_mem_cons, x.whole_isWhole, ih]

/-- What settled inputs lack is a remote answer to their upload, and nothing else. -/
theorem Settles.isWhole_iff {known : Option String} {ds ds' : List InputDescriptor}
    (h : Settles job known n ds t (.ok ds')) : (∀ d ∈ ds', d.IsWhole) ↔ AnswersRemote t := by
  cases h with
  | unasked xs hxs hr =>
      refine iff_of_true (wholes_isWhole.2 ?_) answersRemote_nil
      intro x hx
      have hinput := hr x.input (hxs ▸ List.mem_map_of_mem hx)
      rwa [x.own hinput]
  | uploaded xs hxs hl hb =>
      rw [wholes_isWhole, answersRemote_append, answersRemote_uploads]
      exact (and_iff_right hb.answersRemote).symm

end Answers

section Inert

variable {σ : Type} (cs : Collaborators σ) (job : String)

theorem InputDescriptor.IsWhole.normalize {d : InputDescriptor} (h : d.IsWhole) (n : Nat) :
    d.normalize cs job n = pure d := by
  obtain ⟨name, hname⟩ := Option.isSome_iff_exists.1 h.named
  have hself : d.withName (d.finalName n) = d := by
    rw [withName, finalName, hname, Option.getD_some, ← hname]
  rw [normalize_remote cs job h.remote, hself]

theorem normalizeInputsFrom_of_whole {ds : List InputDescriptor} (h : ∀ d ∈ ds, d.IsWhole) (n : Nat) :
    normalizeInputsFrom cs job n ds = pure ds := by
  induction ds generalizing n with
  | nil => rfl
  | cons d ds ih =>
      obtain ⟨hd, hds⟩ := List.forall_mem_cons.1 h
      rw [normalizeInputsFrom, hd.normalize, pure_bind, ih hds, pure_bind]

theorem normalizeInputs_eq_self_iff {ds : List InputDescriptor} {s : Shared σ} :
    normalizeInputs cs job (ds.map .descriptor) s = (.ok ds, s) ↔ ∀ d ∈ ds, d.IsWhole := by
  rw [normalizeInputs_descriptors]
  constructor
  · intro h
    obtain ⟨t, ht, hN⟩ := normalizeInputsFrom_normalizes cs job 1 ds s
    rw [h] at ht hN
    have hnone : t = [] := List.self_eq_append_right.1 ht.trace
    exact hN.settles.isWhole_iff.2 (hnone ▸ answersRemote_nil)
  · intro h
    rw [normalizeInputsFrom_of_whole cs job h]
    rfl

end Inert

theorem Channel.placed_of_named {d : OutputDescriptor} (h : d.name.isSome = true) (address : String)
    (n : Nat) : (Channel.descriptor d).placed address n = d := by
  obtain ⟨name, hname⟩ := Option.isSome_iff_exists.1 h
  rw [placed, OutputDescriptor.withName, hname, Option.getD_some, ← hname]

theorem placements_of_named {ds : List OutputDescriptor} (h : ∀ d ∈ ds, d.name.isSome = true)
    (address : String) (n : Nat) : placements address n (ds.map .descriptor) = ds := by
  apply List.ext_getElem?
  intro k
  rw [placements_getElem?, List.getElem?_map]
  cases hk : ds[k]? with
  | none => rfl
  | some d => exact congrArg some (Channel.placed_of_named (h d (List.mem_of_getElem? hk)) address _)

theorem named_of_normalizeOutputs {σ : Type} (cs : Collaborators σ) (job : String)
    {outputs : List (Channel OutputDescriptor)} {ds : List OutputDescriptor} {s : Shared σ}
    (h : (normalizeOutputs cs job outputs s).1 = .ok ds) : ∀ d ∈ ds, d.name.isSome = true := by
  have hnames := normalizeOutputsFrom_names cs job (Prod.ext h rfl)
  intro d hd
  obtain ⟨name, -, hname⟩ := List.mem_map.1 (hnames ▸ List.mem_map_of_mem hd)
  rw [← hname]
  rfl

/-- Normalization is done once. What it made of outputs it leaves as it is, in any session and under any
job name, without a call; and it does the same with what it made of inputs if every upload was answered by
a remote address, and in no session if one was not. -/
theorem normalized_channels_stay {σ : Type} (cs : Collaborators σ) (job : String) (s : Shared σ) :
    (∀ inputs ds, (normalizeInputs cs job inputs s).1 = .ok ds →
      ∃ t, Effect cs s t (normalizeInputs cs job inputs s).2 ∧
        ∀ {τ : Type} (cs' : Collaborators τ) (job' : String) (s' : Shared τ),
          normalizeInputs cs' job' (ds.map .descriptor) s' = (.ok ds, s') ↔ AnswersRemote t) ∧
    ∀ outputs ds, (normalizeOutputs cs job outputs s).1 = .ok ds →
      ∀ {τ : Type} (cs' : Collaborators τ) (job' : String) (s' : Shared τ),
        normalizeOutputs cs' job' (ds.map .descriptor) s' = (.ok ds, s') := by
  constructor
  · intro inputs ds hds
    obtain ⟨t, ht, ⟨h, hh, -⟩ | ⟨-, hN⟩⟩ := normalizeInputs_normalizes cs job inputs s
    · rw [hh] at hds
      cases hds
    · rw [hds] at hN
      refine ⟨t, ht, fun cs' job' s' => ?_⟩
      rw [normalizeInputs_eq_self_iff, hN.settles.isWhole_iff]
  · intro outputs ds hds τ cs' job' s'
    rw [normalizeOutputs_descriptors cs' job' ds "",
      placements_of_named (named_of_normalizeOutputs cs job hds)]

def mixedOutputs : List (Channel OutputDescriptor) :=
  [.path "/opt/out", .descriptor { source := "/opt/eval", destination := "s3://other/eval" }]

theorem mixed_uploads_answer_remote {t : List Event}
    (h : Effect Script.collaborators { world := {} } t
      (normalizeInputs Script.collaborators "job" mixedInputs { world := {} }).2) : AnswersRemote t := by
  have htrace : (normalizeInputs Script.collaborators "job" mixedInputs { world := {} }).2.trace =
      [.called .defaultBucket (.ok "bucket"),
        .called (.upload "a" "s3://bucket/job/input-1") (.ok "s3://bucket/job/input-1"),
        .called (.upload "b" "s3://bucket/job/input-2") (.ok "s3://bucket/job/input-2"),
        .called (.upload "c" "s3://bucket/job/input-3") (.ok "s3://bucket/job/input-3")] := rfl
  rw [h.trace, List.nil_append] at htrace
  intro path uri address hup
  simp only [htrace, List.mem_cons, List.not_mem_nil, or_false] at hup
  rcases hup with hup | hup | hup | hup <;> cases hup <;> decide +kernel

theorem mixed_channels_stay :
    let refusing : Shared Script := { world := { buckets := [.error (.api 500 "no bucket")] } }
    (∃ ds, (normalizeInputs Script.collaborators "job" mixedInputs { world := {} }).1 = .ok ds ∧
      ds.length = 3 ∧
      normalizeInputs Script.collaborators "other" (ds.map .descriptor) refusing = (.ok ds, refusing)) ∧
    ∃ ds, (normalizeOutputs Script.collaborators "job" mixedOutputs { world := {} }).1 = .ok ds ∧
      ds.length = 2 ∧
      normalizeOutputs Script.collaborators "other" (ds.map .descriptor) refusing = (.ok ds, refusing) := by
  intro refusing
  obtain ⟨hinputs, houtputs⟩ := normalized_channels_stay Script.collaborators "job" { world := {} }
  constructor
  · refine ⟨_, rfl, rfl, ?_⟩
    obtain ⟨t, ht, hstay⟩ := hinputs mixedInputs _ rfl
    exact (hstay Script.collaborators "other" refusing).2 (mixed_uploads_answer_remote ht)
  · exact ⟨_, rfl, rfl, houtputs mixedOutputs _ rfl Script.collaborators "other" refusing⟩

end Dispatch
