import Mathlib.Data.List.Forall2
import Dispatch.Proofs.Faults
import Dispatch.Proofs.RoundTrip

namespace Dispatch

open Json Storage

theorem mapM_eq_error_iff {α β ε : Type} {f : α → Except ε β} {as : List α} {e : ε} :
    as.mapM f = .error e ↔ ∃ before a after, as = before ++ a :: after ∧
      (∀ b ∈ before, ∃ y, f b = .ok y) ∧ f a = .error e := by
  induction as with
  | nil => simp [pure, Except.pure]
  | cons a as ih =>
      rw [List.mapM_cons]
      cases ha : f a with
      | error e' =>
          constructor
          · rintro ⟨⟩
            exact ⟨[], a, as, rfl, nofun, ha⟩
          · rintro ⟨before, b, after, heq, hbefore, hb⟩
            cases before with
            | nil =>
                obtain ⟨rfl, rfl⟩ := List.cons.inj heq
                rw [ha] at hb
                cases hb
                rfl
            | cons b' before =>
                obtain ⟨rfl, rfl⟩ := List.cons.inj heq
                obtain ⟨y, hy⟩ := hbefore a List.mem_cons_self
                rw [ha] at hy
                cases hy
      | ok y =>
          have hrest : (Except.ok y >>= fun y => as.mapM f >>= fun ys => pure (y :: ys)) = .error e ↔
              as.mapM f = .error e := by
            cases as.mapM f <;> simp [bind, Except.bind, pure, Except.pure]
          rw [hrest, ih]
          constructor
          · rintro ⟨before, b, after, rfl, hbefore, hb⟩
            exact ⟨a :: before, b, after, rfl, List.forall_mem_cons.2 ⟨⟨y, ha⟩, hbefore⟩, hb⟩
          · rintro ⟨before, b, after, heq, hbefore, hb⟩
            cases before with
            | nil =>
                obtain ⟨rfl, rfl⟩ := List.cons.inj heq
                rw [ha] at hb
                cases hb
            | cons b' before =>
                obtain ⟨rfl, rfl⟩ := List.cons.inj heq
                exact ⟨before, b, after, rfl, (List.forall_mem_cons.1 hbefore).2, hb⟩

theorem mapM_eq_ok_iff {α β ε : Type} {f : α → Except ε β} {as : List α} {bs : List β} :
    as.mapM f = .ok bs ↔ List.Forall₂ (fun a b => f a = .ok b) as bs := by
  induction as generalizing bs with
  | nil => cases bs <;> simp [pure, Except.pure]
  | cons a as ih =>
      rw [List.mapM_cons]
      cases ha : f a with
      | error e => cases bs <;> simp [bind, Except.bind, ha]
      | ok b =>
          cases has : as.mapM f with
          | error e => cases bs <;> simp [bind, Except.bind, ← ih, has, ha]
          | ok bs' => cases bs <;> simp [bind, Except.bind, pure, Except.pure, ← ih, has, ha]

/-- The fault of an input that is compressed and not streamed, under the name of the input, or else its
source. -/
structure InputDescriptor.Faults (d : InputDescriptor) (e : ValidationError) : Prop where
  compressed : d.compression = some .gzip
  notStreamed : d.inputMode ≠ .pipe
  named : e = .compressedNotStreamed (d.name.getD d.source) d.inputMode

theorem InputDescriptor.fragment_error_iff {d : InputDescriptor} {e : ValidationError} :
    d.fragment = .error e ↔ d.Faults e := by
  unfold fragment
  constructor
  · intro h
    split at h
    · cases h
    · next hd =>
        cases h
        obtain ⟨hc, hm⟩ := Classical.not_imp.1 hd
        exact ⟨hc, hm, rfl⟩
  · rintro ⟨hc, hm, rfl⟩
    exact if_neg fun hd => hm (hd hc)

theorem InputDescriptor.isConsistent_iff {d : InputDescriptor} :
    d.IsConsistent ↔ ¬ (d.compression = some .gzip ∧ d.inputMode ≠ .pipe) := by
  unfold IsConsistent
  tauto

theorem Request.build_eq (c : Configuration) (job : NormalizedJob) :
    Request.build c job = (job.inputs.mapM InputDescriptor.fragment).map fun inputs =>
      { inputs
        outputs := job.outputs.map OutputDescriptor.fragment
        jobName := job.name
        cluster := ⟨c.instanceType, c.instanceCount, c.volumeSize, c.volumeKey⟩
        maxRuntime := c.maxRuntime
        application := ⟨c.image, c.arguments, job.entrypoint.or c.entrypoint⟩
        environment := c.environment
        network := c.network.map Network.fragment
        role := c.role
        tags := c.tags } := by
  unfold Request.build
  cases job.inputs.mapM InputDescriptor.fragment <;> rfl

/-- The request cannot be put into words exactly where an input cannot; the first one counts. -/
theorem Request.build_error_iff {c : Configuration} {job : NormalizedJob} {e : ValidationError} :
    Request.build c job = .error e ↔ ∃ before d after, job.inputs = before ++ d :: after ∧
      (∀ b ∈ before, b.IsConsistent) ∧ d.Faults e := by
  have hfault : Request.build c job = .error e ↔ job.inputs.mapM InputDescriptor.fragment = .error e := by
    rw [build_eq]
    cases job.inputs.mapM InputDescriptor.fragment <;> simp [Except.map]
  rw [hfault, mapM_eq_error_iff]
  simp only [fragment_ok_iff, InputDescriptor.fragment_error_iff]

theorem Request.exists_build_iff {c : Configuration} {job : NormalizedJob} :
    (∃ q, Request.build c job = .ok q) ↔ ∀ d ∈ job.inputs, d.IsConsistent := by
  constructor
  · rintro ⟨q, hq⟩
    exact mapM_fragment_consistent (Job.createdBy_build hq none).inputs
  · intro h
    cases hq : Request.build c job with
    | ok q => exact ⟨q, rfl⟩
    | error e =>
        obtain ⟨before, d, after, hinputs, -, hd⟩ := Request.build_error_iff.1 hq
        have hconsistent := h d (hinputs ▸ List.mem_append_right _ List.mem_cons_self)
        exact absurd (hconsistent hd.compressed) hd.notStreamed

def InputFragment.descriptor (f : InputFragment) : InputDescriptor :=
  { name := f.name, source := f.uri, destination := f.localPath, dataType := f.dataType
    inputMode := f.inputMode, downloadMode := f.downloadMode, distribution := f.distribution
    compression := f.compression }

def OutputFragment.descriptor (f : OutputFragment) : OutputDescriptor :=
  { name := f.name, source := f.localPath, destination := f.uri, encryptionKey := f.encryptionKey
    uploadMode := f.uploadMode }

theorem InputDescriptor.descriptor_fragment {d : InputDescriptor} {f : InputFragment}
    (h : d.fragment = .ok f) : f.descriptor = d := by
  unfold fragment at h
  split at h
  · cases h
    rfl
  · cases h

theorem InputDescriptor.map_descriptor {ds : List InputDescriptor} {fs : List InputFragment}
    (h : ds.mapM fragment = .ok fs) : ds = fs.map InputFragment.descriptor := by
  have hall := mapM_eq_ok_iff.1 h
  clear h
  induction hall with
  | nil => rfl
  | cons hd _ ih => rw [List.map_cons, ← ih, descriptor_fragment hd]

def Network.lists? (n : Network) : Option (List String × List String) := do
  return (← n.securityGroups, ← n.subnets)

def Network.settings (n : Network) : Bool × Option Bool × Option (List String × List String) :=
  (n.isolated, n.encryptTraffic, n.lists?)

theorem Network.vpc_fragment (n : Network) : n.fragment.vpc = n.lists?.map fun l => ⟨l.1, l.2⟩ := by
  unfold fragment lists?
  cases n.securityGroups <;> cases n.subnets <;> rfl

theorem Network.fragment_eq_iff {n n' : Network} : n.fragment = n'.fragment ↔ n.settings = n'.settings := by
  have hvpc : n.fragment.vpc = n'.fragment.vpc ↔ n.lists? = n'.lists? := by
    rw [n.vpc_fragment, n'.vpc_fragment]
    cases n.lists? <;> cases n'.lists? <;> simp [Prod.ext_iff]
  have hfragment : n.fragment = n'.fragment ↔ n.isolated = n'.isolated ∧
      n.encryptTraffic = n'.encryptTraffic ∧ n.fragment.vpc = n'.fragment.vpc := by
    unfold fragment
    simp only [NetworkFragment.mk.injEq]
  rw [hfragment, hvpc, settings, settings, Prod.ext_iff, Prod.ext_iff]

theorem Network.map_fragment_eq_iff {n? n'? : Option Network} :
    n?.map fragment = n'?.map fragment ↔ n?.map settings = n'?.map settings := by
  cases n? <;> cases n'? <;> simp [fragment_eq_iff]

/-- Two jobs, each with its configuration, agree in all that a payload says of them. -/
structure Agree (c : Configuration) (job : NormalizedJob) (c' : Configuration) (job' : NormalizedJob) :
    Prop where
  name : job.name = job'.name
  inputs : job.inputs = job'.inputs
  outputs : job.outputs = job'.outputs
  entrypoint : job.entrypoint.or c.entrypoint = job'.entrypoint.or c'.entrypoint
  role : c.role = c'.role
  image : c.image = c'.image
  instanceType : c.instanceType = c'.instanceType
  instanceCount : c.instanceCount = c'.instanceCount
  volumeSize : c.volumeSize = c'.volumeSize
  volumeKey : c.volumeKey = c'.volumeKey
  maxRuntime : c.maxRuntime = c'.maxRuntime
  environment : c.environment = c'.environment
  tags : c.tags = c'.tags
  arguments : c.arguments = c'.arguments
  network : c.network.map Network.settings = c'.network.map Network.settings

/-- The payload has everything that it says from the job and its configuration. -/
structure Request.Holds (q : Request) (c : Configuration) (job : NormalizedJob) : Prop where
  name : job.name = q.jobName
  inputs : job.inputs = q.inputs.map InputFragment.descriptor
  outputs : job.outputs = q.outputs.map OutputFragment.descriptor
  entrypoint : job.entrypoint.or c.entrypoint = q.application.entrypoint
  role : c.role = q.role
  image : c.image = q.application.image
  cluster : (⟨c.instanceType, c.instanceCount, c.volumeSize, c.volumeKey⟩ : Cluster) = q.cluster
  maxRuntime : c.maxRuntime = q.maxRuntime
  environment : c.environment = q.environment
  tags : c.tags = q.tags
  arguments : c.arguments = q.application.arguments
  network : c.network.map Network.fragment = q.network

theorem Request.holds_of_build {c : Configuration} {job : NormalizedJob} {q : Request}
    (h : Request.build c job = .ok q) : q.Holds c job := by
  rw [build_eq] at h
  cases hinputs : job.inputs.mapM InputDescriptor.fragment with
  | error e =>
      rw [hinputs] at h
      cases h
  | ok inputs =>
      rw [hinputs] at h
      cases h
      refine ⟨rfl, ?_, ?_, rfl, rfl, rfl, rfl, rfl, rfl, rfl, rfl, rfl⟩
      · exact InputDescriptor.map_descriptor hinputs
      · rw [List.map_map]
        exact (List.map_id _).symm

theorem Request.Holds.agree {c c' : Configuration} {job job' : NormalizedJob} {q : Request}
    (h : q.Holds c job) (h' : q.Holds c' job') : Agree c job c' job' := by
  have hcluster := h.cluster.trans h'.cluster.symm
  simp only [Cluster.mk.injEq] at hcluster
  obtain ⟨htype, hcount, hsize, hkey⟩ := hcluster
  refine ⟨h.name.trans h'.name.symm, h.inputs.trans h'.inputs.symm, h.outputs.trans h'.outputs.symm,
    h.entrypoint.trans h'.entrypoint.symm, h.role.trans h'.role.symm, h.image.trans h'.image.symm,
    htype, hcount, hsize, hkey, h.maxRuntime.trans h'.maxRuntime.symm,
    h.environment.trans h'.environment.symm, h.tags.trans h'.tags.symm,
    h.arguments.trans h'.arguments.symm,
    Network.map_fragment_eq_iff.1 (h.network.trans h'.network.symm)⟩

theorem Agree.build_eq {c c' : Configuration} {job job' : NormalizedJob} (h : Agree c job c' job') :
    Request.build c job = Request.build c' job' := by
  rw [Request.build_eq, Request.build_eq, h.name, h.inputs, h.outputs, h.entrypoint, h.role, h.image,
    h.instanceType, h.instanceCount, h.volumeSize, h.volumeKey, h.maxRuntime, h.environment, h.tags,
    h.arguments, Network.map_fragment_eq_iff.2 h.network]

attribute [local simp] Json.at? List.lookup_cons

/-- The source of an input is the address, its destination the place in the container. -/
structure InputDescriptor.ShownIn (d : InputDescriptor) (j : Json) : Prop where
  name : j.at? ["InputName"] = some (orNull .text d.name)
  source : j.at? ["S3Input", "S3Uri"] = some (.text d.source)
  destination : j.at? ["S3Input", "LocalPath"] = some (.text d.destination)
  dataType : j.at? ["S3Input", "S3DataType"] = some (ofNamed d.dataType)
  inputMode : j.at? ["S3Input", "S3InputMode"] = some (ofNamed d.inputMode)
  downloadMode : j.at? ["S3Input", "S3DownloadMode"] = some (ofNamed d.downloadMode)
  distribution : j.at? ["S3Input", "S3DataDistributionType"] = some (ofNamed d.distribution)
  compression : j.at? ["S3Input", "S3CompressionType"] = d.compression.map ofNamed

structure OutputDescriptor.ShownIn (d : OutputDescriptor) (j : Json) : Prop where
  name : j.at? ["OutputName"] = some (orNull .text d.name)
  source : j.at? ["S3Output", "LocalPath"] = some (.text d.source)
  destination : j.at? ["S3Output", "S3Uri"] = some (.text d.destination)
  uploadMode : j.at? ["S3Output", "S3UploadMode"] = some (ofNamed d.uploadMode)
  encryptionKey : j.at? ["S3Output", "KmsKeyId"] = d.encryptionKey.map .text

structure Network.ShownIn (n : Network) (j : Json) : Prop where
  isolated : j.at? ["EnableNetworkIsolation"] = some (.bool n.isolated)
  encryptTraffic : j.at? ["EnableInterContainerTrafficEncryption"] = n.encryptTraffic.map .bool
  vpc : j.at? ["VpcConfig"] =
    n.lists?.map fun l => .record [("SecurityGroupIds", texts l.1), ("Subnets", texts l.2)]

/-- Where a payload has what it says of a job and its configuration. -/
structure Shows (j : Json) (c : Configuration) (job : NormalizedJob) : Prop where
  name : j.at? ["ProcessingJobName"] = some (.text job.name)
  inputs : ∃ items, j.at? ["InputDataConfig"] = some (.array items) ∧
    List.Forall₂ InputDescriptor.ShownIn job.inputs items
  outputs : ∃ items, j.at? ["OutputDataConfig"] = some (.array items) ∧
    List.Forall₂ OutputDescriptor.ShownIn job.outputs items
  entrypoint : j.at? ["AppSpecification", "ContainerEntrypoint"] =
    (job.entrypoint.or c.entrypoint).map texts
  role : j.at? ["RoleArn"] = some (.text c.role)
  image : j.at? ["AppSpecification", "ImageUri"] = some (.text c.image)
  instanceType : j.at? ["ProcessingResources", "ClusterConfig", "InstanceType"] =
    some (.text c.instanceType)
  instanceCount : j.at? ["ProcessingResources", "ClusterConfig", "InstanceCount"] =
    some (.nat c.instanceCount.toNat)
  volumeSize : j.at? ["ProcessingResources", "ClusterConfig", "VolumeSizeInGB"] =
    some (.nat c.volumeSize.toNat)
  volumeKey : j.at? ["ProcessingResources", "ClusterConfig", "VolumeKmsKeyId"] = c.volumeKey.map .text
  maxRuntime : j.at? ["StoppingCondition", "MaxRuntimeInSeconds"] = some (.nat c.maxRuntime.toNat)
  environment : ∃ entries, (∀ e, c.environment = some e → entries.Perm e.entries) ∧
    j.at? ["Environment"] = c.environment.map fun _ => Environment.listed entries
  tags : j.at? ["Tags"] = c.tags.map Tag.listToJson
  arguments : j.at? ["AppSpecification", "ContainerArguments"] = c.arguments.map texts
  network : ∃ policy, j.at? ["NetworkConfig"] = some policy ∧
    (c.network = none → policy = .null) ∧ ∀ n, c.network = some n → n.ShownIn policy

theorem InputFragment.shownIn (f : InputFragment) : f.descriptor.ShownIn f.toJson := by
  constructor
  case compression => exact f.shown
  all_goals simp [toJson, descriptor]

theorem OutputFragment.shownIn (f : OutputFragment) : f.descriptor.ShownIn f.toJson := by
  constructor
  case encryptionKey => exact f.shown
  all_goals simp [toJson, descriptor]

theorem Network.shownIn_fragment (n : Network) : n.ShownIn n.fragment.toJson := by
  refine ⟨by simp [NetworkFragment.toJson, fragment], n.fragment.shown.1, ?_⟩
  rw [n.fragment.shown.2, n.vpc_fragment, Option.map_map]
  rfl

theorem Cluster.shown_all (c : Cluster) :
    c.toJson.at? ["InstanceType"] = some (.text c.instanceType) ∧
      c.toJson.at? ["InstanceCount"] = some (.nat c.instanceCount.toNat) ∧
      c.toJson.at? ["VolumeSizeInGB"] = some (.nat c.volumeSize.toNat) := by
  simp [toJson]

theorem Json.at?_replace_self (j new : Json) (name : String) :
    (j.replace name new).at? [name] = (j.at? [name]).map fun _ => new := by
  cases j with
  | object members =>
      simp only [at?, List.foldlM_cons, List.foldlM_nil, replace, member?, bind_pure]
      induction members with
      | nil => rfl
      | cons m rest ih =>
          obtain ⟨key, value⟩ := m
          rw [List.map_cons]
          by_cases hkey : some name = key
          · subst hkey
            simp
          · simp [List.lookup_cons, beq_false_of_ne hkey, Ne.symm hkey, ih]
  | _ => rfl

theorem Json.at?_replace_of_ne (j new : Json) {name other : String} (h : other ≠ name)
    (path : List String) : (j.replace name new).at? (other :: path) = j.at? (other :: path) := by
  cases j with
  | object members =>
      rw [at?_cons, at?_cons (.object members)]
      congr 1
      simp only [at?, List.foldlM_cons, List.foldlM_nil, replace, member?, bind_pure]
      induction members with
      | nil => rfl
      | cons m rest ih =>
          obtain ⟨key, value⟩ := m
          rw [List.map_cons, List.lookup_cons, List.lookup_cons]
          by_cases hkey : key = some name
          · subst hkey
            simp [beq_false_of_ne h, ih]
          · simp [hkey, ih]
  | _ => rfl

theorem Request.Holds.shows {c : Configuration} {job : NormalizedJob} {q : Request}
    {entries : List (String × String)} (h : q.Holds c job)
    (hentries : ∀ e, q.environment = some e → entries.Perm e.entries) :
    Shows (q.toJson.replace "Environment" (Environment.listed entries)) c job := by
  have hshown := q.shown
  have hfront {name : String} (hname : name ≠ "Environment") (path : List String) :=
    at?_replace_of_ne q.toJson (Environment.listed entries) hname path
  have hcluster (path : List String) :
      q.toJson.at? ("ProcessingResources" :: "ClusterConfig" :: path) = q.cluster.toJson.at? path := by
    simp [toJson]
  have happlication (path : List String) :
      q.toJson.at? ("AppSpecification" :: path) = q.application.toJson.at? path := by
    simp [toJson]
  obtain ⟨htype, hcount, hsize⟩ := q.cluster.shown_all
  have hc := h.cluster
  constructor
  case name => simp [toJson, h.name]
  case inputs =>
    refine ⟨q.inputs.map InputFragment.toJson, by simp [toJson], ?_⟩
    rw [h.inputs]
    simp [List.forall₂_map_left_iff, InputFragment.shownIn]
  case outputs =>
    refine ⟨q.outputs.map OutputFragment.toJson, by simp [toJson], ?_⟩
    rw [h.outputs]
    simp [List.forall₂_map_left_iff, OutputFragment.shownIn]
  case entrypoint => rw [hfront (by decide), hshown.entrypoint, h.entrypoint]
  case role =>
    rw [hfront (by decide), h.role]
    cases henv : q.environment <;> simp [toJson, whenSet, henv]
  case image =>
    rw [hfront (by decide), happlication, h.image]
    simp [Application.toJson]
  case instanceType => rw [hfront (by decide), hcluster, htype, ← hc]
  case instanceCount => rw [hfront (by decide), hcluster, hcount, ← hc]
  case volumeSize => rw [hfront (by decide), hcluster, hsize, ← hc]
  case volumeKey => rw [hfront (by decide), hshown.volumeKey, ← hc]
  case maxRuntime => simp [toJson, h.maxRuntime]
  case environment =>
    refine ⟨entries, h.environment ▸ hentries, ?_⟩
    rw [at?_replace_self, hshown.environment, h.environment, Option.map_map]
    rfl
  case tags => rw [hfront (by decide), hshown.tags, h.tags]
  case arguments => rw [hfront (by decide), hshown.arguments, h.arguments]
  case network =>
    refine ⟨_, (hfront (by decide) []).trans hshown.network, ?_, ?_⟩
    · intro hnone
      rw [← h.network, hnone]
      rfl
    · intro n hn
      rw [← h.network, hn]
      exact n.shownIn_fragment

/-- A text of the payload. The variables of its environment may stand in any order. -/
def Request.IsText (q : Request) (text : String) : Prop :=
  ∃ entries, (∀ e, q.environment = some e → entries.Perm e.entries) ∧
    text = render (q.toJson.replace "Environment" (Environment.listed entries))

theorem Request.replace_unset {q : Request} (h : q.environment = none) (j : Json) :
    q.toJson.replace "Environment" j = q.toJson := by
  cases h' : q.tags <;> simp [toJson, whenSet, h, h']

theorem Request.IsText.reads {q : Request} {text : String} (h : q.IsText text) :
    (parse? text).bind ofJson? = some q := by
  obtain ⟨entries, hentries, rfl⟩ := h
  rw [parse?_render (q.written_replace (Environment.listed_written entries)), Option.bind_some]
  cases henv : q.environment with
  | none =>
      rw [replace_unset henv]
      exact readsBack.reads q
  | some e =>
      apply q.ofJson?_replace
      change (Environment.ofJson? (Environment.listed entries)).map some = _
      rw [Environment.ofJson?_listed (hentries e henv), henv]
      rfl

/-- A job has a payload if all of its inputs are consistent, and otherwise the first that is not is at
fault. The text of the payload has every part of the job and its configuration in its own place, so that
two jobs with one text agree in all of them; and jobs that agree have the same payload. -/
theorem payload_determines_job :
    (∀ (c : Configuration) (job : NormalizedJob), (∃ q, Request.build c job = .ok q) ↔
      ∀ d ∈ job.inputs, ¬ (d.compression = some .gzip ∧ d.inputMode ≠ .pipe)) ∧
    (∀ (c : Configuration) (job : NormalizedJob) (e : ValidationError), Request.build c job = .error e ↔
      ∃ before d after, job.inputs = before ++ d :: after ∧
        (∀ b ∈ before, ¬ (b.compression = some .gzip ∧ b.inputMode ≠ .pipe)) ∧ d.Faults e) ∧
    (∀ (c : Configuration) (job : NormalizedJob) (q : Request) (text : String),
      Request.build c job = .ok q → q.IsText text → ∃ j, parse? text = some j ∧ Shows j c job) ∧
    (∀ (c c' : Configuration) (job job' : NormalizedJob) (q q' : Request) (text : String),
      Request.build c job = .ok q → Request.build c' job' = .ok q' → q.IsText text → q'.IsText text →
      Agree c job c' job') ∧
    ∀ (c c' : Configuration) (job job' : NormalizedJob), Agree c job c' job' →
      Request.build c job = Request.build c' job' := by
  refine ⟨?_, ?_, ?_, ?_, ?_⟩
  · intro c job
    simp only [← InputDescriptor.isConsistent_iff]
    exact Request.exists_build_iff
  · intro c job e
    simp only [← InputDescriptor.isConsistent_iff]
    exact Request.build_error_iff
  · intro c job q text hq htext
    obtain ⟨entries, hentries, rfl⟩ := htext
    exact ⟨_, parse?_render (q.written_replace (Environment.listed_written entries)),
      (Request.holds_of_build hq).shows hentries⟩
  · intro c c' job job' q q' text hq hq' htext htext'
    obtain rfl : q = q' := Option.some.inj (htext.reads.symm.trans htext'.reads)
    exact (Request.holds_of_build hq).agree (Request.holds_of_build hq')
  · intro c c' job job' h
    exact h.build_eq

end Dispatch
