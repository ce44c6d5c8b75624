import Dispatch.Proofs.WireRecords

namespace Dispatch

open Json

theorem Json.record_isSound {members : List (String × Json)} (h : ∀ m ∈ members, m.2.isSound = true) :
    (record members).isSound = true := by
  rw [record, isSound]
  induction members with
  | nil => rfl
  | cons m rest ih =>
      obtain ⟨hm, hrest⟩ := List.forall_mem_cons.1 h
      rw [List.map_cons, membersAreSound, ih hrest, hm]
      rfl

theorem Json.record_depth {members : List (String × Json)} (h : ∀ m ∈ members, m.2.depth = 0) :
    (record members).depth = 1 := by
  rw [record, depth]
  induction members with
  | nil => rfl
  | cons m rest ih =>
      obtain ⟨hm, hrest⟩ := List.forall_mem_cons.1 h
      rw [List.map_cons, depthMembers, hm, Nat.zero_max]
      exact ih hrest

namespace Channel

variable {D : Type} {write : D → Json} {read? : Decoder D}

/-- What is held back whole: a sound record of values that hold no others. -/
structure Holds (write : D → Json) : Prop where
  sound : ∀ d, (write d).isSound = true
  flat : ∀ d, (write d).depth = 1

theorem ofJson?_toJson (hw : Holds write) (h : ReadsBack write read?) (c : Channel D) :
    ofJson? read? (toJson write c) = some c := by
  cases c with
  | path p => rfl
  | descriptor d =>
      change ofJson? read? (write d) = _
      unfold ofJson?
      rw [if_pos (by simp [hw.sound, hw.flat, maxDepth])]
      split
      · next p heq =>
          have hflat := hw.flat d
          rw [heq] at hflat
          cases hflat
      · rw [h.reads]
        rfl

theorem readsBack (hw : Holds write) (h : ReadsBack write read?) :
    ReadsBack (toJson write) (ofJson? read?) := by
  refine ⟨fun c => ?_, fun c => ?_, ofJson?_toJson hw h⟩
  · cases c with
    | path p => trivial
    | descriptor d => exact h.written d
  · cases c with
    | path p => exact nofun
    | descriptor d => exact h.filled d

theorem ofJson?_eq_path_iff {j : Json} {p : String} :
    ofJson? read? j = some (.path p) ↔ j = .text p := by
  constructor
  · intro h
    unfold ofJson? at h
    split at h
    · split at h
      · cases h
        rfl
      · obtain ⟨d, -, hd⟩ := Option.map_eq_some_iff.1 h
        cases hd
    · cases h
  · rintro rfl
    rfl

end Channel

theorem InputDescriptor.holds : Channel.Holds toJson := by
  refine ⟨fun d => record_isSound ?_, fun d => record_depth ?_⟩
  · cases d.name <;> cases d.compression <;> simp [orNull, isSound, ofNamed]
  · cases d.name <;> cases d.compression <;> simp [orNull, depth, ofNamed]

theorem OutputDescriptor.holds : Channel.Holds toJson := by
  refine ⟨fun d => record_isSound ?_, fun d => record_depth ?_⟩
  · cases d.name <;> cases d.encryptionKey <;> simp [orNull, isSound, ofNamed]
  · cases d.name <;> cases d.encryptionKey <;> simp [orNull, depth, ofNamed]

/-- The optional parts of a request: there where they are set, and nowhere else. The network is always
there. -/
structure Request.ShownIn (r : Request) (j : Json) : Prop where
  network : j.at? ["NetworkConfig"] = some (orNull NetworkFragment.toJson r.network)
  environment : j.at? ["Environment"] = r.environment.map Environment.toJson
  tags : j.at? ["Tags"] = r.tags.map Tag.listToJson
  volumeKey : j.at? ["ProcessingResources", "ClusterConfig", "VolumeKmsKeyId"] =
    r.cluster.volumeKey.map .text
  arguments : j.at? ["AppSpecification", "ContainerArguments"] = r.application.arguments.map texts
  entrypoint : j.at? ["AppSpecification", "ContainerEntrypoint"] = r.application.entrypoint.map texts
  encryptTraffic : ∀ n, r.network = some n →
    j.at? ["NetworkConfig", "EnableInterContainerTrafficEncryption"] = n.encryptTraffic.map .bool
  vpc : ∀ n, r.network = some n → j.at? ["NetworkConfig", "VpcConfig"] = n.vpc.map Vpc.toJson
  compressions : ∃ items, j.at? ["InputDataConfig"] = some (.array items) ∧
    items.map (·.at? ["S3Input", "S3CompressionType"]) = r.inputs.map (·.compression.map ofNamed)
  encryptionKeys : ∃ items, j.at? ["OutputDataConfig"] = some (.array items) ∧
    items.map (·.at? ["S3Output", "KmsKeyId"]) = r.outputs.map (·.encryptionKey.map .text)

attribute [local simp] Json.at? List.lookup_cons

theorem InputFragment.shown (f : InputFragment) :
    f.toJson.at? ["S3Input", "S3CompressionType"] = f.compression.map ofNamed := by
  cases h : f.compression <;> simp [toJson, whenSet, h]

theorem OutputFragment.shown (f : OutputFragment) :
    f.toJson.at? ["S3Output", "KmsKeyId"] = f.encryptionKey.map .text := by
  cases h : f.encryptionKey <;> simp [toJson, whenSet, h]

theorem NetworkFragment.shown (n : NetworkFragment) :
    n.toJson.at? ["EnableInterContainerTrafficEncryption"] = n.encryptTraffic.map .bool ∧
      n.toJson.at? ["VpcConfig"] = n.vpc.map Vpc.toJson := by
  cases h : n.encryptTraffic <;> cases h' : n.vpc <;> simp [toJson, whenSet, h, h']

theorem Cluster.shown (c : Cluster) : c.toJson.at? ["VolumeKmsKeyId"] = c.volumeKey.map .text := by
  cases h : c.volumeKey <;> simp [toJson, whenSet, h]

theorem Application.shown (a : Application) :
    a.toJson.at? ["ContainerArguments"] = a.arguments.map texts ∧
      a.toJson.at? ["ContainerEntrypoint"] = a.entrypoint.map texts := by
  cases h : a.arguments <;> cases h' : a.entrypoint <;> simp [toJson, whenSet, h, h']

theorem Request.shown_network (r : Request) :
    r.toJson.at? ["NetworkConfig"] = some (orNull NetworkFragment.toJson r.network) := by
  cases h : r.environment <;> simp [toJson, whenSet, h]

theorem Request.shown (r : Request) : r.ShownIn r.toJson := by
  have hresources : r.toJson.at? ["ProcessingResources"] =
      some (.record [("ClusterConfig", r.cluster.toJson)]) := by simp [toJson]
  have hcluster : (record [("ClusterConfig", r.cluster.toJson)]).at? ["ClusterConfig"] =
      some r.cluster.toJson := by simp
  have happlication : r.toJson.at? ["AppSpecification"] = some r.application.toJson := by simp [toJson]
  refine ⟨r.shown_network, ?_, ?_, ?_, ?_, ?_, ?_, ?_, ?_, ?_⟩
  · cases h : r.environment <;> cases h' : r.tags <;> simp [toJson, whenSet, h, h']
  · cases h : r.environment <;> cases h' : r.tags <;> simp [toJson, whenSet, h, h']
  · rw [at?_cons, hresources, Option.bind_some, at?_cons, hcluster]
    exact r.cluster.shown
  · rw [at?_cons, happlication]
    exact r.application.shown.1
  · rw [at?_cons, happlication]
    exact r.application.shown.2
  · intro n hn
    rw [at?_cons, r.shown_network, hn]
    exact n.shown.1
  · intro n hn
    rw [at?_cons, r.shown_network, hn]
    exact n.shown.2
  · refine ⟨r.inputs.map InputFragment.toJson, by simp [toJson], ?_⟩
    rw [List.map_map]
    exact List.map_congr_left fun f _ => f.shown
  · refine ⟨r.outputs.map OutputFragment.toJson, by simp [toJson], ?_⟩
    rw [List.map_map]
    exact List.map_congr_left fun f _ => f.shown

/-- The text of what is written is read as what it was written for. -/
def Json.Survives {α : Type} (write : α → Json) (read : Decoder α) : Prop :=
  ∀ a, (parse? (render (write a))).bind read = some a

theorem Json.ReadsBack.survives {α : Type} {write : α → Json} {read : Decoder α}
    (h : ReadsBack write read) : Survives write read := by
  intro a
  rw [parse?_render (h.written a), Option.bind_some, h.reads]

/-- What is handed in for a job is the same after it was text, also if the variables of its environment
stand in another order there. The text shows the optional parts that are set, and a channel is a path exactly
where its text is a string. -/
theorem submissions_survive_text :
    Survives Request.toJson Request.ofJson? ∧
    Survives Configuration.toJson Configuration.ofJson? ∧
    Survives InputDescriptor.toJson InputDescriptor.ofJson? ∧
    Survives OutputDescriptor.toJson OutputDescriptor.ofJson? ∧
    Survives (Channel.listToJson InputDescriptor.toJson) (Channel.listOfJson? InputDescriptor.ofJson?) ∧
    Survives (Channel.listToJson OutputDescriptor.toJson) (Channel.listOfJson? OutputDescriptor.ofJson?) ∧
    (∀ (r : Request) (e : Environment) (entries : List (String × String)), r.environment = some e →
      entries.Perm e.entries →
      (parse? (render (r.toJson.replace "Environment" (Environment.listed entries)))).bind
        Request.ofJson? = some r) ∧
    (∀ (c : Configuration) (e : Environment) (entries : List (String × String)), c.environment = some e →
      entries.Perm e.entries →
      (parse? (render (c.toJson.replace "env" (Environment.listed entries)))).bind
        Configuration.ofJson? = some c) ∧
    (∀ r : Request, ∃ j, parse? (render r.toJson) = some j ∧ r.ShownIn j) ∧
    ∀ (D : Type) (read? : Decoder D) (text p : String),
      (parse? text).bind (Channel.ofJson? read?) = some (.path p) ↔ parse? text = some (.text p) := by
  have hlisted {e : Environment} {entries : List (String × String)} (h : entries.Perm e.entries) :
      nullable? Environment.ofJson? (Environment.listed entries) = some (some e) := by
    change (Environment.ofJson? (Environment.listed entries)).map some = _
    rw [Environment.ofJson?_listed h]
    rfl
  refine ⟨Request.readsBack.survives, Configuration.readsBack.survives, InputDescriptor.readsBack.survives,
    OutputDescriptor.readsBack.survives,
    (Channel.readsBack InputDescriptor.holds InputDescriptor.readsBack).list.survives,
    (Channel.readsBack OutputDescriptor.holds OutputDescriptor.readsBack).list.survives, ?_, ?_, ?_, ?_⟩
  · intro r e entries he h
    rw [parse?_render (r.written_replace (Environment.listed_written entries)), Option.bind_some]
    exact r.ofJson?_replace (he ▸ hlisted h)
  · intro c e entries he h
    rw [parse?_render (c.written_replace (Environment.listed_written entries)), Option.bind_some]
    exact c.ofJson?_replace (he ▸ hlisted h)
  · intro r
    exact ⟨r.toJson, parse?_render (Request.readsBack.written r), r.shown⟩
  · intro D read? text p
    cases h : parse? text with
    | none => simp
    | some j => simp [Channel.ofJson?_eq_path_iff]

end Dispatch
