import Dispatch.Proofs.Records
import Dispatch.Wire.Channel
import Dispatch.Wire.Request

namespace Dispatch

open Json Storage

attribute [local simp] Fields.required? Fields.optional? Fields.defaulted? List.lookup_cons

theorem Json.inOrder_whenSet {α : Type} {names : List String} {members : List (String × Json)}
    (h : InOrder names members) (name : String) (write : α → Json) (o : Option α) :
    InOrder (name :: names) (whenSet name write o ++ members) := by
  cases o with
  | none => exact List.Sublist.cons name h
  | some a => exact inOrder_cons.2 h

theorem Json.inOrder_singleton {α : Type} (name : String) (write : α → Json) (o : Option α) :
    InOrder [name] (whenSet name write o) := by
  rw [← List.append_nil (whenSet name write o)]
  exact inOrder_whenSet (inOrder_nil []) name write o

theorem Json.whenSet_replace {α : Type} (name other : String) (new : Json) (write : α → Json)
    (o : Option α) : (whenSet name write o).map (fun m => if m.1 = other then (other, new) else m) =
      whenSet name (fun a => if name = other then new else write a) o := by
  cases o with
  | none => rfl
  | some a => by_cases h : name = other <;> simp [whenSet, h]

@[simp]
theorem InputDescriptor.readsBack : ReadsBack toJson ofJson? := by
  refine readsBack_record (fun _ => rfl) (fun _ => rfl) (by decide) ?_ (by simp) fun d => ?_
  · simp [layout]
  · iterate 8 refine bind_eq_some_of (by simp; rfl) ?_
    rfl

@[simp]
theorem OutputDescriptor.readsBack : ReadsBack toJson ofJson? := by
  refine readsBack_record (fun _ => rfl) (fun _ => rfl) (by decide) ?_ (by simp) fun d => ?_
  · simp [layout]
  · iterate 5 refine bind_eq_some_of (by simp; rfl) ?_
    rfl

@[simp]
theorem InputFragment.readsBack : ReadsBack toJson ofJson? := by
  refine readsBack_record (fun _ => rfl) (fun _ => rfl) (by decide) (by simp) (fun f => ?_) fun f => ?_
  · refine List.forall_mem_cons.2 ⟨by simp, List.forall_mem_singleton.2 (isWritten_record ?_)⟩
    cases f.compression <;> simp [whenSet]
  · obtain ⟨name, uri, localPath, dataType, inputMode, downloadMode, distribution, compression⟩ := f
    refine bind_eq_some_of (fields?_record (by decide) (by simp [storageLayout, inOrder_singleton])) ?_
    cases compression <;>
    · iterate 8 refine bind_eq_some_of (by simp [whenSet]; rfl) ?_
      rfl

@[simp]
theorem OutputFragment.readsBack : ReadsBack toJson ofJson? := by
  refine readsBack_record (fun _ => rfl) (fun _ => rfl) (by decide) (by simp) (fun f => ?_) fun f => ?_
  · refine List.forall_mem_cons.2 ⟨by simp, List.forall_mem_singleton.2 (isWritten_record ?_)⟩
    cases f.encryptionKey <;> simp [whenSet]
  · obtain ⟨name, uri, localPath, uploadMode, encryptionKey⟩ := f
    refine bind_eq_some_of (fields?_record (by decide) (by simp [storageLayout, inOrder_singleton])) ?_
    cases encryptionKey <;>
    · iterate 5 refine bind_eq_some_of (by simp [whenSet]; rfl) ?_
      rfl

@[simp]
theorem Network.readsBack : ReadsBack toJson ofJson? := by
  refine readsBack_record (fun _ => rfl) (fun _ => rfl) (by decide) ?_ (by simp) fun n => ?_
  · simp [layout]
  · iterate 4 refine bind_eq_some_of (by simp; rfl) ?_
    rfl

@[simp]
theorem Vpc.readsBack : ReadsBack toJson ofJson? := by
  refine readsBack_record (fun _ => rfl) (fun _ => rfl) (by decide) (by simp) (by simp) fun v => ?_
  iterate 2 refine bind_eq_some_of (by simp; rfl) ?_
  rfl

@[simp]
theorem NetworkFragment.readsBack : ReadsBack toJson ofJson? := by
  refine readsBack_record (fun _ => rfl) (fun _ => rfl) (by decide) ?_ (fun n => ?_) fun n => ?_
  · simp [layout, inOrder_whenSet, inOrder_singleton]
  · cases n.encryptTraffic <;> cases n.vpc <;> simp [whenSet, Vpc.readsBack.written]
  · obtain ⟨isolated, encryptTraffic, vpc⟩ := n
    cases encryptTraffic <;> cases vpc <;>
    · iterate 3 refine bind_eq_some_of (by simp [whenSet]; rfl) ?_
      rfl

@[simp]
theorem Cluster.readsBack : ReadsBack toJson ofJson? := by
  refine readsBack_record (fun _ => rfl) (fun _ => rfl) (by decide) ?_ (fun c => ?_) fun c => ?_
  · simp [layout, inOrder_singleton]
  · cases c.volumeKey <;> simp [whenSet]
  · obtain ⟨instanceType, instanceCount, volumeSize, volumeKey⟩ := c
    cases volumeKey <;>
    · iterate 4 refine bind_eq_some_of (by simp [whenSet]; rfl) ?_
      rfl

@[simp]
theorem Application.readsBack : ReadsBack toJson ofJson? := by
  refine readsBack_record (fun _ => rfl) (fun _ => rfl) (by decide) ?_ (fun a => ?_) fun a => ?_
  · simp [inOrder_whenSet, inOrder_singleton]
  · cases a.arguments <;> cases a.entrypoint <;> simp [whenSet]
  · obtain ⟨image, arguments, entrypoint⟩ := a
    cases arguments <;> cases entrypoint <;>
    · iterate 3 refine bind_eq_some_of (by simp [whenSet]; rfl) ?_
      rfl

namespace Environment

theorem place_perm {name value : String} {es : List (String × String)} (h : name ∉ es.map (·.1)) :
    (place name value es).Perm ((name, value) :: es) := by
  induction es with
  | nil => exact .refl _
  | cons e es ih =>
      obtain ⟨hne, hrest⟩ := not_or.1 (mt List.mem_cons.2 h)
      simp only [place]
      split
      · exact .refl _
      · split
        · exact ((ih hrest).cons e).trans (.swap _ _ _)
        · next hlt hgt =>
            exact absurd (String.le_antisymm (String.not_lt.1 hgt) (String.not_lt.1 hlt)) hne

theorem foldl_insert_perm {entries : List (String × String)} (e : Environment)
    (h : ((e.entries ++ entries).map (·.1)).Nodup) :
    (entries.foldl (fun e p => e.insert p.1 p.2) e).entries.Perm (e.entries ++ entries) := by
  induction entries generalizing e with
  | nil => simp
  | cons p rest ih =>
      have hfresh : p.1 ∉ e.entries.map (·.1) := by
        rw [List.map_append, List.nodup_append] at h
        exact fun hmem => h.2.2 _ hmem _ List.mem_cons_self rfl
      have hperm : ((e.insert p.1 p.2).entries ++ rest).Perm (e.entries ++ p :: rest) :=
        ((place_perm hfresh).append_right rest).trans List.perm_middle.symm
      exact (ih (e.insert p.1 p.2) ((hperm.map _).nodup_iff.2 h)).trans hperm

theorem eq_of_perm {e e' : Environment} (h : e.entries.Perm e'.entries) : e = e' := by
  have hentries : e.entries = e'.entries :=
    h.eq_of_pairwise (fun p q _ _ hpq hqp => absurd (String.lt_trans hpq hqp) (String.lt_irrefl _))
      e.sorted e'.sorted
  cases e
  cases e'
  cases hentries
  rfl

theorem ofList_perm {e : Environment} {entries : List (String × String)} (h : entries.Perm e.entries) :
    ofList entries = e := by
  have hnames : ((empty.entries ++ entries).map (·.1)).Nodup := by
    rw [empty, List.nil_append, (h.map _).nodup_iff, List.Nodup, List.pairwise_map]
    exact e.sorted.imp fun hlt => String.ne_of_lt hlt
  exact eq_of_perm ((foldl_insert_perm empty hnames).trans h)

/-- The variables as the members of an object, in the order they are given. -/
def listed (entries : List (String × String)) : Json := .record (entries.map fun p => (p.1, .text p.2))

theorem listed_written (entries : List (String × String)) : (listed entries).IsWritten := by
  apply isWritten_record
  intro m hm
  obtain ⟨p, -, rfl⟩ := List.mem_map.1 hm
  exact trivial

theorem ofJson?_listed {e : Environment} {entries : List (String × String)}
    (h : entries.Perm e.entries) : ofJson? (listed entries) = some e := by
  have hread : (entries.map fun p => ((some p.1 : Literal), Json.text p.2)).mapM
      (fun m => do return (← m.1, ← text? m.2)) = some entries := by
    apply mapM_map
    exact fun p => rfl
  rw [listed, record, List.map_map, ofJson?]
  change ((entries.map _).mapM _ >>= fun entries => pure (ofList entries)) = some e
  rw [Function.comp_def, hread]
  exact congrArg some (ofList_perm h)

@[simp]
theorem readsBack : ReadsBack toJson ofJson? :=
  ⟨fun e => listed_written e.entries, fun _ => nofun, fun e => ofJson?_listed (.refl e.entries)⟩

end Environment

@[simp]
theorem Tag.readsBack : ReadsBack toJson ofJson? := by
  refine readsBack_record (fun _ => rfl) (fun _ => rfl) (by decide) (by simp) (by simp) fun t => ?_
  iterate 2 refine bind_eq_some_of (by simp; rfl) ?_
  rfl

@[simp]
theorem Tag.readsBack_list : ReadsBack listToJson (list? ofJson?) := Tag.readsBack.list

theorem Configuration.ofJson?_replace (c : Configuration) {j : Json}
    (hj : nullable? Environment.ofJson? j = some c.environment) :
    ofJson? (c.toJson.replace "env" j) = some c := by
  rw [ofJson?, toJson, replace_record, fields?_record (by decide) (by simp [layout])]
  refine bind_eq_some_of rfl ?_
  iterate 13 refine bind_eq_some_of (by simp [hj]; rfl) ?_
  rfl

theorem Configuration.written_replace (c : Configuration) {j : Json} (hj : j.IsWritten) :
    (c.toJson.replace "env" j).IsWritten := by
  rw [toJson, replace_record]
  apply isWritten_record
  simp [hj, Tag.readsBack_list.written, Network.readsBack.written]

theorem Configuration.replace_env (c : Configuration) :
    c.toJson.replace "env" (orNull Environment.toJson c.environment) = c.toJson := by
  simp [toJson]

theorem Configuration.readsBack : ReadsBack toJson ofJson? := by
  refine ⟨fun c => ?_, fun _ => nofun, fun c => ?_⟩
  · rw [← c.replace_env]
    exact c.written_replace (isWritten_orNull Environment.readsBack.written _)
  · rw [← c.replace_env]
    exact c.ofJson?_replace (by simp)

@[simp]
theorem Cluster.resourcesOfJson?_record (c : Cluster) :
    resourcesOfJson? (.record [("ClusterConfig", c.toJson)]) = some c := by
  rw [resourcesOfJson?, fields?_record (by decide) (by simp)]
  simp [Cluster.readsBack.reads]

@[simp]
theorem Request.runtimeOfJson?_record (n : UInt64) :
    runtimeOfJson? (.record [("MaxRuntimeInSeconds", .nat n.toNat)]) = some n := by
  rw [runtimeOfJson?, fields?_record (by decide) (by simp)]
  simp

theorem Request.ofJson?_replace (r : Request) {j : Json}
    (hj : nullable? Environment.ofJson? j = some r.environment) :
    ofJson? (r.toJson.replace "Environment" j) = some r := by
  rw [ofJson?, toJson, replace_record, fields?_record (by decide)
    (by simp [layout, whenSet_replace, inOrder_whenSet, inOrder_singleton])]
  obtain ⟨inputs, outputs, jobName, cluster, maxRuntime, application, environment, network, role, tags⟩ := r
  have hinputs := InputFragment.readsBack.reads
  have houtputs := OutputFragment.readsBack.reads
  have happlication := Application.readsBack.reads
  refine bind_eq_some_of rfl ?_
  cases environment <;> cases tags <;>
  · iterate 10 refine bind_eq_some_of (by simp [whenSet, hj, hinputs, houtputs, happlication]; rfl) ?_
    rfl

theorem Request.written_replace (r : Request) {j : Json} (hj : j.IsWritten) :
    (r.toJson.replace "Environment" j).IsWritten := by
  have hresources : (record [("ClusterConfig", r.cluster.toJson)]).IsWritten :=
    isWritten_record (by simp [Cluster.readsBack.written])
  have hruntime : (record [("MaxRuntimeInSeconds", nat r.maxRuntime.toNat)]).IsWritten :=
    isWritten_record (by simp)
  rw [toJson, replace_record]
  apply isWritten_record
  cases r.environment <;> cases r.tags <;>
    simp [whenSet, hj, hresources, hruntime, InputFragment.readsBack.written,
      OutputFragment.readsBack.written, Application.readsBack.written, NetworkFragment.readsBack.written,
      Tag.readsBack_list.written]

theorem Request.replace_environment (r : Request) :
    r.toJson.replace "Environment" (orNull Environment.toJson r.environment) = r.toJson := by
  cases h : r.environment <;> cases h' : r.tags <;> simp [toJson, whenSet, orNull, h, h']

theorem Request.readsBack : ReadsBack toJson ofJson? := by
  refine ⟨fun r => ?_, fun _ => nofun, fun r => ?_⟩
  · rw [← r.replace_environment]
    exact r.written_replace (isWritten_orNull Environment.readsBack.written _)
  · rw [← r.replace_environment]
    exact r.ofJson?_replace (by simp)

end Dispatch
