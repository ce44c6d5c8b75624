import Dispatch.Proofs.History
import Dispatch.Proofs.Launch

namespace Dispatch

open Storage

section Preparing

variable {known : Option String} {t : List Event}

theorem Locates.preparing {r : Except Halt String} (h : Locates known t r) :
    ∀ e ∈ t, e.IsPreparation := by
  cases h <;> simp [Event.IsPreparation]

theorem preparing_append_upload {t u : List Event} {path uri : String}
    {reply : (Call.upload path uri).Reply} (ht : ∀ e ∈ t, e.IsPreparation)
    (hu : ∀ e ∈ u, e.IsPreparation) :
    ∀ e ∈ t ++ .called (.upload path uri) reply :: u, e.IsPreparation :=
  List.forall_mem_append.2 ⟨ht, List.forall_mem_cons.2 ⟨trivial, hu⟩⟩

theorem uploads_preparing {job b : String} (n : Nat) (xs : List Sourced) :
    ∀ e ∈ uploads job b n xs, e.IsPreparation := by
  intro e he
  obtain ⟨⟨x, k⟩, -, he⟩ := List.mem_flatMap.1 he
  rw [Sourced.uploads] at he
  split at he
  · cases he
  · rw [List.mem_singleton.1 he]
    trivial

theorem Settles.preparing {job : String} {n : Nat} {ds : List InputDescriptor}
    {r : Except Halt (List InputDescriptor)} (h : Settles job known n ds t r) :
    ∀ e ∈ t, e.IsPreparation := by
  cases h with
  | unasked xs hxs hr => simp
  | unlocated hl hb => exact hb.preparing
  | refused xs d rest hds hr hb e =>
      apply preparing_append_upload _ (by simp)
      exact List.forall_mem_append.2 ⟨hb.preparing, uploads_preparing n xs⟩
  | uploaded xs hxs hl hb =>
      exact List.forall_mem_append.2 ⟨hb.preparing, uploads_preparing n xs⟩

theorem Places.preparing {job : String} {n : Nat} {outputs : List (Channel OutputDescriptor)}
    {r : Except Halt (List OutputDescriptor)} (h : Places job known n outputs t r) :
    ∀ e ∈ t, e.IsPreparation := by
  cases h with
  | unasked hp address => simp
  | unlocated hp hb => exact hb.preparing
  | located hp hb => exact hb.preparing

theorem Stows.preparing {path : String} {segments : List String} {r : Except Halt String}
    (h : Stows path segments known t r) : ∀ e ∈ t, e.IsPreparation := by
  cases h with
  | unlocated hb => exact hb.preparing
  | uploaded hb reply => exact preparing_append_upload hb.preparing (by simp)

theorem Adjusts.preparing {a : Adjustment} {plan : Plan} {r : Except Halt Plan}
    (h : Adjusts a plan known t r) : ∀ e ∈ t, e.IsPreparation := by
  induction h with
  | done plan known => simp
  | fail h plan known => simp
  | consult h ih => exact ih
  | edit h ih => exact ih
  | bucket hb h ih => exact List.forall_mem_append.2 ⟨hb.preparing, ih⟩
  | ship hs h ih => exact List.forall_mem_append.2 ⟨hs.preparing, ih⟩

theorem Completes.preparing {plan : Plan} {r : Except Halt NormalizedJob}
    (h : Completes plan known t r) : ∀ e ∈ t, e.IsPreparation := by
  cases h with
  | constrained hc => simp
  | unsettled hds hi => exact hi.preparing
  | unplaced hds hi ho => exact List.forall_mem_append.2 ⟨hi.preparing, ho.preparing⟩
  | whole hds hi ho => exact List.forall_mem_append.2 ⟨hi.preparing, ho.preparing⟩

theorem not_mem_create {q : Request} {reply : (Call.create q).Reply}
    (h : ∀ e ∈ t, e.IsPreparation) : .called (.create q) reply ∉ t :=
  fun hq => h _ hq

end Preparing

def IsReply {α : Type} (r : Except Halt α) : Prop :=
  ∃ x : Except ClientError α, r = x.mapError fun e => .failed (.remote e)

/-- What leads to the request `q`: a plan that the hook leaves, completed and put into words. -/
inductive Creates (c : Configuration) (o : RunOptions) (a : Adjustment) (name : String)
    (known : Option String) (q : Request) : List Event → Prop
  | built {t plan u job} (ha : Adjusts a ⟨name, o.inputs, o.outputs, none⟩ known t (.ok plan))
      (hc : Completes plan (known.or (located t)) u (.ok job)) (hb : Request.build c job = .ok q) :
      Creates c o a name known q (t ++ u)

section Creation

variable {c : Configuration} {o : RunOptions} {a : Adjustment} {name : String}
  {known : Option String} {t : List Event} {q : Request} {reply : (Call.create q).Reply}

theorem Submits.creation {job : NormalizedJob} {r : Except Halt Job} (h : Submits c job t r)
    (hq : .called (.create q) reply ∈ t) :
    t = [.called (.create q) reply] ∧ Request.build c job = .ok q ∧ IsReply r := by
  cases h with
  | invalid hb => cases hq
  | refused hb e =>
      cases List.mem_singleton.1 hq
      exact ⟨rfl, hb, .error e, rfl⟩
  | created hb =>
      cases List.mem_singleton.1 hq
      exact ⟨rfl, hb, .ok _, rfl⟩

theorem Launches.creation {plan : Plan} {r : Except Halt Job} (h : Launches c plan known t r)
    (hq : .called (.create q) reply ∈ t) :
    ∃ earlier job, t = earlier ++ [.called (.create q) reply] ∧
      Completes plan known earlier (.ok job) ∧ Request.build c job = .ok q ∧ IsReply r := by
  cases h with
  | incomplete hc => exact absurd hq (not_mem_create hc.preparing)
  | @submitted u job v r hc hs =>
      have hv := (List.mem_append.1 hq).resolve_left (not_mem_create hc.preparing)
      obtain ⟨rfl, hb, hr⟩ := hs.creation hv
      exact ⟨u, job, rfl, hc, hb, hr⟩

theorem Starts.creation {r : Except Halt Job} (h : Starts c o a name known t r)
    (hq : .called (.create q) reply ∈ t) :
    ∃ earlier, t = earlier ++ [.called (.create q) reply] ∧ Creates c o a name known q earlier ∧
      IsReply r := by
  cases h with
  | constrained hc => cases hq
  | unadjusted ho ha => exact absurd hq (not_mem_create ha.preparing)
  | @launched t plan u r ho ha hl =>
      have hu := (List.mem_append.1 hq).resolve_left (not_mem_create ha.preparing)
      obtain ⟨earlier, job, rfl, hc, hb, hr⟩ := hl.creation hu
      exact ⟨t ++ earlier, (List.append_assoc ..).symm, .built ha hc hb, hr⟩

theorem Runs.creation {p p' : Processor} {r : Except Halt Job} (h : Runs p o a name known t r p')
    (hq : .called (.create q) reply ∈ t) :
    ∃ earlier later, t = earlier ++ .called (.create q) reply :: later ∧
      Creates p.configuration o a name known q earlier := by
  cases h with
  | unstarted hs =>
      obtain ⟨earlier, ht, hC, -⟩ := hs.creation hq
      exact ⟨earlier, [], ht, hC⟩
  | left hs hw =>
      obtain ⟨earlier, ht, hC, -⟩ := hs.creation hq
      exact ⟨earlier, [], ht, hC⟩
  | @followed t job u r hs hw hf =>
      rcases List.mem_append.1 hq with hq | hq
      · obtain ⟨earlier, rfl, hC, -⟩ := hs.creation hq
        exact ⟨earlier, u, List.append_assoc .., hC⟩
      · rcases hf.observing _ hq with h | ⟨h, -⟩ <;> cases h

def Request.PlacesOutputs (q : Request) (b? : Option String)
    (outputs : List (Channel OutputDescriptor)) : Prop :=
  ∀ (k : Nat) (path : String), outputs[k]? = some (.path path) → ∃ b f, b? = some b ∧
    q.outputs[k]? = some f ∧ f.localPath = path ∧
    f.uri = remoteUri b [q.jobName, defaultOutputFolder]

theorem Completes.placesOutputs {plan : Plan} {job : NormalizedJob}
    (h : Completes plan known t (.ok job)) (hb : Request.build c job = .ok q) :
    q.PlacesOutputs (known.or (located t)) plan.outputs := by
  have hjob := Job.createdBy_build hb none
  cases h with
  | @whole ds t inputs u outputs hds hi ho =>
      intro k path hk
      have hname : q.jobName = plan.jobName := hjob.name.symm
      have houtputs : q.outputs[k]? = (outputs[k]?).map OutputDescriptor.fragment := by
        rw [← hjob.outputs, List.getElem?_map]
      cases ho with
      | unasked hp address => exact absurd ⟨path, List.mem_of_getElem? hk⟩ hp
      | @located t b hp hl =>
          rw [placements_getElem?, hk] at houtputs
          refine ⟨b, _, ?_, houtputs, rfl, ?_⟩
          · rw [located_append, ← Option.or_assoc, hl.settles]
          · rw [hname]
            rfl

theorem Runs.places {p p' : Processor} {r : Except Halt Job} (h : Runs p o a name known t r p')
    (hq : .called (.create q) reply ∈ t) :
    ∃ v plan, v <+: t ∧ Adjusts a ⟨name, o.inputs, o.outputs, none⟩ known v (.ok plan) ∧
      q.PlacesOutputs (known.or (located t)) plan.outputs := by
  obtain ⟨earlier, later, rfl, hC⟩ := h.creation hq
  cases hC with
  | @built v plan x job ha hc hb =>
      refine ⟨v, plan, ?_, ha, ?_⟩
      · rw [List.append_assoc]
        exact List.prefix_append _ _
      · intro k path hk
        obtain ⟨b, f, hb', hf, hpath, huri⟩ := hc.placesOutputs hb k path hk
        rw [Option.or_assoc, ← located_append] at hb'
        exact ⟨b, f, or_located_append hb' _, hf, hpath, huri⟩

theorem Completes.jobName {plan : Plan} {job : NormalizedJob}
    (h : Completes plan known t (.ok job)) : job.name = plan.jobName := by
  cases h with
  | whole hds hi ho => rfl

end Creation

end Dispatch
