import Dispatch.Proofs.Effect
import Dispatch.Channel.Normalize

namespace Dispatch

open Activity Storage

variable {σ : Type} (cs : Collaborators σ) (job : String)

def InputDescriptor.finalName (d : InputDescriptor) (position : Nat) : String :=
  d.name.getD (inputName position)

/-- How inputs can be made whole, from a position on and with the default bucket known or not. -/
inductive Normalizes (job : String) : Option String → Nat → List InputDescriptor → List Event →
    Except Halt (List InputDescriptor) → Prop
  | done (known n) : Normalizes job known n [] [] (.ok [])
  | remote {known n d ds t r} (hr : isRemote d.source = true)
      (rest : Normalizes job known (n + 1) ds t r) :
      Normalizes job known n (d :: ds) t (r.map (d.withName (d.finalName n) :: ·))
  | unlocated {known n d ds t h} (hr : isRemote d.source = false)
      (hb : Locates known t (.error h)) :
      Normalizes job known n (d :: ds) t (.error h)
  | refused {known n d ds t b} (hr : isRemote d.source = false) (hb : Locates known t (.ok b))
      (e : ClientError) :
      Normalizes job known n (d :: ds)
        (t ++ [.called (.upload d.source (remoteUri b [job, d.finalName n])) (.error e)])
        (.error (.failed (.remote e)))
  | uploaded {known n d ds t b u r} (hr : isRemote d.source = false) (hb : Locates known t (.ok b))
      (source : String) (rest : Normalizes job (some b) (n + 1) ds u r) :
      Normalizes job known n (d :: ds)
        (t ++ .called (.upload d.source (remoteUri b [job, d.finalName n])) (.ok source) :: u)
        (r.map ({ d.withName (d.finalName n) with source } :: ·))

theorem Locates.settles {known : Option String} {t : List Event} {b : String}
    (h : Locates known t (.ok b)) : known.or (located t) = some b := by
  cases h <;> rfl

namespace InputDescriptor

variable {d : InputDescriptor} {n : Nat}

theorem normalize_remote (hr : isRemote d.source = true) :
    d.normalize cs job n = pure (d.withName (d.finalName n)) := by
  unfold normalize
  exact if_pos hr

theorem normalize_local (hr : isRemote d.source = false) :
    d.normalize cs job n = do
      let bucket ← defaultBucket cs
      let source ← upload cs d.source (remoteUri bucket [job, d.finalName n])
      return { d.withName (d.finalName n) with source } := by
  unfold normalize
  exact if_neg (by simpa [withName] using hr)

end InputDescriptor

theorem normalizeInputsFrom_normalizes (n : Nat) (ds : List InputDescriptor) (s : Shared σ) :
    ∃ t, Effect cs s t (normalizeInputsFrom cs job n ds s).2 ∧
      Normalizes job s.bucket n ds t (normalizeInputsFrom cs job n ds s).1 := by
  -- after the first upload the others go on with the bucket known
  induction ds generalizing n s with
  | nil => exact ⟨[], .refl s, .done _ n⟩
  | cons d ds ih =>
      rw [normalizeInputsFrom]
      cases hr : isRemote d.source with
      | true =>
          obtain ⟨t, ht, hN⟩ := ih (n + 1) s
          rw [InputDescriptor.normalize_remote cs job hr, pure_bind, bind_pure_apply]
          exact ⟨t, ht, .remote hr hN⟩
      | false =>
          rw [InputDescriptor.normalize_local cs job hr, bind_assoc]
          obtain ⟨t, ht, hL⟩ := defaultBucket_locates cs s
          rcases hb : defaultBucket cs s with ⟨h | b, s'⟩
          · rw [hb] at ht hL
            rw [bind_error _ hb]
            exact ⟨t, ht, .unlocated hr hL⟩
          · rw [hb] at ht hL
            rw [bind_ok _ hb, bind_assoc, upload]
            let call := Call.upload d.source (remoteUri b [job, d.finalName n])
            cases ha : (cs.answer call s'.world).1 with
            | error e =>
                rw [bind_error _ (perform_error cs ha)]
                exact ⟨_, ht.trans (.call s' (by simp) ha), .refused hr hL e⟩
            | ok source =>
                have hup := ht.trans (.call s' (by simp) ha)
                obtain ⟨u, hu, hN⟩ := ih (n + 1) (s'.after cs call)
                have hknown : s'.bucket = some b := ht.bucket.trans hL.settles
                rw [bind_ok _ (perform_ok cs ha), pure_bind, bind_pure_apply]
                refine ⟨_, hup.trans hu, ?_⟩
                rw [List.append_assoc]
                exact .uploaded hr hL source (hknown ▸ hN)

def Channel.given {D : Type} (name : D → Option String) (c : Channel D) : Option String :=
  c.descriptor?.bind name

def givenNames (inputs : List (Channel InputDescriptor)) : List (Option String) :=
  inputs.map (Channel.given InputDescriptor.name)

theorem eq_map_descriptor {D : Type} {channels : List (Channel D)}
    (h : ∀ c ∈ channels, c.isDescriptor = true) :
    channels = (channels.filterMap Channel.descriptor?).map .descriptor := by
  induction channels with
  | nil => rfl
  | cons c channels ih =>
      obtain ⟨hc, hrest⟩ := List.forall_mem_cons.1 h
      cases c with
      | path p => cases hc
      | descriptor d => exact congrArg (Channel.descriptor d :: ·) (ih hrest)

theorem isDescriptor_map {D : Type} (ds : List D) :
    ∀ c ∈ ds.map Channel.descriptor, c.isDescriptor = true := by
  simp [Channel.isDescriptor, Channel.descriptor?]

theorem checkInputs_ok_iff {inputs : List (Channel InputDescriptor)} :
    checkInputs inputs = .ok () ↔ ∀ c ∈ inputs, c.isDescriptor = true := by
  have hnone : inputs.findIdx? (!·.isDescriptor) = none ↔ ∀ c ∈ inputs, c.isDescriptor = true := by
    simp [List.findIdx?_eq_none_iff]
  rw [← hnone, checkInputs]
  cases inputs.findIdx? (!·.isDescriptor) <;> simp

theorem checkInputs_ok {inputs : List (Channel InputDescriptor)} (h : checkInputs inputs = .ok ()) :
    inputs.map Channel.descriptor? = (inputs.filterMap Channel.descriptor?).map some := by
  have hds := congrArg (List.map Channel.descriptor?) (eq_map_descriptor (checkInputs_ok_iff.1 h))
  rwa [List.map_map] at hds

theorem normalizeInputs_normalizes (inputs : List (Channel InputDescriptor)) (s : Shared σ) :
    ∃ t, Effect cs s t (normalizeInputs cs job inputs s).2 ∧
      ((∃ h, (normalizeInputs cs job inputs s).1 = .error h ∧ t = []) ∨
        givenNames inputs = (inputs.filterMap Channel.descriptor?).map (·.name) ∧
        Normalizes job s.bucket 1 (inputs.filterMap Channel.descriptor?) t
          (normalizeInputs cs job inputs s).1) := by
  rw [normalizeInputs]
  cases hc : checkInputs inputs with
  | error e =>
      rw [bind_error _ (ofExcept_error _ s e)]
      exact ⟨[], .refl s, .inl ⟨_, rfl, rfl⟩⟩
  | ok a =>
      rw [bind_ok _ (ofExcept_ok _ s a)]
      obtain ⟨t, ht, hN⟩ :=
        normalizeInputsFrom_normalizes cs job 1 (inputs.filterMap Channel.descriptor?) s
      refine ⟨t, ht, .inr ⟨?_, hN⟩⟩
      have hgiven :=
        congrArg (List.map fun d? : Option InputDescriptor => d?.bind (·.name)) (checkInputs_ok hc)
      rw [List.map_map, List.map_map] at hgiven
      exact hgiven

theorem Channel.toOutput_name {c : Channel OutputDescriptor} {d : OutputDescriptor}
    {s s' : Shared σ}
    (h : c.toOutput cs job s = (.ok d, s')) : d.name = c.given OutputDescriptor.name := by
  cases c with
  | descriptor d' => cases h; rfl
  | path source =>
      obtain ⟨bucket, t, -, h⟩ := bind_eq_ok h
      cases h
      rfl

inductive Ships (job : String) (source : ScriptSource) :
    Option String → List Event → Except Halt String → Prop
  | remote {known} (hr : isRemote source.source = true) :
      Ships job source known [] (.ok source.source)
  | unlocated {known t h} (hr : isRemote source.source = false) (hb : Locates known t (.error h)) :
      Ships job source known t (.error h)
  | refused {known t b} (hr : isRemote source.source = false) (hb : Locates known t (.ok b))
      (e : ClientError) :
      Ships job source known
        (t ++ [.called (.upload source.source (remoteUri b [job, Program.channelName])) (.error e)])
        (.error (.failed (.remote e)))
  | uploaded {known t b} (hr : isRemote source.source = false) (hb : Locates known t (.ok b))
      (address : String) :
      Ships job source known
        (t ++ [.called (.upload source.source (remoteUri b [job, Program.channelName]))
          (.ok address)])
        (.ok address)

theorem Ships.settles {job : String} {source : ScriptSource} {known : Option String} {t : List Event}
    {address : String} (h : Ships job source known t (.ok address))
    (hr : isRemote source.source = false) : ∃ b, known.or (located t) = some b := by
  cases h with
  | remote hr' => simp [hr] at hr'
  | uploaded hr' hb => exact ⟨_, or_located_append hb.settles _⟩

theorem ScriptSource.ship_remote {source : ScriptSource} (hr : isRemote source.source = true) :
    source.ship cs job = pure source.source :=
  if_pos hr

theorem ScriptSource.ship_ships (source : ScriptSource) (s : Shared σ) :
    ∃ t, Effect cs s t (source.ship cs job s).2 ∧
      Ships job source s.bucket t (source.ship cs job s).1 := by
  cases hr : isRemote source.source with
  | true =>
      rw [ship_remote cs job hr]
      exact ⟨[], .refl s, .remote hr⟩
  | false =>
      rw [ship, if_neg (by simp [hr])]
      obtain ⟨t, ht, hL⟩ := defaultBucket_locates cs s
      rcases hb : defaultBucket cs s with ⟨h | b, s'⟩
      · rw [hb] at ht hL
        rw [bind_error _ hb]
        exact ⟨t, ht, .unlocated hr hL⟩
      · rw [hb] at ht hL
        rw [bind_ok _ hb, upload]
        let call := Call.upload source.source (remoteUri b [job, Program.channelName])
        cases ha : (cs.answer call s'.world).1 with
        | error e =>
            rw [perform_error cs ha]
            exact ⟨_, ht.trans (.call s' (by simp) ha), .refused hr hL e⟩
        | ok address =>
            rw [perform_ok cs ha]
            exact ⟨_, ht.trans (.call s' (by simp) ha), .uploaded hr hL address⟩

theorem ScriptSource.hook_ships (fs : File.System) (source : ScriptSource) (plan : Plan)
    (s : Shared σ) :
    ∃ t s', Effect cs s t s' ∧
      ((∃ h, (t = [] ∨ Ships plan.jobName source s.bucket t (.error h)) ∧
          Staged.apply (source.hook cs fs) plan s = (.error h, s')) ∨
        ∃ address program, Ships plan.jobName source s.bucket t (.ok address) ∧
          Program.resolve fs source = .ok program ∧
          Staged.apply (source.hook cs fs) plan s = (.ok { plan with
            inputs := plan.inputs ++ [.descriptor (channel address)]
            entrypoint := some program.entrypoint }, s')) := by
  rw [Staged.apply_hook]
  cases hp : Program.resolve fs source with
  | error e =>
      exact ⟨[], s, .refl s, .inl ⟨_, .inl rfl, bind_error _ (ofExcept_error _ s e)⟩⟩
  | ok program =>
      rw [bind_ok _ (ofExcept_ok _ s program)]
      obtain ⟨t, ht, hS⟩ := ship_ships cs plan.jobName source s
      rcases hs : source.ship cs plan.jobName s with ⟨h | address, s'⟩
      · rw [hs] at ht hS
        exact ⟨t, s', ht, .inl ⟨h, .inr hS, bind_error _ hs⟩⟩
      · rw [hs] at ht hS
        exact ⟨t, s', ht, .inr ⟨address, program, hS, rfl, bind_ok _ hs⟩⟩

end Dispatch
