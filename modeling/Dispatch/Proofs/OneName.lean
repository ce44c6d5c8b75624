import Dispatch.Proofs.Payload

namespace Dispatch

open Storage

/-- The event is about job `n`. A file that is uploaded goes to the place of a channel that `carries` it.
-/
def Event.Concerns (n : String) (b? : Option String) (carries : String → String → Prop) : Event → Prop
  | .called .defaultBucket _ => True
  | .called (.upload path uri) _ =>
      ∃ b channel, b? = some b ∧ uri = remoteUri b [n, channel] ∧ carries path channel
  | .called (.create q) _ => q.jobName = n
  | .called (.describe job) _ | .called (.stop job) _ | .called (.logs job _) _ => job = n
  | .logged job _ => job = n

/-- Some input has `path` for its source and `channel` for its name. -/
def Carries (inputs : List (Channel InputDescriptor)) (path channel : String) : Prop :=
  ∃ (k : Nat) (d : InputDescriptor), inputs[k]? = some (.descriptor d) ∧ d.source = path ∧
    d.finalName (k + 1) = channel

/-- All of the trace is about job `n`, with the default bucket known or not at first. -/
def Devoted (n : String) (known : Option String) (carries : String → String → Prop) (t : List Event) :
    Prop :=
  ∀ e ∈ t, e.Concerns n (known.or (located t)) carries

def Halt.Blames (n : String) (h : Halt) : Prop :=
  ∀ name reason, h = .failed (.jobFailed name reason) → name = n

section Concerning

variable {n : String} {b? known : Option String} {b : String} {carries : String → String → Prop}
  {t : List Event}

theorem Event.Concerns.later {e : Event} (h : e.Concerns n (known.or (located t)) carries)
    (u : List Event) : e.Concerns n (known.or (located (t ++ u))) carries := by
  cases e with
  | called c reply =>
      cases c with
      | upload path uri =>
          obtain ⟨b, channel, hb, huri, hc⟩ := h
          exact ⟨b, channel, or_located_append hb u, huri, hc⟩
      | _ => exact h
  | logged job e => exact h

theorem Devoted.append {u : List Event} (ht : Devoted n known carries t)
    (hu : Devoted n (known.or (located t)) carries u) : Devoted n known carries (t ++ u) := by
  intro e he
  rcases List.mem_append.1 he with he | he
  · exact (ht e he).later u
  · rw [located_append, ← Option.or_assoc]
    exact hu e he

theorem Halt.CutsStart.blames {h : Halt} (hc : h.CutsStart) : h.Blames n := by
  rintro name reason rfl
  obtain ⟨e, he, hf | ⟨f, rfl⟩⟩ := hc
  · cases he
    exact hf.elim
  · cases he

theorem Halt.CutsWait.blames {h : Halt} (hc : h.CutsWait) : h.Blames n := by
  rintro name reason rfl
  rcases hc with hc | ⟨e, hc⟩ <;> cases hc

theorem concerns_page {token : Option String} (page : LogPage) :
    ∀ e ∈ Event.called (.logs n token) (.ok page) :: page.events.map (.logged n),
      e.Concerns n b? carries := by
  intro e he
  rcases List.mem_cons.1 he with rfl | he
  · rfl
  · obtain ⟨l, -, rfl⟩ := List.mem_map.1 he
    rfl

theorem Drains.concerns {token : Option String} {r : Except Halt (Option String)}
    (h : Drains n token t r) : ∀ e ∈ t, e.Concerns n b? carries := by
  induction h with
  | cut token => simp
  | refused token e => simp [Event.Concerns]
  | last token page hl => exact concerns_page page
  | more token page hl rest ih => exact List.forall_mem_append.2 ⟨concerns_page page, ih⟩

theorem DrainsIf.concerns {streaming : Bool} {token : Option String}
    {r : Except Halt (Option String)} (h : DrainsIf n streaming token t r) :
    ∀ e ∈ t, e.Concerns n b? carries := by
  cases h with
  | skipped token => simp
  | drained h => exact h.concerns

theorem Watches.concerns {streaming : Bool} {token : Option String}
    {r : Except Halt (JobDescription × Option String)} (h : Watches n streaming token t r) :
    ∀ e ∈ t, e.Concerns n b? carries := by
  induction h with
  | cut token => simp
  | undrained hd => exact hd.concerns
  | refused hd e => exact List.forall_mem_append.2 ⟨hd.concerns, by simp [Event.Concerns]⟩
  | ended hd d hx => exact List.forall_mem_append.2 ⟨hd.concerns, by simp [Event.Concerns]⟩
  | running hd d hx rest ih =>
      exact List.forall_mem_append.2 ⟨hd.concerns, List.forall_mem_cons.2 ⟨rfl, ih⟩⟩

theorem Follows.concerns {streaming : Bool} {r : Except Halt JobDescription}
    (h : Follows n streaming t r) : ∀ e ∈ t, e.Concerns n b? carries := by
  cases h with
  | unended hw => exact hw.concerns
  | undrained hw hd => exact List.forall_mem_append.2 ⟨hw.concerns, hd.concerns⟩
  | ended hw hd => exact List.forall_mem_append.2 ⟨hw.concerns, hd.concerns⟩

theorem Locates.concerns {r : Except Halt String} (h : Locates known t r) :
    ∀ e ∈ t, e.Concerns n b? carries := by
  cases h <;> simp [Event.Concerns]

theorem Locates.isReply {r : Except Halt String} (h : Locates known t r) : IsReply r := by
  cases h with
  | known b => exact ⟨.ok b, rfl⟩
  | asked b => exact ⟨.ok b, rfl⟩
  | refused e => exact ⟨.error e, rfl⟩

theorem Locates.cuts {h : Halt} (hL : Locates known t (.error h)) : h.CutsStart := by
  cases hL with
  | refused e => exact ⟨_, rfl, .inr ⟨e, rfl⟩⟩

theorem uploads_concerns {m : Nat} {xs : List Sourced} {rest : List InputDescriptor}
    (hc : ∀ (k : Nat) (d : InputDescriptor), (xs.map Sourced.input ++ rest)[k]? = some d →
      carries d.source (d.finalName (m + k))) :
    ∀ e ∈ uploads n b m xs, e.Concerns n (some b) carries := by
  intro e he
  obtain ⟨⟨x, k⟩, hx, he⟩ := List.mem_flatMap.1 he
  obtain ⟨hmk, hk⟩ := List.mk_mem_zipIdx_iff_le_and_getElem?_sub.1 hx
  have hinput : (xs.map Sourced.input ++ rest)[k - m]? = some x.input := by
    have hlt := (List.getElem?_eq_some_iff.1 hk).1
    rw [List.getElem?_append_left (by simpa using hlt), List.getElem?_map, hk]
    rfl
  have hcarried := hc (k - m) x.input hinput
  rw [Nat.add_sub_of_le hmk] at hcarried
  rw [Sourced.uploads] at he
  split at he
  · cases he
  · rw [List.mem_singleton.1 he]
    exact ⟨b, _, rfl, rfl, hcarried⟩

theorem Settles.devoted {m : Nat} {ds : List InputDescriptor}
    {r : Except Halt (List InputDescriptor)} (h : Settles n known m ds t r)
    (hc : ∀ (k : Nat) (d : InputDescriptor), ds[k]? = some d → carries d.source (d.finalName (m + k))) :
    Devoted n known carries t := by
  cases h with
  | unasked xs hxs hr => simp [Devoted]
  | unlocated hl hb => exact hb.concerns
  | @refused t b xs d rest hds hr hb e =>
      subst hds
      have hd := hc xs.length d (by simp)
      rw [Devoted, List.append_assoc, or_located_append hb.settles]
      apply List.forall_mem_append.2 ⟨hb.concerns, List.forall_mem_append.2 ⟨uploads_concerns hc, ?_⟩⟩
      rw [List.forall_mem_singleton]
      exact ⟨b, _, rfl, rfl, hd⟩
  | uploaded xs hxs hl hb =>
      subst hxs
      rw [Devoted, or_located_append hb.settles]
      rw [← List.append_nil (xs.map Sourced.input)] at hc
      exact List.forall_mem_append.2 ⟨hb.concerns, uploads_concerns hc⟩

theorem Settles.cuts {m : Nat} {ds : List InputDescriptor} {h : Halt}
    (hS : Settles n known m ds t (.error h)) : h.CutsStart := by
  cases hS with
  | unlocated hl hb => exact hb.cuts
  | refused xs d rest hds hr hb e => exact ⟨_, rfl, .inr ⟨e, rfl⟩⟩

theorem Places.concerns {m : Nat} {outputs : List (Channel OutputDescriptor)}
    {r : Except Halt (List OutputDescriptor)} (h : Places n known m outputs t r) :
    ∀ e ∈ t, e.Concerns n b? carries := by
  cases h with
  | unasked hp address => simp
  | unlocated hp hb => exact hb.concerns
  | located hp hb => exact hb.concerns

theorem Places.cuts {m : Nat} {outputs : List (Channel OutputDescriptor)} {h : Halt}
    (hP : Places n known m outputs t (.error h)) : h.CutsStart := by
  cases hP with
  | unlocated hp hb => exact hb.cuts

theorem Completes.cuts {plan : Plan} {h : Halt} (hC : Completes plan known t (.error h)) :
    h.CutsStart := by
  cases hC with
  | @constrained e hc => exact ⟨_, rfl, .inl e.isFault⟩
  | unsettled hds hi => exact hi.cuts
  | unplaced hds hi ho => exact ho.cuts

theorem Submits.cuts {c : Configuration} {job : NormalizedJob} {h : Halt}
    (hS : Submits c job t (.error h)) : h.CutsStart := by
  cases hS with
  | @invalid e hb => exact ⟨_, rfl, .inl e.isFault⟩
  | refused hb e => exact ⟨_, rfl, .inr ⟨e, rfl⟩⟩

theorem Completes.devoted {plan : Plan} {r : Except Halt NormalizedJob}
    (h : Completes plan known t r)
    (hc : ∀ path channel, Carries plan.inputs path channel → carries path channel) :
    Devoted plan.jobName known carries t := by
  have hcarried {ds : List InputDescriptor} (hds : plan.inputs = ds.map .descriptor) (k : Nat)
      (d : InputDescriptor) (hk : ds[k]? = some d) : carries d.source (d.finalName (1 + k)) := by
    apply hc
    refine ⟨k, d, ?_, rfl, by rw [Nat.add_comm]⟩
    rw [hds, List.getElem?_map, hk]
    rfl
  cases h with
  | constrained hc => simp [Devoted]
  | unsettled hds hi => exact hi.devoted (hcarried hds)
  | unplaced hds hi ho => exact (hi.devoted (hcarried hds)).append ho.concerns
  | whole hds hi ho => exact (hi.devoted (hcarried hds)).append ho.concerns

theorem Submits.devoted {c : Configuration} {job : NormalizedJob} {r : Except Halt Job}
    (h : Submits c job t r) : Devoted job.name known carries t := by
  cases h with
  | invalid hb => simp [Devoted]
  | refused hb e =>
      rw [Devoted, List.forall_mem_singleton]
      exact (Job.createdBy_build hb none).name.symm
  | created hb =>
      rw [Devoted, List.forall_mem_singleton]
      exact (Job.createdBy_build hb none).name.symm

theorem Submits.name {c : Configuration} {job : NormalizedJob} {job' : Job}
    (h : Submits c job t (.ok job')) : job'.name = job.name := by
  cases h with
  | created hb => rfl

theorem Launches.devoted {c : Configuration} {plan : Plan} {r : Except Halt Job}
    (h : Launches c plan known t r)
    (hc : ∀ path channel, Carries plan.inputs path channel → carries path channel) :
    Devoted plan.jobName known carries t := by
  cases h with
  | incomplete hC => exact hC.devoted hc
  | submitted hC hS => exact (hC.devoted hc).append (hC.jobName ▸ hS.devoted)

theorem Launches.name {c : Configuration} {plan : Plan} {job : Job}
    (h : Launches c plan known t (.ok job)) : job.name = plan.jobName := by
  cases h with
  | submitted hC hS => rw [hS.name, hC.jobName]

theorem Launches.cuts {c : Configuration} {plan : Plan} {h : Halt}
    (hL : Launches c plan known t (.error h)) : h.CutsStart := by
  cases hL with
  | incomplete hC => exact hC.cuts
  | submitted hC hS => exact hS.cuts

end Concerning

/-- The hook keys what it uploads on the name of the job, and does not rename it. -/
def Adjustment.KeysOn (n : String) (carries : String → String → Prop) : Adjustment → Prop
  | done => True
  | fail h => h.Blames n
  | consult next => ∀ plan, plan.jobName = n → (next plan).KeysOn n carries
  | edit f next => (∀ plan, plan.jobName = n → (f plan).jobName = n) ∧ next.KeysOn n carries
  | bucket next => ∀ x : Except ClientError String,
      (next (x.mapError fun e => .failed (.remote e))).KeysOn n carries
  | ship path segments next => (∃ channel, segments = [n, channel] ∧ carries path channel) ∧
      ∀ x : Except ClientError String,
        (next (x.mapError fun e => .failed (.remote e))).KeysOn n carries

section Hooks

variable {n : String} {known : Option String} {carries : String → String → Prop} {t : List Event}

theorem Stows.isReply {path : String} {segments : List String} {r : Except Halt String}
    (h : Stows path segments known t r) : IsReply r := by
  cases h with
  | unlocated hb => exact hb.isReply
  | uploaded hb reply => exact ⟨reply, rfl⟩

theorem Stows.devoted {path channel : String} {r : Except Halt String}
    (h : Stows path [n, channel] known t r) (hc : carries path channel) : Devoted n known carries t := by
  cases h with
  | unlocated hb => exact hb.concerns
  | uploaded hb reply =>
      rw [Devoted, or_located_append hb.settles, List.forall_mem_append, List.forall_mem_singleton]
      exact ⟨hb.concerns, _, channel, rfl, rfl, hc⟩

theorem Adjusts.keeps {a : Adjustment} {plan : Plan} {r : Except Halt Plan}
    (h : Adjusts a plan known t r) (hn : plan.jobName = n) (ha : a.KeysOn n carries) :
    Devoted n known carries t ∧ (∀ plan', r = .ok plan' → plan'.jobName = n) ∧
      ∀ e, r = .error e → e.Blames n := by
  induction h with
  | done plan known =>
      refine ⟨by simp [Devoted], ?_, nofun⟩
      rintro _ ⟨rfl⟩
      exact hn
  | fail h plan known =>
      refine ⟨by simp [Devoted], nofun, ?_⟩
      rintro _ ⟨rfl⟩
      exact ha
  | consult h ih => exact ih hn (ha _ hn)
  | edit h ih => exact ih (ha.1 _ hn) ha.2
  | bucket hb h ih =>
      obtain ⟨x, rfl⟩ := hb.isReply
      obtain ⟨hD, hplan, hhalt⟩ := ih hn (ha x)
      exact ⟨Devoted.append hb.concerns hD, hplan, hhalt⟩
  | ship hs h ih =>
      obtain ⟨⟨channel, rfl, hc⟩, hnext⟩ := ha
      obtain ⟨x, rfl⟩ := hs.isReply
      obtain ⟨hD, hplan, hhalt⟩ := ih hn (hnext x)
      exact ⟨(hs.devoted hc).append hD, hplan, hhalt⟩

end Hooks

section Running

variable {n : String} {known : Option String} {carries : String → String → Prop} {t : List Event}
  {o : RunOptions} {a : Adjustment}

def Adjustment.LeavesCarried (a : Adjustment) (plan : Plan) (carries : String → String → Prop) : Prop :=
  ∀ known t plan', Adjusts a plan known t (.ok plan') →
    ∀ path channel, Carries plan'.inputs path channel → carries path channel

theorem Starts.keeps {c : Configuration} {r : Except Halt Job} (h : Starts c o a n known t r)
    (ha : a.KeysOn n carries) (hc : a.LeavesCarried ⟨n, o.inputs, o.outputs, none⟩ carries) :
    Devoted n known carries t ∧ (∀ job, r = .ok job → job.name = n) ∧
      ∀ e, r = .error e → e.Blames n := by
  cases h with
  | @constrained e he =>
      refine ⟨by simp [Devoted], nofun, ?_⟩
      rintro _ ⟨rfl⟩
      exact Halt.CutsStart.blames ⟨_, rfl, .inl e.isFault⟩
  | unadjusted ho hA =>
      obtain ⟨hD, -, hhalt⟩ := hA.keeps rfl ha
      refine ⟨hD, nofun, ?_⟩
      rintro _ ⟨rfl⟩
      exact hhalt _ rfl
  | launched ho hA hL =>
      obtain ⟨hD, hplan, -⟩ := hA.keeps rfl ha
      have hname := hplan _ rfl
      refine ⟨hD.append (hname ▸ hL.devoted (hc _ _ _ hA)), ?_, ?_⟩
      · rintro job rfl
        rw [hL.name, hname]
      · rintro e rfl
        exact hL.cuts.blames

theorem Job.settle_keeps {job : Job} {streaming : Bool} {r : Except Halt JobDescription}
    (h : Follows job.name streaming t r) :
    (job.settle r).2.name = job.name ∧ ∀ e, (job.settle r).1 = .error e → e.Blames job.name := by
  cases r with
  | error e =>
      refine ⟨rfl, ?_⟩
      rintro _ ⟨rfl⟩
      exact h.cuts.blames
  | ok d =>
      refine ⟨rfl, ?_⟩
      intro e he
      change job.outcome d = .error e at he
      rw [outcome] at he
      split at he
      · cases he
        rintro name reason ⟨rfl⟩
        rfl
      · cases he

/-- A run about job `n` alone, from processor `p` to `p'`. -/
structure KeepsName (n : String) (b? : Option String) (carries : String → String → Prop)
    (places : List (Channel OutputDescriptor) → Prop) (p : Processor) (t : List Event)
    (r : Except Halt Job) (p' : Processor) : Prop where
  events : ∀ e ∈ t, e.Concerns n b? carries
  outputs : ∀ q reply, .called (.create q) reply ∈ t →
    ∃ outputs, places outputs ∧ q.PlacesOutputs b? outputs
  history : p'.jobs = p.jobs ∨ ∃ job, job.name = n ∧ p'.jobs = p.jobs ++ [job]
  handle : ∀ job, r = .ok job → job.name = n
  failure : ∀ name reason, r = .error (.failed (.jobFailed name reason)) → name = n

theorem Runs.keepsName {places : List (Channel OutputDescriptor) → Prop} {p p' : Processor}
    {r : Except Halt Job} (h : Runs p o a n known t r p')
    (ha : a.KeysOn n carries) (hc : a.LeavesCarried ⟨n, o.inputs, o.outputs, none⟩ carries)
    (hp : ∀ v plan, Adjusts a ⟨n, o.inputs, o.outputs, none⟩ known v (.ok plan) →
      places plan.outputs) : KeepsName n (known.or (located t)) carries places p t r p' := by
  have houtputs (q : Request) (reply : (Call.create q).Reply) (hq : .called (.create q) reply ∈ t) :
      ∃ outputs, places outputs ∧ q.PlacesOutputs (known.or (located t)) outputs := by
    obtain ⟨v, plan, -, hA, hplaced⟩ := h.places hq
    exact ⟨plan.outputs, hp v plan hA, hplaced⟩
  cases h with
  | unstarted hs =>
      obtain ⟨hD, -, hhalt⟩ := hs.keeps ha hc
      refine ⟨hD, houtputs, .inl rfl, nofun, ?_⟩
      rintro name reason ⟨rfl⟩
      exact hhalt _ rfl name reason rfl
  | @left t job hs hw =>
      obtain ⟨hD, hjob, -⟩ := hs.keeps ha hc
      have hname := hjob job rfl
      refine ⟨hD, houtputs, .inr ⟨job, hname, rfl⟩, ?_, nofun⟩
      rintro _ ⟨rfl⟩
      exact hname
  | @followed t job u r hs hw hF =>
      obtain ⟨hD, hjob, -⟩ := hs.keeps ha hc
      have hname := hjob job rfl
      obtain ⟨hsettled, hhalt⟩ := job.settle_keeps hF
      have hwait : Devoted n (known.or (located t)) carries u := by
        rw [hname] at hF
        exact hF.concerns
      refine ⟨hD.append hwait, houtputs, .inr ⟨_, hsettled.trans hname, rfl⟩, ?_, ?_⟩
      · intro job' hr
        obtain ⟨d, -, rfl⟩ := Activity.map_eq_ok hr
        exact hsettled.trans hname
      · intro name reason hr
        rw [← hname]
        exact hhalt _ (Activity.map_eq_error hr) name reason rfl

end Running

section Scripts

variable {source : ScriptSource} {fs : File.System}

/-- A channel of a script run: one of the inputs, or the script's own. -/
def CarriesWith (inputs : List (Channel InputDescriptor)) (path channel : String) : Prop :=
  ∃ address, Carries (inputs ++ [.descriptor (ScriptSource.channel address)]) path channel

theorem carriesWith_source (inputs : List (Channel InputDescriptor)) (path : String) :
    CarriesWith inputs path Program.channelName :=
  ⟨path, inputs.length, ScriptSource.channel path, by simp, rfl, rfl⟩

theorem ScriptSource.adjustment_keysOn (n : String) (inputs : List (Channel InputDescriptor)) :
    (source.adjustment fs).KeysOn n (CarriesWith inputs) := by
  have hmount (program : Program) (address : String) :
      (mount program address).KeysOn n (CarriesWith inputs) := ⟨fun _ hn => hn, trivial⟩
  rw [adjustment]
  cases Program.resolve fs source with
  | error e => exact Halt.CutsStart.blames ⟨_, rfl, .inl e.isFault⟩
  | ok program =>
      dsimp only
      split
      · exact hmount program _
      · intro plan hn
        refine ⟨⟨Program.channelName, by rw [hn], carriesWith_source inputs _⟩, ?_⟩
        intro x
        cases x with
        | error e => exact Halt.CutsStart.blames ⟨_, rfl, .inr ⟨e, rfl⟩⟩
        | ok address => exact hmount program address

theorem ScriptSource.adjustment_leavesCarried (plan : Plan) :
    (source.adjustment fs).LeavesCarried plan (CarriesWith plan.inputs) := by
  intro known t plan' hA path channel hc
  obtain ⟨address, program, rfl⟩ := hA.mounted
  exact ⟨address, hc⟩

end Scripts

section Named

variable {σ : Type} (cs : Collaborators σ)

/-- What came of a run that started from `s` is about one job. Its name is the given one, or else it is
made from the time at which the run starts. -/
def HasOneName (o : RunOptions) (carries : String → String → Prop)
    (places : String → List (Channel OutputDescriptor) → Prop) (p : Processor) (s : Shared σ)
    (r : Except Halt Job) (p' : Processor) (s' : Shared σ) : Prop :=
  ∃ n t, n = chosenName cs p.configuration o.jobName s.world ∧ (∀ given ∈ o.jobName, n = given) ∧
    s'.trace = s.trace ++ t ∧ KeepsName n s'.bucket carries (places n) p t r p'

theorem chosenName_of_given {c : Configuration} {given? : Option String} (w : σ) :
    ∀ given ∈ given?, chosenName cs c given? w = given := by
  rintro given ⟨rfl⟩
  rfl

theorem HasOneName.of_runs {o : RunOptions} {a : Adjustment} {carries : String → String → Prop}
    {places : String → List (Channel OutputDescriptor) → Prop} {p p' : Processor} {s s' : Shared σ}
    {w : σ} {t : List Event} {r : Except Halt Job} (he : Effect cs { s with world := w } t s')
    (hR : Runs p o a (chosenName cs p.configuration o.jobName s.world) s.bucket t r p')
    (ha : ∀ n, a.KeysOn n carries) (hc : ∀ n, a.LeavesCarried ⟨n, o.inputs, o.outputs, none⟩ carries)
    (hp : ∀ n v plan, Adjusts a ⟨n, o.inputs, o.outputs, none⟩ s.bucket v (.ok plan) →
      places n plan.outputs) : HasOneName cs o carries places p s r p' s' := by
  refine ⟨_, t, rfl, chosenName_of_given cs s.world, he.trace, ?_⟩
  rw [he.bucket]
  exact hR.keepsName (ha _) (hc _) (hp _)

/-- Whatever the collaborators and the clock say, a run is about one job. With a hook that is so if the
hook keys what it does on the name it is shown. -/
theorem run_keeps_name (rounds : Nat) (o : RunOptions) (s : Shared σ) :
    (∀ p : Processor, HasOneName cs o (Carries o.inputs) (fun _ outputs => outputs = o.outputs) p s
      (p.run cs rounds o s).1.1 (p.run cs rounds o s).1.2 (p.run cs rounds o s).2) ∧
    (∀ (p : Processor) (a : Adjustment), (∀ n, a.KeysOn n fun _ _ => True) →
      HasOneName cs o (fun _ _ => True)
        (fun n outputs => ∃ v plan, Adjusts a ⟨n, o.inputs, o.outputs, none⟩ s.bucket v (.ok plan) ∧
          outputs = plan.outputs) p s
        (p.runWithHook cs rounds (a.hook cs) o s).1.1 (p.runWithHook cs rounds (a.hook cs) o s).1.2
        (p.runWithHook cs rounds (a.hook cs) o s).2) ∧
    ∀ (fs : File.System) (p : ScriptProcessor) (source : String) (scriptName : Option String),
      HasOneName cs o (CarriesWith o.inputs) (fun _ outputs => outputs = o.outputs) p.processor s
        (p.run cs fs rounds source scriptName o s).1.1
        (p.run cs fs rounds source scriptName o s).1.2.processor
        (p.run cs fs rounds source scriptName o s).2 := by
  refine ⟨?_, ?_, ?_⟩
  · intro p
    obtain ⟨w, t, he, hR⟩ := p.run_runs cs rounds o s
    refine .of_runs cs he hR (fun _ => trivial) ?_ ?_
    · rintro n known t plan ⟨⟩ path channel hc
      exact hc
    · rintro n v plan ⟨⟩
      rfl
  · intro p a ha
    obtain ⟨w, t, he, hR⟩ := p.runWithHook_runs cs rounds o a s
    exact .of_runs cs he hR ha (fun _ _ _ _ _ _ _ _ => trivial)
      fun n v plan hA => ⟨v, plan, hA, rfl⟩
  · intro fs p source scriptName
    obtain ⟨w, t, p', he, hp, hR⟩ := p.run_runs cs fs rounds source scriptName o s
    rw [hp]
    refine .of_runs cs he hR (fun n => ScriptSource.adjustment_keysOn n o.inputs)
      (fun n => ScriptSource.adjustment_leavesCarried ⟨n, o.inputs, o.outputs, none⟩) ?_
    intro n v plan hA
    obtain ⟨address, program, rfl⟩ := hA.mounted
    rfl

end Named

end Dispatch
