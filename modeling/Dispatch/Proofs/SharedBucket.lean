import Dispatch.Proofs.Thrift
import Dispatch.Session

namespace Dispatch

open Activity Storage

/-- What can be done through a session: asking for the default bucket, runs, hooks by themselves, and
following jobs. -/
inductive Task
  | defaultBucket
  | run (p : Processor) (o : RunOptions)
  | runWithHook (a : Adjustment) (p : Processor) (o : RunOptions)
  | runScript (files : File.System) (p : ScriptProcessor) (source : String)
      (scriptName : Option String) (o : RunOptions)
  | prepare (a : Adjustment) (plan : Plan)
  | describe (job : Job)
  | stop (job : Job)
  | wait (job : Job) (streaming : Bool)

variable {σ : Type} (cs : Collaborators σ) (rounds : Nat)

namespace Task

def perform : Task → StateM (Shared σ) Unit
  | defaultBucket => discard (Activity.defaultBucket cs).run
  | run p o => discard (p.run cs rounds o)
  | runWithHook a p o => discard (p.runWithHook cs rounds (a.hook cs) o)
  | runScript files p source scriptName o => discard (p.run cs files rounds source scriptName o)
  | prepare a plan => discard (Staged.apply (a.hook cs) plan).run
  | describe job => discard (job.describe cs).run
  | stop job => discard (job.stop cs).run
  | wait job streaming => discard (job.wait cs streaming rounds)

/-- A run needs the default bucket for local inputs, for a local script and for outputs that are bare
paths, unless it ends before because an argument is wrong. -/
def NeedsBucket (w : σ) : Task → Prop
  | defaultBucket => True
  | run _ o =>
      (∀ c ∈ o.inputs, c.isDescriptor = true) ∧ (AnyLocalChannel o.inputs ∨ AnyPath o.outputs)
  | runWithHook a p o => o.NeedsBucket a (chosenName cs p.configuration o.jobName w)
  | runScript files p source scriptName o =>
      (∀ c ∈ o.inputs, c.isDescriptor = true) ∧
        (∃ program, Program.resolve files { source, scriptName, tag := p.tag } = .ok program) ∧
        (isRemote source = false ∨ AnyLocalChannel o.inputs ∨ AnyPath o.outputs)
  | prepare a plan => a.NeedsBucket (fun _ => False) plan
  | describe _ | stop _ | wait .. => False

def Outputs (w : σ) (known : Option String) (t : List Event)
    (outputs : List (Channel OutputDescriptor)) : Task → Prop
  | run _ o => outputs = o.outputs
  | runWithHook a p o => ∃ v plan, v <+: t ∧
      Adjusts a ⟨chosenName cs p.configuration o.jobName w, o.inputs, o.outputs, none⟩ known v
        (.ok plan) ∧ outputs = plan.outputs
  | runScript _ _ _ _ o => outputs = o.outputs
  | _ => False

structure Law (task : Task) (u : Shared σ) (t : List Event) (u' : Shared σ) : Prop where
  trace : u'.trace = u.trace ++ t
  bucket : u'.bucket = u.bucket.or (located t)
  thrifty : Thrifty u.bucket t
  asks : u.bucket = none → task.NeedsBucket cs u.world → AsksFirst t
  spares : ¬ task.NeedsBucket cs u.world → ∀ e ∈ t, ¬ e.IsLookup
  places : ∀ q reply, .called (.create q) reply ∈ t →
    ∃ outputs, task.Outputs cs u.world u.bucket t outputs ∧ q.PlacesOutputs u'.bucket outputs

end Task

theorem anyLocalChannel_append_remote {inputs : List (Channel InputDescriptor)} {d : InputDescriptor}
    (hd : isRemote d.source = true) :
    AnyLocalChannel (inputs ++ [.descriptor d]) ↔ AnyLocalChannel inputs := by
  constructor
  · rintro ⟨d', hmem, hlocal⟩
    rcases List.mem_append.1 hmem with h | h
    · exact ⟨d', h, hlocal⟩
    · cases List.mem_singleton.1 h
      simp [hd] at hlocal
  · rintro ⟨d', hmem, hlocal⟩
    exact ⟨d', List.mem_append_left _ hmem, hlocal⟩

theorem ScriptSource.needsBucket_iff (source : ScriptSource) (fs : File.System) (o : RunOptions)
    (name : String) :
    o.NeedsBucket (source.adjustment fs) name ↔
      (∀ c ∈ o.inputs, c.isDescriptor = true) ∧ (∃ program, Program.resolve fs source = .ok program) ∧
        (isRemote source.source = false ∨ AnyLocalChannel o.inputs ∨ AnyPath o.outputs) := by
  rw [RunOptions.NeedsBucket, adjustment]
  refine and_congr_right fun ho => ?_
  cases Program.resolve fs source with
  | error e => simp [Adjustment.NeedsBucket]
  | ok program =>
      cases hr : isRemote source.source with
      | false => simp [Adjustment.NeedsBucket]
      | true =>
          have hmounted : ∀ c ∈ o.inputs ++ [.descriptor (channel source.source)],
              c.isDescriptor = true := Processor.mounted_isDescriptor ho source.source
          have hlocal : AnyLocalChannel (o.inputs ++ [.descriptor (channel source.source)]) ↔
              AnyLocalChannel o.inputs := anyLocalChannel_append_remote hr
          simp only [if_true, mount, Adjustment.NeedsBucket, Plan.NeedsBucket, hlocal]
          rw [and_iff_right hmounted]
          simp

namespace Task

variable {u u' : Shared σ} {t : List Event}

theorem Law.of_runs {task : Task} {p p' : Processor} {o : RunOptions} {a : Adjustment}
    {r : Except Halt Job} {w : σ} (he : Effect cs { u with world := w } t u')
    (hr : Runs p o a (chosenName cs p.configuration o.jobName u.world) u.bucket t r p')
    (hneeds : task.NeedsBucket cs u.world ↔
      o.NeedsBucket a (chosenName cs p.configuration o.jobName u.world))
    (houtputs : ∀ v plan, v <+: t →
      Adjusts a ⟨chosenName cs p.configuration o.jobName u.world, o.inputs, o.outputs, none⟩
        u.bucket v (.ok plan) → task.Outputs cs u.world u.bucket t plan.outputs) : task.Law cs u t u' where
  trace := he.trace
  bucket := he.bucket
  thrifty := hr.thrifty
  asks hb hn := by
    rw [hb] at hr
    exact hr.asksFirst (hneeds.1 hn)
  spares hn := hr.spares (mt hneeds.2 hn)
  places q reply hq := by
    obtain ⟨v, plan, hv, ha, hplaced⟩ := hr.places hq
    refine ⟨plan.outputs, houtputs v plan hv ha, ?_⟩
    rwa [he.bucket]

theorem Law.of_neutral {task : Task} (he : Effect cs u t u') (ht : ∀ e ∈ t, e.IsNeutral)
    (hn : ¬ task.NeedsBucket cs u.world)
    (hq : ∀ q reply, .called (.create q) reply ∉ t) : task.Law cs u t u' where
  trace := he.trace
  bucket := he.bucket
  thrifty := .of_neutral _ ht
  asks _ h := absurd h hn
  spares _ := fun e h => (ht e h).not_lookup
  places q reply h := absurd h (hq q reply)

theorem Law.of_adjusts {a : Adjustment} {plan : Plan} {r : Except Halt Plan} (he : Effect cs u t u')
    (h : Adjusts a plan u.bucket t r) : (prepare a plan).Law cs u t u' where
  trace := he.trace
  bucket := he.bucket
  thrifty := h.thrifty
  asks hb hn := by
    rcases h.asksFirst hb hn with h | ⟨-, plan', -, h⟩
    · exact h
    · exact h.elim
  spares hn := by
    rw [(h.silent hn).1]
    simp
  places q reply hq := absurd hq (not_mem_create h.preparing)

theorem perform_law (task : Task) (u : Shared σ) :
    ∃ t, task.Law cs u t (task.perform cs rounds u).2 := by
  cases task with
  | defaultBucket =>
      obtain ⟨t, ht, hL⟩ := defaultBucket_locates cs u
      refine ⟨t, ht.trace, ht.bucket, hL.thrifty, ?_, fun hn => absurd trivial hn, ?_⟩
      · intro hb _
        rw [hb] at hL
        exact hL.asksFirst
      · intro q reply hq
        exact absurd hq (not_mem_create hL.preparing)
  | run p o =>
      obtain ⟨w, t, ht, hR⟩ := p.run_runs cs rounds o u
      refine ⟨t, .of_runs cs ht hR and_self_left.symm ?_⟩
      intro v plan _ ha
      cases ha
      rfl
  | runWithHook a p o =>
      obtain ⟨w, t, ht, hR⟩ := p.runWithHook_runs cs rounds o a u
      exact ⟨t, .of_runs cs ht hR Iff.rfl fun v plan hv ha => ⟨v, plan, hv, ha, rfl⟩⟩
  | runScript files p source scriptName o =>
      obtain ⟨w, t, p', ht, -, hR⟩ := p.run_runs cs files rounds source scriptName o u
      refine ⟨t, .of_runs cs ht hR (ScriptSource.needsBucket_iff _ files o _).symm ?_⟩
      intro v plan _ ha
      obtain ⟨address, program, rfl⟩ := ha.mounted
      rfl
  | prepare a plan =>
      obtain ⟨t, ht, hA⟩ := a.apply_adjusts cs plan u
      exact ⟨t, .of_adjusts cs ht hA⟩
  | describe job =>
      have ht : Effect cs u _ (u.after cs (.describe job.name)) := .call u (by simp) rfl
      exact ⟨_, .of_neutral cs ht (by simp [Event.IsNeutral]) id (by simp)⟩
  | stop job =>
      have ht : Effect cs u _ (u.after cs (.stop job.name)) := .call u (by simp) rfl
      exact ⟨_, .of_neutral cs ht (by simp [Event.IsNeutral]) id (by simp)⟩
  | wait job streaming =>
      obtain ⟨t, r, ht, hF, -⟩ := job.wait_effect cs streaming rounds u
      refine ⟨t, .of_neutral cs ht hF.neutral id ?_⟩
      intro q reply hq
      rcases hF.observing _ hq with h | ⟨h, -⟩ <;> cases h

end Task

/-- What can be done with a session and its clones. -/
inductive Usage
  | clone (i : Nat)
  | pollEvery (i : Nat) (d : Duration)
  | perform (i : Nat) (task : Task)

namespace Sessions

def use (s : Sessions σ) : Usage → Sessions σ
  | .clone i => ((s.clone? i).map (·.1)).getD s
  | .pollEvery i d => s.withPollInterval i d
  | .perform i task => ((s.through i (task.perform cs rounds)).map (·.2)).getD s

structure ShareOne (s : Sessions σ) : Prop where
  cells : s.handles.cells = [located s.trace]
  handles : ∀ p ∈ s.handles.handles, p.1 = 0
  thrifty : Thrifty none s.trace

def view (s : Sessions σ) : Shared σ where
  world := s.world
  bucket := located s.trace
  sink := s.sink
  trace := s.trace

variable {s : Sessions σ} {i : Nat} (h : s.ShareOne)
include h

theorem ShareOne.oneCell : s.handles.OneCell (located s.trace) := ⟨h.cells, h.handles⟩

theorem ShareOne.clone : (s.use cs rounds (.clone i)).ShareOne := by
  rw [use, clone?]
  cases hk : s.handles.clone? i with
  | none => exact h
  | some k =>
      have hone := h.oneCell.clone? hk
      exact ⟨hone.cells, hone.handles, h.thrifty⟩

theorem ShareOne.pollEvery (d : Duration) : (s.use cs rounds (.pollEvery i d)).ShareOne := by
  rw [use, withPollInterval, Handles.setOwn]
  cases hp : s.handles.handles[i]? with
  | none => exact h
  | some p =>
      refine ⟨h.cells, ?_, h.thrifty⟩
      intro q hq
      rcases List.mem_or_eq_of_mem_set hq with hq | rfl
      · exact h.handles q hq
      · exact h.handles p (List.mem_of_getElem? hp)

theorem ShareOne.through (task : Task) {p : Nat × Duration}
    (hp : s.handles.handles[i]? = some p) :
    ∃ t u s', task.Law cs s.view t u ∧ s.through i (task.perform cs rounds) = some ((), s') ∧
      s'.trace = s.trace ++ t ∧ s'.handles = { s.handles with cells := [located s'.trace] } := by
  obtain ⟨t, hL⟩ := task.perform_law cs rounds s.view
  rw [Sessions.through, h.oneCell.cell? (List.getElem?_eq_some_iff.1 hp).1]
  refine ⟨t, _, _, hL, rfl, hL.trace, ?_⟩
  have h0 := h.handles p (List.mem_of_getElem? hp)
  have hlocated : (task.perform cs rounds s.view).2.bucket =
      located (task.perform cs rounds s.view).2.trace := by
    rw [hL.bucket, hL.trace]
    exact (located_append _ _).symm
  simp only [Handles.setCell, hp, h0, h.cells]
  exact congrArg (fun b => { s.handles with cells := [b] }) hlocated

theorem ShareOne.use (step : Usage) : (s.use cs rounds step).ShareOne := by
  cases step with
  | clone i => exact h.clone cs rounds
  | pollEvery i d => exact h.pollEvery cs rounds d
  | perform i task =>
      cases hp : s.handles.handles[i]? with
      | none =>
          rw [Sessions.use, Sessions.through]
          simpa [Handles.cell?, hp] using h
      | some p =>
          obtain ⟨t, u, s', hL, ht, htrace, hhandles⟩ := h.through cs rounds task hp
          rw [Sessions.use, ht]
          change s'.ShareOne
          refine ⟨?_, ?_, ?_⟩
          · rw [hhandles]
          · rw [hhandles]
            exact h.handles
          · rw [htrace]
            exact thrifty_append.2 ⟨h.thrifty, hL.thrifty⟩

omit h in
theorem shareOne_foldl (h : s.ShareOne) (steps : List Usage) :
    (steps.foldl (Sessions.use cs rounds) s).ShareOne := by
  induction steps generalizing s with
  | nil => exact h
  | cons step steps ih => exact ih (h.use cs rounds step)

omit h in
theorem shareOne_openWith (w : σ) (interval : Duration) :
    (({ world := w } : Sessions σ).openWith interval).1.ShareOne where
  cells := rfl
  handles := by simp [openWith, Handles.add, Handles.empty]
  thrifty := .nil none

/-- The default bucket over the life of a session and its clones. -/
structure FindsOnce (s : Sessions σ) : Prop where
  /-- Once the service has named it, it is not asked again. -/
  once : ∀ earlier later b, s.trace = earlier ++ .called .defaultBucket (.ok b) :: later →
    ∀ e ∈ later, ¬ e.IsLookup
  /-- Whatever is uploaded goes below the bucket that was named before. -/
  below : ∀ earlier later path uri reply, s.trace = earlier ++ .called (.upload path uri) reply :: later →
    ∃ b segments, located earlier = some b ∧ uri = remoteUri b segments
  /-- What is done next through any handle asks first if it needs a bucket that is still unknown, never
  asks if it needs none, and places outputs in the one bucket there is. -/
  next : ∀ i < s.handles.handles.length, ∀ task : Task, ∃ t s',
    s.through i (task.perform cs rounds) = some ((), s') ∧ s'.trace = s.trace ++ t ∧
    (located s.trace = none → task.NeedsBucket cs s.world → AsksFirst t) ∧
    (¬ task.NeedsBucket cs s.world → ∀ e ∈ t, ¬ e.IsLookup) ∧
    ∀ q reply, .called (.create q) reply ∈ t → ∃ outputs,
      task.Outputs cs s.world (located s.trace) t outputs ∧ q.PlacesOutputs (located s'.trace) outputs

theorem ShareOne.findsOnce : s.FindsOnce cs rounds where
  once earlier later b ht := by
    have hthrifty := h.thrifty
    rw [ht] at hthrifty
    exact hthrifty.after_found
  below earlier later path uri reply ht := by
    have hthrifty := h.thrifty
    rw [ht] at hthrifty
    exact hthrifty.upload_below
  next i hi task := by
    obtain ⟨t, u, s', hL, ht, htrace, -⟩ :=
      h.through cs rounds task (List.getElem?_eq_getElem hi)
    refine ⟨t, s', ht, htrace, hL.asks, hL.spares, ?_⟩
    intro q reply hq
    obtain ⟨outputs, ho, hplaced⟩ := hL.places q reply hq
    refine ⟨outputs, ho, ?_⟩
    rw [htrace, located_append]
    exact hL.bucket ▸ hplaced

omit h in
/-- However a session and its clones are used, and whatever the service answers, the default bucket is
found once. -/
theorem bucket_found_once (w : σ) (interval : Duration) (steps : List Usage) :
    (steps.foldl (Sessions.use cs rounds)
      (({ world := w } : Sessions σ).openWith interval).1).FindsOnce cs rounds :=
  (shareOne_foldl cs rounds (shareOne_openWith w interval) steps).findsOnce cs rounds

end Sessions

end Dispatch
