import Dispatch.Proofs.Names

namespace Dispatch

open Activity Storage ScriptSource

variable {job : String} {source : ScriptSource} {known : Option String} {t : List Event}

theorem Ships.getLast?_of_error {h : Halt} (hS : Ships job source known t (.error h)) :
    ∃ (c : Call) (e : ClientError), t.getLast? = some (.called c (.error e)) ∧
      h = .failed (.remote e) := by
  cases hS with
  | unlocated hr hb =>
      cases hb with
      | refused e => exact ⟨.defaultBucket, e, rfl, rfl⟩
  | refused hr hb e => exact ⟨_, e, List.getLast?_concat, rfl⟩

theorem Ships.of_ok {address : String} (hS : Ships job source known t (.ok address)) :
    if isRemote source.source then t = [] ∧ address = source.source
    else ∃ lookup bucket, Locates known lookup (.ok bucket) ∧
      t = lookup ++ [.called (.upload source.source (remoteUri bucket [job, Program.channelName]))
        (.ok address)] := by
  cases hS with
  | remote hr =>
      rw [if_pos hr]
      exact ⟨rfl, rfl⟩
  | uploaded hr hb =>
      rw [if_neg (by simp [hr])]
      exact ⟨_, _, hb, rfl⟩

theorem Ships.length_destinations {address : String} (hS : Ships job source known t (.ok address)) :
    (destinations t).length = if isRemote source.source then 0 else 1 := by
  cases hS with
  | remote hr =>
      rw [if_pos hr]
      rfl
  | uploaded hr hb =>
      rw [if_neg (by simp [hr]), destinations_append, hb.destinations_nil]
      rfl

variable {σ : Type} (cs : Collaborators σ) (fs : File.System) (source : ScriptSource) (plan : Plan)

/-- How preparing a plan can go, and the plan it leaves. -/
inductive Prepares (known : Option String) : List Event → Except Halt Unit → Plan → Prop
  | invalid {e} (he : Program.resolve fs source = .error e) :
      Prepares known [] (.error (.failed (.validation e))) plan
  | unshipped {program t h} (hp : Program.resolve fs source = .ok program)
      (hS : Ships plan.jobName source known t (.error h)) : Prepares known t (.error h) plan
  | mounted {program t address} (hp : Program.resolve fs source = .ok program)
      (hS : Ships plan.jobName source known t (.ok address)) :
      Prepares known t (.ok ()) { plan with
        inputs := plan.inputs ++ [.descriptor (channel address)]
        entrypoint := some program.entrypoint }

theorem hook_prepares (s : Shared σ) :
    ∃ t, Effect cs s t (source.hook cs fs ⟨s, plan⟩).2.shared ∧
      Prepares fs source plan s.bucket t (source.hook cs fs ⟨s, plan⟩).1
        (source.hook cs fs ⟨s, plan⟩).2.plan := by
  cases hp : Program.resolve fs source with
  | error e =>
      rw [hook_of_error cs hp]
      exact ⟨[], .refl s, .invalid hp⟩
  | ok program =>
      obtain ⟨t, ht, hS⟩ := source.ship_ships cs plan.jobName s
      rw [hook_of_ok cs hp]
      rcases hs : source.ship cs plan.jobName s with ⟨h | address, s'⟩
      · rw [hs] at ht hS
        exact ⟨t, ht, .unshipped hp hS⟩
      · rw [hs] at ht hS
        exact ⟨t, ht, .mounted hp hS⟩

theorem channel_eq (address : String) :
    channel address = { name := some "source", source := address, destination := "/code/source" } := by
  have hmount : Program.mountPoint = "/code/source" := by decide
  rw [channel, hmount]
  rfl

/-- A plan is prepared for a script in one of three ways. A script that cannot be run is refused before
anything is asked of anyone; a call that fails ends the preparation; in both cases the plan is what it was.
Or else the script is mounted behind the other inputs and is what is run, and all else in the plan stays. -/
theorem preparation_is_all_or_nothing (s : Shared σ) :
    ∃ t, Effect cs s t (source.hook cs fs ⟨s, plan⟩).2.shared ∧
      ((∃ e, Program.resolve fs source = .error e ∧ t = [] ∧
          source.hook cs fs ⟨s, plan⟩ = (.error (.failed (.validation e)), ⟨s, plan⟩)) ∨
        (∃ (c : Call) (e : ClientError) (s' : Shared σ), t.getLast? = some (.called c (.error e)) ∧
          source.hook cs fs ⟨s, plan⟩ = (.error (.failed (.remote e)), ⟨s', plan⟩)) ∨
        ∃ program address s', Program.resolve fs source = .ok program ∧
          source.hook cs fs ⟨s, plan⟩ = (.ok (), ⟨s',
            { jobName := plan.jobName
              inputs := plan.inputs ++ [.descriptor
                { name := some "source", source := address, destination := "/code/source" }]
              outputs := plan.outputs
              entrypoint := some program.entrypoint }⟩) ∧
          (destinations t).length = (if isRemote source.source then 0 else 1) ∧
          if isRemote source.source then t = [] ∧ address = source.source
          else ∃ lookup bucket, Locates s.bucket lookup (.ok bucket) ∧
            t = lookup ++ [.called (.upload source.source (remoteUri bucket [plan.jobName, "source"]))
              (.ok address)]) := by
  obtain ⟨t, ht, hP⟩ := hook_prepares cs fs source plan s
  rcases hx : source.hook cs fs ⟨s, plan⟩ with ⟨r, s', plan'⟩
  rw [hx] at ht hP
  refine ⟨t, ht, ?_⟩
  cases hP with
  | invalid he =>
      obtain rfl : s' = s := ht.eq_of_nil
      exact .inl ⟨_, he, rfl, rfl⟩
  | unshipped hp hS =>
      obtain ⟨c, e, hlast, rfl⟩ := hS.getLast?_of_error
      exact .inr (.inl ⟨c, e, s', hlast, rfl⟩)
  | mounted hp hS =>
      rw [channel_eq]
      exact .inr (.inr ⟨_, _, s', hp, rfl, hS.length_destinations, hS.of_ok⟩)

end Dispatch
