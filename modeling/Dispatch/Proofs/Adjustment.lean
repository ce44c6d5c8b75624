import Dispatch.Proofs.Normalization

namespace Dispatch

open Activity Storage

/-- The steps of a hook. Whatever is asked for, the answer decides how the hook goes on. -/
inductive Adjustment
  | done
  | fail (h : Halt)
  | consult (next : Plan → Adjustment)
  | edit (f : Plan → Plan) (next : Adjustment)
  | bucket (next : Except Halt String → Adjustment)
  | ship (path : String) (segments : List String) (next : Except Halt String → Adjustment)

def Staged.attempt {σ α : Type} (x : Activity σ α) : Staged σ (Except Halt α) := fun s =>
  match x s.shared with
  | (r, shared) => (.ok r, { s with shared })

variable {σ : Type} (cs : Collaborators σ)

def stow (path : String) (segments : List String) : Activity σ String := do
  let bucket ← defaultBucket cs
  upload cs path (remoteUri bucket segments)

namespace Adjustment

def hook : Adjustment → Staged σ Unit
  | done => pure ()
  | fail h => throw h
  | consult next => do
      let plan ← Staged.plan
      (next plan).hook
  | edit f next => do
      Staged.edit f
      next.hook
  | bucket next => do
      let r ← Staged.attempt (defaultBucket cs)
      (next r).hook
  | ship path segments next => do
      let r ← Staged.attempt (stow cs path segments)
      (next r).hook

theorem hook_done : done.hook cs = Hook.none := rfl

end Adjustment

inductive Stows (path : String) (segments : List String) :
    Option String → List Event → Except Halt String → Prop
  | unlocated {known t h} (hb : Locates known t (.error h)) : Stows path segments known t (.error h)
  | uploaded {known t b} (hb : Locates known t (.ok b)) (reply : Except ClientError String) :
      Stows path segments known (t ++ [.called (.upload path (remoteUri b segments)) reply])
        (reply.mapError fun e => .failed (.remote e))

/-- How a hook can go, from a plan and with the default bucket known or not, and the plan it leaves. -/
inductive Adjusts :
    Adjustment → Plan → Option String → List Event → Except Halt Plan → Prop
  | done (plan known) : Adjusts .done plan known [] (.ok plan)
  | fail (h plan known) : Adjusts (.fail h) plan known [] (.error h)
  | consult {next plan known t r} (h : Adjusts (next plan) plan known t r) :
      Adjusts (.consult next) plan known t r
  | edit {f next plan known t r} (h : Adjusts next (f plan) known t r) :
      Adjusts (.edit f next) plan known t r
  | bucket {next plan known t x u r} (hb : Locates known t x)
      (h : Adjusts (next x) plan (known.or (located t)) u r) :
      Adjusts (.bucket next) plan known (t ++ u) r
  | ship {path segments next plan known t x u r} (hs : Stows path segments known t x)
      (h : Adjusts (next x) plan (known.or (located t)) u r) :
      Adjusts (.ship path segments next) plan known (t ++ u) r

theorem stow_stows (path : String) (segments : List String) (s : Shared σ) :
    ∃ t, Effect cs s t (stow cs path segments s).2 ∧
      Stows path segments s.bucket t (stow cs path segments s).1 := by
  obtain ⟨t, ht, hL⟩ := defaultBucket_locates cs s
  rw [stow]
  rcases hb : defaultBucket cs s with ⟨h | b, s'⟩
  · rw [hb] at ht hL
    rw [bind_error _ hb]
    exact ⟨t, ht, .unlocated hL⟩
  · rw [hb] at ht hL
    rw [bind_ok _ hb, upload, perform_apply]
    exact ⟨_, ht.trans (.call s' (by simp) rfl), .uploaded hL _⟩

namespace Adjustment

variable (plan : Plan) (s : Shared σ)

theorem apply_consult (next : Plan → Adjustment) :
    Staged.apply ((consult next).hook cs) plan = Staged.apply ((next plan).hook cs) plan := rfl

theorem apply_edit (f : Plan → Plan) (next : Adjustment) :
    Staged.apply ((edit f next).hook cs) plan = Staged.apply (next.hook cs) (f plan) := rfl

theorem apply_bucket (next : Except Halt String → Adjustment) :
    Staged.apply ((bucket next).hook cs) plan s =
      Staged.apply ((next (defaultBucket cs s).1).hook cs) plan (defaultBucket cs s).2 := rfl

theorem apply_ship (path : String) (segments : List String) (next : Except Halt String → Adjustment) :
    Staged.apply ((ship path segments next).hook cs) plan s =
      Staged.apply ((next (stow cs path segments s).1).hook cs) plan (stow cs path segments s).2 :=
  rfl

theorem apply_adjusts (a : Adjustment) :
    ∃ t, Effect cs s t (Staged.apply (a.hook cs) plan s).2 ∧
      Adjusts a plan s.bucket t (Staged.apply (a.hook cs) plan s).1 := by
  induction a generalizing plan s with
  | done => exact ⟨[], .refl s, .done plan _⟩
  | fail h => exact ⟨[], .refl s, .fail h plan _⟩
  | consult next ih =>
      obtain ⟨t, ht, hA⟩ := ih plan plan s
      rw [apply_consult]
      exact ⟨t, ht, .consult hA⟩
  | edit f next ih =>
      obtain ⟨t, ht, hA⟩ := ih (f plan) s
      rw [apply_edit]
      exact ⟨t, ht, .edit hA⟩
  | bucket next ih =>
      obtain ⟨t, ht, hL⟩ := defaultBucket_locates cs s
      obtain ⟨u, hu, hA⟩ := ih (defaultBucket cs s).1 plan (defaultBucket cs s).2
      rw [apply_bucket]
      exact ⟨t ++ u, ht.trans hu, .bucket hL (ht.bucket ▸ hA)⟩
  | ship path segments next ih =>
      obtain ⟨t, ht, hS⟩ := stow_stows cs path segments s
      obtain ⟨u, hu, hA⟩ := ih (stow cs path segments s).1 plan (stow cs path segments s).2
      rw [apply_ship]
      exact ⟨t ++ u, ht.trans hu, .ship hS (ht.bucket ▸ hA)⟩

end Adjustment

namespace ScriptSource

variable (source : ScriptSource)

def mount (program : Program) (address : String) : Adjustment :=
  .edit (fun plan => { plan with
    inputs := plan.inputs ++ [.descriptor (channel address)]
    entrypoint := some program.entrypoint }) .done

def mountShipped (program : Program) : Except Halt String → Adjustment
  | .error h => .fail h
  | .ok address => mount program address

def adjustment (fs : File.System) : Adjustment :=
  match Program.resolve fs source with
  | .error e => .fail (.failed (.validation e))
  | .ok program =>
      if isRemote source.source then mount program source.source
      else .consult fun plan =>
        .ship source.source [plan.jobName, Program.channelName] (mountShipped program)

theorem ship_local (job : String) (hr : isRemote source.source = false) :
    source.ship cs job = stow cs source.source [job, Program.channelName] := by
  rw [ship, if_neg (by simp [hr])]
  rfl

theorem hook_adjustment (fs : File.System) : (source.adjustment fs).hook cs = source.hook cs fs := by
  rw [hook, adjustment]
  cases Program.resolve fs source with
  | error e => rfl
  | ok program =>
      funext x
      obtain ⟨s, plan⟩ := x
      cases hr : isRemote source.source with
      | true =>
          simp only [if_true, ship_remote cs _ hr]
          rfl
      | false =>
          simp only [Bool.false_eq_true, if_false, ship_local cs source _ hr]
          let address := stow cs source.source [plan.jobName, Program.channelName]
          change (mountShipped program (address s).1).hook cs ⟨(address s).2, plan⟩ =
            (Staged.lift address >>= fun a => (mount program a).hook cs) ⟨s, plan⟩
          rcases hs : address s with ⟨h | a, t⟩
          · rw [bind_error _ (Staged.lift_apply hs plan)]
            rfl
          · rw [bind_ok _ (Staged.lift_apply hs plan)]
            rfl

end ScriptSource

theorem Adjusts.mounted {source : ScriptSource} {fs : File.System} {plan plan' : Plan}
    {known : Option String} {t : List Event}
    (h : Adjusts (source.adjustment fs) plan known t (.ok plan')) :
    ∃ (address : String) (program : Program), plan' = { plan with
      inputs := plan.inputs ++ [.descriptor (ScriptSource.channel address)]
      entrypoint := some program.entrypoint } := by
  rw [ScriptSource.adjustment] at h
  cases hp : Program.resolve fs source with
  | error e =>
      rw [hp] at h
      cases h
  | ok program =>
      rw [hp] at h
      dsimp only at h
      split at h
      · cases h with
        | edit h =>
            cases h
            exact ⟨_, program, rfl⟩
      · cases h with
        | consult h =>
            cases h with
            | @ship _ _ _ _ _ t x u r hs h =>
                cases x with
                | error e => cases h
                | ok address =>
                    cases h with
                    | edit h =>
                        cases h
                        exact ⟨address, program, rfl⟩

end Dispatch
