import Dispatch.Program

namespace Dispatch

section Steps

variable {ε α β : Type} {x : Except ε α} {f : α → Except ε β}

theorem bind_eq_ok_iff {b : β} :
    (x >>= f) = .ok b ↔ ∃ a, x = .ok a ∧ f a = .ok b := by
  cases x with
  | error e => exact iff_of_false nofun nofun
  | ok a => exact ⟨fun h => ⟨a, rfl, h⟩, fun ⟨_, rfl, h⟩ => h⟩

theorem bind_eq_error_iff {e : ε} :
    (x >>= f) = .error e ↔ x = .error e ∨ ∃ a, x = .ok a ∧ f a = .error e := by
  cases x with
  | error e' => exact ⟨fun | rfl => .inl rfl, fun | .inl rfl => rfl⟩
  | ok a => exact ⟨fun h => .inr ⟨a, rfl, h⟩, fun h => h.elim nofun fun ⟨_, rfl, h⟩ => h⟩

end Steps

variable {σ : Type} (cs : Collaborators σ)

def Shared.after (s : Shared σ) (c : Call) : Shared σ :=
  { s with
    world := (cs.answer c s.world).2
    trace := s.trace ++ [.called c (cs.answer c s.world).1] }

namespace Activity

variable {S ε α β : Type}

theorem bind_ok {x : ExceptT ε (StateM S) α} (f : α → ExceptT ε (StateM S) β) {s t : S}
    {a : α} (h : x s = (.ok a, t)) : (x >>= f) s = f a t := by
  simp only [bind, ExceptT.bind, ExceptT.mk, StateT.bind, h]
  rfl

theorem bind_error {x : ExceptT ε (StateM S) α} (f : α → ExceptT ε (StateM S) β) {s t : S}
    {e : ε} (h : x s = (.error e, t)) : (x >>= f) s = (.error e, t) := by
  simp only [bind, ExceptT.bind, ExceptT.mk, StateT.bind, h]
  rfl

theorem bind_pure_apply (x : Activity σ α) (f : α → β) (s : Shared σ) :
    (x >>= fun a => pure (f a)) s = ((x s).1.map f, (x s).2) := by
  rcases h : x s with ⟨e | a, t⟩
  · exact bind_error _ h
  · exact bind_ok _ h

theorem bind_eq_ok {x : ExceptT ε (StateM S) α} {f : α → ExceptT ε (StateM S) β} {s u : S} {b : β}
    (h : (x >>= f) s = (.ok b, u)) : ∃ a t, x s = (.ok a, t) ∧ f a t = (.ok b, u) := by
  rcases hx : x s with ⟨e | a, t⟩
  · rw [bind_error f hx] at h
    cases h
  · rw [bind_ok f hx] at h
    exact ⟨a, t, rfl, h⟩

theorem map_eq_ok {r : Except Halt α} {f : α → β} {b : β} (h : r.map f = .ok b) :
    ∃ a, r = .ok a ∧ f a = b := by
  cases r with
  | error e => cases h
  | ok a => exact ⟨a, rfl, Except.ok.inj h⟩

theorem map_eq_error {r : Except Halt α} {f : α → β} {h : Halt} (hr : r.map f = .error h) :
    r = .error h := by
  cases r with
  | error e =>
      cases hr
      rfl
  | ok a => cases hr

theorem perform_apply (c : Call) (s : Shared σ) :
    perform cs c s =
      ((cs.answer c s.world).1.mapError fun e => .failed (.remote e), s.after cs c) := rfl

theorem perform_ok {c : Call} {s : Shared σ} {a : c.Answer} (h : (cs.answer c s.world).1 = .ok a) :
    perform cs c s = (.ok a, s.after cs c) := by
  rw [perform_apply, h]
  rfl

theorem perform_error {c : Call} {s : Shared σ} {e : ClientError}
    (h : (cs.answer c s.world).1 = .error e) :
    perform cs c s = (.error (.failed (.remote e)), s.after cs c) := by
  rw [perform_apply, h]
  rfl

section OfExcept

variable {ε : Type} (wrap : ε → ProcessingError) (s : Shared σ)

theorem ofExcept_ok (a : α) : ofExcept wrap (.ok a) s = (.ok a, s) := rfl

theorem ofExcept_error (e : ε) :
    (ofExcept wrap (.error e) : Activity σ α) s = (.error (.failed (wrap e)), s) := rfl

end OfExcept

theorem defaultBucket_known {s : Shared σ} {b : String} (h : s.bucket = some b) :
    defaultBucket cs s = (.ok b, s) := by
  simp only [defaultBucket, h]

theorem defaultBucket_ok {s : Shared σ} {b : String} (hs : s.bucket = none)
    (h : (cs.answer .defaultBucket s.world).1 = .ok b) :
    defaultBucket cs s = (.ok b, { s.after cs .defaultBucket with bucket := some b }) := by
  simp only [defaultBucket, hs, perform_ok cs h]

theorem defaultBucket_error {s : Shared σ} {e : ClientError} (hs : s.bucket = none)
    (h : (cs.answer .defaultBucket s.world).1 = .error e) :
    defaultBucket cs s = (.error (.failed (.remote e)), s.after cs .defaultBucket) := by
  simp only [defaultBucket, hs, perform_error cs h]

end Activity

namespace Staged

variable {α : Type}

theorem lift_apply {x : Activity σ α} {s t : Shared σ} {r : Except Halt α} (h : x s = (r, t))
    (plan : Plan) : lift x ⟨s, plan⟩ = (r, ⟨t, plan⟩) := by
  simp only [lift, h]

end Staged

namespace ScriptSource

open Program Activity

variable {fs : File.System} {source : ScriptSource}

theorem hook_of_error {e : ValidationError} (h : resolve fs source = .error e) (x : Staging σ) :
    source.hook cs fs x = (.error (.failed (.validation e)), x) := by
  rw [hook, h]
  rfl

theorem hook_of_ok {program : Program} (h : resolve fs source = .ok program) (plan : Plan) (s : Shared σ) :
    source.hook cs fs ⟨s, plan⟩ =
      match source.ship cs plan.jobName s with
      | (.error e, t) => (.error e, ⟨t, plan⟩)
      | (.ok address, t) => (.ok (), ⟨t, { plan with
          inputs := plan.inputs ++ [.descriptor (channel address)]
          entrypoint := some program.entrypoint }⟩) := by
  have hr := ofExcept_ok ProcessingError.validation s program
  have hplan : (Staged.plan : Staged σ Plan) ⟨s, plan⟩ = (.ok plan, ⟨s, plan⟩) := rfl
  rw [hook, h, bind_ok _ (Staged.lift_apply hr plan), bind_ok _ hplan]
  rcases hs : source.ship cs plan.jobName s with ⟨e | address, t⟩
  · exact bind_error _ (Staged.lift_apply hs plan)
  · rw [bind_ok _ (Staged.lift_apply hs plan)]
    rfl

end ScriptSource

namespace Staged

open Program ScriptSource Activity

theorem apply_hook (fs : File.System) (source : ScriptSource) (plan : Plan) :
    apply (hook cs fs source) plan = do
      let program ← ofExcept .validation (resolve fs source)
      let address ← source.ship cs plan.jobName
      return { plan with
        inputs := plan.inputs ++ [.descriptor (channel address)]
        entrypoint := some program.entrypoint } := by
  funext s
  cases hp : resolve fs source with
  | error e => rw [apply, hook_of_error cs hp, bind_error _ (ofExcept_error _ s e)]
  | ok program =>
      rw [apply, hook_of_ok cs hp, bind_ok _ (ofExcept_ok _ s program)]
      rcases hs : source.ship cs plan.jobName s with ⟨e | address, t⟩
      · rw [bind_error _ hs]
      · rw [bind_ok _ hs]
        rfl

end Staged

end Dispatch
