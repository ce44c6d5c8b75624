import Dispatch.Proofs.Activity
import Dispatch.Channel.Normalize
import Dispatch.Job.Handle

namespace Dispatch

def Event.failure? : Event → Option ClientError
  | .called _ (.error e) => some e
  | _ => none

def Quiet (t : List Event) : Prop := ∀ e ∈ t, e.failure? = none

@[simp] theorem quiet_nil : Quiet [] := by simp [Quiet]

theorem quiet_call (c : Call) (a : c.Answer) : Quiet [.called c (.ok a)] := by
  simp [Quiet, Event.failure?]

theorem Quiet.append {t u : List Event} (ht : Quiet t) (hu : Quiet u) : Quiet (t ++ u) :=
  fun e he =>
  (List.mem_append.1 he).elim (ht e) (hu e)

/-- How a stretch of the trace fits the result it came with: a failed call is the last event, and
what it failed with is the result. -/
inductive Ends {α : Type} : List Event → Except Halt α → Prop
  | quietly {t r} (ht : Quiet t) (hr : ∀ e, r ≠ .error (.failed (.remote e))) : Ends t r
  | failing {t} (ht : Quiet t) (c : Call) (e : ClientError) :
      Ends (t ++ [.called c (.error e)]) (.error (.failed (.remote e)))

namespace Ends

variable {α β : Type} {t u : List Event} {r : Except Halt α}

theorem quiet_of_ok {a : α} (h : Ends t (.ok a : Except Halt α)) : Quiet t := by
  cases h with
  | quietly ht hr => exact ht

theorem ok (ht : Quiet t) (a : α) : Ends t (.ok a : Except Halt α) :=
  .quietly ht (by intro e he; cases he)

theorem unfinished : Ends [] (.error .unfinished : Except Halt α) :=
  .quietly quiet_nil (by intro e he; cases he)

theorem call_failed (c : Call) (e : ClientError) :
    Ends [.called c (.error e)] (.error (.failed (.remote e)) : Except Halt α) :=
  .failing quiet_nil c e

theorem append (ht : Quiet t) (h : Ends u r) : Ends (t ++ u) r := by
  cases h with
  | quietly hu hr => exact .quietly (ht.append hu) hr
  | failing hu c e =>
      rw [← List.append_assoc]
      exact .failing (ht.append hu) c e

theorem retype {e : Halt} (h : Ends t (.error e : Except Halt α)) :
    Ends t (.error e : Except Halt β) := by
  cases h with
  | quietly ht hr => exact .quietly ht fun e he => hr e (by cases he; rfl)
  | failing ht c e => exact .failing ht c e

theorem last_failure {e : ClientError} (h : Ends t (.error (.failed (.remote e)) : Except Halt α)) :
    ∃ earlier c, t = earlier ++ [.called c (.error e)] := by
  cases h with
  | quietly ht hr => exact absurd rfl (hr e)
  | failing ht c e => exact ⟨_, c, rfl⟩

theorem failure_last {earlier later : List Event} {c : Call} {e : ClientError}
    (h : Ends (earlier ++ .called c (.error e) :: later) r) :
    later = [] ∧ r = .error (.failed (.remote e)) := by
  generalize ht : earlier ++ .called c (.error e) :: later = t at h
  cases h with
  | quietly hq hr =>
      have hf := hq (.called c (.error e)) (by simp [← ht])
      simp [Event.failure?] at hf
  | failing hq d f =>
      rcases List.eq_nil_or_concat later with rfl | ⟨init, last, rfl⟩
      · obtain ⟨-, hlast⟩ := List.append_inj' ht rfl
        have hef : Event.failure? (.called c (.error e)) = Event.failure? (.called d (.error f)) :=
          congrArg Event.failure? (List.cons.inj hlast).1
        cases hef
        exact ⟨rfl, rfl⟩
      · -- the failed call would be among the events before the last, which are quiet
        rw [List.concat_eq_append, ← List.cons_append, ← List.append_assoc] at ht
        obtain ⟨rfl, -⟩ := List.append_inj' ht rfl
        have hf := hq (.called c (.error e)) (by simp)
        simp [Event.failure?] at hf

end Ends

/-- A fault in what was asked for, found without asking anyone. -/
def ProcessingError.IsFault : ProcessingError → Prop
  | .validation _ | .typeConstraint _ => True
  | _ => False

def Halt.CutsStart (h : Halt) : Prop := ∃ e, h = .failed e ∧ (e.IsFault ∨ ∃ f, e = .remote f)

theorem TypeConstraint.isFault (c : TypeConstraint) : (ProcessingError.typeConstraint c).IsFault :=
  trivial

theorem ValidationError.isFault (v : ValidationError) : (ProcessingError.validation v).IsFault :=
  trivial

theorem ProcessingError.IsFault.ne_remote {e : ProcessingError} (h : e.IsFault) (f : ClientError) :
    e ≠ .remote f := by
  rintro rfl
  exact h

namespace Activity

variable {σ α β : Type} {P : Event → Prop}

/-- `x` adds events of `P` only, and stops at its first failed call or at a fault. -/
def Confined (P : Event → Prop) (x : Activity σ α) : Prop :=
  ∀ s, ∃ t, (x s).2.trace = s.trace ++ t ∧ (∀ e ∈ t, P e) ∧ Ends t (x s).1 ∧
    ∀ h, (x s).1 = .error h → h.CutsStart

namespace Confined

theorem of_silent {x : Activity σ α} (h : ∀ s, ∃ a t, x s = (.ok a, t) ∧ t.trace = s.trace) :
    Confined P x := by
  intro s
  obtain ⟨a, t, hx, ht⟩ := h s
  rw [hx]
  refine ⟨[], ?_, by simp, .ok quiet_nil a, by intro h hr; cases hr⟩
  rw [ht, List.append_nil]

theorem pure (a : α) : Confined P (pure a : Activity σ α) :=
  of_silent fun s => ⟨a, s, rfl, rfl⟩

theorem ofExcept {ε : Type} {wrap : ε → ProcessingError} (hw : ∀ e, (wrap e).IsFault)
    (x : Except ε α) : Confined P (ofExcept wrap x : Activity σ α) := by
  cases x with
  | ok a => exact pure a
  | error e =>
      intro s
      refine ⟨[], (List.append_nil _).symm, by simp, .quietly quiet_nil ?_, ?_⟩
      · intro f he
        exact (hw e).ne_remote f (Halt.failed.inj (Except.error.inj he))
      · rintro h ⟨rfl⟩
        exact ⟨wrap e, rfl, .inl (hw e)⟩

theorem bind {x : Activity σ α} {f : α → Activity σ β} (hx : Confined P x)
    (hf : ∀ a, Confined P (f a)) : Confined P (x >>= f) := by
  intro s
  obtain ⟨t, ht, hP, hE, hC⟩ := hx s
  rcases h : x s with ⟨e | a, s'⟩
  · rw [h] at ht hE hC
    rw [bind_error f h]
    refine ⟨t, ht, hP, hE.retype, ?_⟩
    rintro _ ⟨rfl⟩
    exact hC e rfl
  · rw [h] at ht hE
    rw [bind_ok f h]
    obtain ⟨u, hu, hP', hE', hC'⟩ := hf a s'
    refine ⟨t ++ u, ?_, ?_, hE'.append hE.quiet_of_ok, hC'⟩
    · rw [hu, ht, List.append_assoc]
    · intro e he
      exact (List.mem_append.1 he).elim (hP e) (hP' e)

variable (cs : Collaborators σ)

theorem perform {c : Call} (hc : ∀ reply, P (.called c reply)) : Confined P (perform cs c) := by
  intro s
  refine ⟨[.called c (cs.answer c s.world).1], rfl, by simpa using hc _, ?_⟩
  rw [perform_apply]
  cases h : (cs.answer c s.world).1 with
  | error e =>
      refine ⟨.call_failed c e, ?_⟩
      rintro _ ⟨rfl⟩
      exact ⟨_, rfl, .inr ⟨e, rfl⟩⟩
  | ok a => exact ⟨.ok (quiet_call c a) a, by intro h hr; cases hr⟩

theorem now : Confined P (now cs) :=
  of_silent fun _ => ⟨_, _, rfl, rfl⟩

theorem defaultBucket (hb : ∀ reply, P (.called .defaultBucket reply)) :
    Confined P (defaultBucket cs) := by
  intro s
  cases hs : s.bucket with
  | some b =>
      rw [defaultBucket_known cs hs]
      exact ⟨[], by simp, by simp, .ok quiet_nil b, by intro h hr; cases hr⟩
  | none =>
      obtain ⟨t, ht, hP, hE, hC⟩ := perform cs hb s
      cases h : (cs.answer .defaultBucket s.world).1 with
      | error e =>
          rw [defaultBucket_error cs hs h]
          rw [perform_error cs h] at ht hE hC
          exact ⟨t, ht, hP, hE, hC⟩
      | ok b =>
          rw [defaultBucket_ok cs hs h]
          rw [perform_ok cs h] at ht hE
          exact ⟨t, ht, hP, .ok hE.quiet_of_ok b, by intro h hr; cases hr⟩

end Confined

end Activity

end Dispatch
