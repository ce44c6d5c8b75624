import Dispatch.Proofs.Course

namespace Dispatch

def Event.ending? : Event → Option JobDescription
  | .called (.describe _) (.ok d) => if d.status.isTerminal then some d else none
  | _ => none

def endings (t : List Event) : List JobDescription := t.filterMap Event.ending?

theorem endings_append (t u : List Event) : endings (t ++ u) = endings t ++ endings u :=
  List.filterMap_append

theorem endings_described (job : String) (d : JobDescription) :
    endings [described job d] = if d.status.isTerminal then [d] else [] := by
  by_cases h : d.status.isTerminal = true <;> simp [endings, described, Event.ending?, h]

theorem mem_endings {job : String} {d : JobDescription} {t : List Event}
    (hd : d.status.isTerminal = true) (h : described job d ∈ t) : d ∈ endings t :=
  List.mem_filterMap.2 ⟨_, h, if_pos hd⟩

theorem Event.IsReading.ending? {e : Event} (h : e.IsReading) : e.ending? = none := by
  cases e with
  | logged job l => rfl
  | called c reply => cases c <;> first | rfl | exact h.elim

section Endings

variable {job : String} {streaming : Bool} {token : Option String} {t : List Event}

theorem DrainsIf.endings_nil {r : Except Halt (Option String)} (h : DrainsIf job streaming token t r) :
    endings t = [] :=
  List.filterMap_eq_nil_iff.2 fun e he => (h.reading e he).1.ending?

theorem Watches.endings_eq {r : Except Halt (JobDescription × Option String)}
    (h : Watches job streaming token t r) : endings t = (r.toOption.map Prod.fst).toList := by
  induction h with
  | cut token => rfl
  | undrained hd => exact hd.endings_nil
  | refused hd e =>
      rw [endings_append, hd.endings_nil]
      rfl
  | ended hd d hx =>
      have hone := endings_described job d
      rw [if_pos hx] at hone
      rw [endings_append, hd.endings_nil]
      exact hone
  | running hd d hx rest ih =>
      have hnone := endings_described job d
      rw [if_neg (by simp [hx])] at hnone
      rw [List.append_cons, endings_append, endings_append, hd.endings_nil, ih]
      exact congrArg (· ++ _) hnone

/-- Once the end has been seen, only reading the log can fail. -/
theorem Follows.after_end {r : Except Halt JobDescription} (h : Follows job streaming t r)
    {d : JobDescription} (hd : d ∈ endings t) (hr : r ≠ .error .unfinished) :
    Quiet t ∧ r = .ok d ∨
      ∃ earlier token e, t = earlier ++ [.called (.logs job token) (.error e)] ∧ streaming = true ∧
        r = .error (.failed (.remote e)) := by
  cases h with
  | unended hw =>
      rw [hw.endings_eq] at hd
      cases hd
  | undrained hw hD =>
      cases hD with
      | drained hD =>
          -- a drain that breaks off has its failed fetch for its last event
          obtain ⟨-, e, rfl, hbroken⟩ := hD.broken (by simpa using hr)
          cases hbroken with
          | broken fs token e hfs => exact .inr ⟨_, token, e, (List.append_assoc ..).symm, rfl, rfl⟩
  | ended hw hD =>
      rw [endings_append, hw.endings_eq, hD.endings_nil, List.append_nil] at hd
      obtain rfl := List.mem_singleton.1 hd
      exact .inl ⟨hw.ends.quiet_of_ok.append hD.ends.quiet_of_ok, rfl⟩

end Endings

variable {σ : Type} (cs : Collaborators σ)

/-- A wait that has seen the end of the job keeps it exactly if no call has failed. A call that fails
then is a fetch of the log; the wait ends with it and leaves the handle as it was. -/
theorem wait_records_end (job : Job) (streaming : Bool) (rounds : Nat) (s : Shared σ) :
    ∃ t, Effect cs s t (job.wait cs streaming rounds s).2 ∧
      ∀ d, described job.name d ∈ t → d.status.isTerminal = true →
        (job.wait cs streaming rounds s).1.1 ≠ .error .unfinished →
          (Quiet t ∧ (job.wait cs streaming rounds s).1 =
            (job.outcome d, { job with terminalStatus := some d.status })) ∨
          ∃ earlier token e, t = earlier ++ [.called (.logs job.name token) (.error e)] ∧
            streaming = true ∧
            (job.wait cs streaming rounds s).1 = (.error (.failed (.remote e)), job) := by
  obtain ⟨t, r, ht, hF, hr⟩ := job.wait_effect cs streaming rounds s
  refine ⟨t, ht, fun d hd hx hfinished => ?_⟩
  rw [hr] at hfinished ⊢
  rcases hF.after_end (mem_endings hx hd) (Job.finished_of_settle hfinished) with ⟨hq, rfl⟩ | hlost
  · exact .inl ⟨hq, rfl⟩
  · obtain ⟨earlier, token, e, hte, hstreaming, rfl⟩ := hlost
    exact .inr ⟨earlier, token, e, hte, hstreaming, rfl⟩

/-- The job is seen to have completed, and nothing on the handle says so. -/
theorem end_lost_with_last_page :
    let job : Job := { name := "job", inputs := [], outputs := [] }
    let d : JobDescription := { jobName := "job", status := .completed }
    let w : Script := { descriptions := [.ok d], pages := [.ok ⟨[], none⟩, .error (.api 503 "no log")] }
    let ended := job.wait Script.collaborators true w.rounds { world := w }
    described "job" d ∈ ended.2.trace ∧ d.status.isTerminal = true ∧
      ended.1.1 = .error (.failed (.remote (.api 503 "no log"))) ∧ ended.1.2.terminalStatus = none := by
  refine ⟨?_, rfl, rfl, rfl⟩
  exact List.mem_cons_of_mem _ List.mem_cons_self

end Dispatch
