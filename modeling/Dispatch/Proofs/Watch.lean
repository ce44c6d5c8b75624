import Dispatch.Proofs.Effect
import Dispatch.Proofs.Trace

namespace Dispatch

open Activity

variable {σ : Type} (cs : Collaborators σ)

/-- How a drain that starts from a token can go. Each page is logged before the next one is fetched,
and the token that is passed on is the latest there was. -/
inductive Drains (job : String) : Option String → List Event → Except Halt (Option String) → Prop
  | cut (token) : Drains job token [] (.error .unfinished)
  | refused (token e) :
      Drains job token [.called (.logs job token) (.error e)] (.error (.failed (.remote e)))
  | last (token) (page : LogPage) (hl : Job.isLast page = true) :
      Drains job token (.called (.logs job token) (.ok page) :: page.events.map (.logged job))
        (.ok (page.nextToken.or token))
  | more (token) (page : LogPage) {t r} (hl : Job.isLast page = false)
      (rest : Drains job (page.nextToken.or token) t r) :
      Drains job token
        (.called (.logs job token) (.ok page) :: page.events.map (.logged job) ++ t) r

inductive DrainsIf (job : String) :
    Bool → Option String → List Event → Except Halt (Option String) → Prop
  | skipped (token) : DrainsIf job false token [] (.ok token)
  | drained {token t r} (h : Drains job token t r) : DrainsIf job true token t r

/-- How the polling can go: a drain and a description, over and over, up to the first terminal
state. -/
inductive Watches (job : String) (streaming : Bool) :
    Option String → List Event → Except Halt (JobDescription × Option String) → Prop
  | cut (token) : Watches job streaming token [] (.error .unfinished)
  | undrained {token t h} (hd : DrainsIf job streaming token t (.error h)) :
      Watches job streaming token t (.error h)
  | refused {token t token'} (hd : DrainsIf job streaming token t (.ok token')) (e) :
      Watches job streaming token (t ++ [.called (.describe job) (.error e)])
        (.error (.failed (.remote e)))
  | ended {token t token'} (hd : DrainsIf job streaming token t (.ok token')) (d : JobDescription)
      (hx : d.status.isTerminal = true) :
      Watches job streaming token (t ++ [.called (.describe job) (.ok d)]) (.ok (d, token'))
  | running {token t token' u r} (hd : DrainsIf job streaming token t (.ok token'))
      (d : JobDescription)
      (hx : d.status.isTerminal = false) (rest : Watches job streaming token' u r) :
      Watches job streaming token (t ++ .called (.describe job) (.ok d) :: u) r

/-- How a wait can go: the polling, and one more drain after it. -/
inductive Follows (job : String) (streaming : Bool) : List Event → Except Halt JobDescription → Prop
  | unended {t h} (hw : Watches job streaming none t (.error h)) :
      Follows job streaming t (.error h)
  | undrained {t u d token h} (hw : Watches job streaming none t (.ok (d, token)))
      (hd : DrainsIf job streaming token u (.error h)) : Follows job streaming (t ++ u) (.error h)
  | ended {t u d token token'} (hw : Watches job streaming none t (.ok (d, token)))
      (hd : DrainsIf job streaming token u (.ok token')) : Follows job streaming (t ++ u) (.ok d)

def Event.IsReading : Event → Prop
  | .called (.logs ..) _ | .logged .. => True
  | _ => False

def Event.IsDescription : Event → Prop
  | .called (.describe _) _ => True
  | _ => False

def Event.IsObservation (streaming : Bool) (e : Event) : Prop :=
  e.IsDescription ∨ e.IsReading ∧ streaming = true

theorem Event.IsReading.not_description {e : Event} (h : e.IsReading) : ¬ e.IsDescription := by
  intro hd
  cases e with
  | called c reply => cases c <;> first | exact h | exact hd
  | logged job e => exact hd

def Halt.CutsWait (h : Halt) : Prop := h = .unfinished ∨ ∃ e, h = .failed (.remote e)

theorem quiet_page {job : String} {token : Option String} (page : LogPage) :
    Quiet (.called (.logs job token) (.ok page) :: page.events.map (.logged job)) := by
  intro e he
  rcases List.mem_cons.1 he with rfl | he
  · rfl
  · obtain ⟨l, -, rfl⟩ := List.mem_map.1 he
    rfl

theorem reading_page {job : String} {token : Option String} (page : LogPage) :
    ∀ e ∈ Event.called (.logs job token) (.ok page) :: page.events.map (.logged job),
      e.IsReading := by
  intro e he
  rcases List.mem_cons.1 he with rfl | he
  · trivial
  · obtain ⟨l, -, rfl⟩ := List.mem_map.1 he
    trivial

namespace Drains

variable {job : String} {token : Option String} {t : List Event} {r : Except Halt (Option String)}

theorem ends (h : Drains job token t r) : Ends t r := by
  induction h with
  | cut token => exact .unfinished
  | refused token e => exact .call_failed _ e
  | last token page hl => exact .ok (quiet_page page) _
  | more token page hl rest ih => exact ih.append (quiet_page page)

theorem cuts {h : Halt} (hD : Drains job token t (.error h)) : h.CutsWait := by
  generalize hr : Except.error h = r at hD
  induction hD with
  | cut token => cases hr; exact .inl rfl
  | refused token e => cases hr; exact .inr ⟨e, rfl⟩
  | last token page hl => cases hr
  | more token page hl rest ih => exact ih hr

theorem reading (h : Drains job token t r) : ∀ e ∈ t, e.IsReading := by
  induction h with
  | cut token => simp
  | refused token e => simp [Event.IsReading]
  | last token page hl => exact reading_page page
  | more token page hl rest ih =>
      intro e he
      exact (List.mem_append.1 he).elim (reading_page page e) (ih e)

end Drains

namespace DrainsIf

variable {job : String} {streaming : Bool} {token : Option String} {t : List Event}
  {r : Except Halt (Option String)}

theorem ends (h : DrainsIf job streaming token t r) : Ends t r := by
  cases h with
  | skipped token => exact .ok quiet_nil _
  | drained h => exact h.ends

theorem cuts {h : Halt} (hD : DrainsIf job streaming token t (.error h)) : h.CutsWait := by
  cases hD with
  | drained hD => exact hD.cuts

theorem reading (h : DrainsIf job streaming token t r) :
    ∀ e ∈ t, e.IsReading ∧ streaming = true := by
  cases h with
  | skipped token => simp
  | drained h => exact fun e he => ⟨h.reading e he, rfl⟩

theorem observing (h : DrainsIf job streaming token t r) : ∀ e ∈ t, e.IsObservation streaming :=
  fun e he => .inr (h.reading e he)

end DrainsIf

namespace Watches

variable {job : String} {streaming : Bool} {token : Option String} {t : List Event}
  {r : Except Halt (JobDescription × Option String)}

theorem ends (h : Watches job streaming token t r) : Ends t r := by
  induction h with
  | cut token => exact .unfinished
  | undrained hd => exact hd.ends.retype
  | refused hd e => exact (Ends.call_failed _ e).append hd.ends.quiet_of_ok
  | ended hd d hx => exact .ok (hd.ends.quiet_of_ok.append (quiet_call (.describe _) d)) _
  | running hd d hx rest ih =>
      rw [List.append_cons]
      exact ih.append (hd.ends.quiet_of_ok.append (quiet_call (.describe _) d))

theorem cuts {h : Halt} (hW : Watches job streaming token t (.error h)) : h.CutsWait := by
  generalize hr : Except.error h = r at hW
  induction hW with
  | cut token => cases hr; exact .inl rfl
  | undrained hd => cases hr; exact hd.cuts
  | refused hd e => cases hr; exact .inr ⟨e, rfl⟩
  | ended hd d hx => cases hr
  | running hd d hx rest ih => exact ih hr

theorem observing (h : Watches job streaming token t r) : ∀ e ∈ t, e.IsObservation streaming := by
  induction h with
  | cut token => simp
  | undrained hd => exact hd.observing
  | refused hd e =>
      intro e' he
      rcases List.mem_append.1 he with he | he
      · exact hd.observing e' he
      · rw [List.mem_singleton.1 he]
        exact .inl trivial
  | ended hd d hx =>
      intro e' he
      rcases List.mem_append.1 he with he | he
      · exact hd.observing e' he
      · rw [List.mem_singleton.1 he]
        exact .inl trivial
  | running hd d hx rest ih =>
      intro e' he
      rcases List.mem_append.1 he with he | he
      · exact hd.observing e' he
      · rcases List.mem_cons.1 he with rfl | he
        · exact .inl trivial
        · exact ih e' he

theorem terminal {d : JobDescription} {token' : Option String}
    (h : Watches job streaming token t (.ok (d, token'))) :
    d.status.isTerminal = true ∧ ∃ u, t = u ++ [.called (.describe job) (.ok d)] := by
  generalize hr : Except.ok (d, token') = r at h
  induction h with
  | cut token => cases hr
  | undrained hd => cases hr
  | refused hd e => cases hr
  | ended hd d' hx => cases hr; exact ⟨hx, _, rfl⟩
  | running hd d' hx rest ih =>
      obtain ⟨hx', u, rfl⟩ := ih hr
      exact ⟨hx', _, by rw [← List.cons_append, ← List.append_assoc]⟩

end Watches

namespace Follows

variable {job : String} {streaming : Bool} {t : List Event} {r : Except Halt JobDescription}

theorem ends (h : Follows job streaming t r) : Ends t r := by
  cases h with
  | unended hw => exact hw.ends.retype
  | undrained hw hd => exact hd.ends.retype.append hw.ends.quiet_of_ok
  | ended hw hd => exact .ok (hw.ends.quiet_of_ok.append hd.ends.quiet_of_ok) _

theorem cuts {h : Halt} (hF : Follows job streaming t (.error h)) : h.CutsWait := by
  cases hF with
  | unended hw => exact hw.cuts
  | undrained hw hd => exact hd.cuts

theorem observing (h : Follows job streaming t r) : ∀ e ∈ t, e.IsObservation streaming := by
  cases h with
  | unended hw => exact hw.observing
  | undrained hw hd =>
      exact fun e he => (List.mem_append.1 he).elim (hw.observing e) (hd.observing e)
  | ended hw hd => exact fun e he => (List.mem_append.1 he).elim (hw.observing e) (hd.observing e)

theorem terminal {d : JobDescription} (h : Follows job streaming t (.ok d)) :
    d.status.isTerminal = true := by
  cases h with
  | ended hw hd => exact hw.terminal.1

end Follows

namespace Job

variable (job : Job) (streaming : Bool)

theorem logEvents_effect (es : List LogEvent) (s : Shared σ) :
    ∃ s', (job.logEvents es : Activity σ Unit) s = (.ok (), s') ∧
      Effect cs s (es.map (.logged job.name)) s' := by
  induction es generalizing s with
  | nil => exact ⟨s, rfl, .refl s⟩
  | cons e es ih =>
      obtain ⟨s', hs', hE⟩ :=
        ih { s with sink := s.sink.write job.name e, trace := s.trace ++ [.logged job.name e] }
      exact ⟨s', hs', (Effect.log s job.name e).trans hE⟩

theorem drain_drains (rounds : Nat) (token : Option String) (s : Shared σ) :
    ∃ t, Effect cs s t (job.drain cs rounds token s).2 ∧
      Drains job.name token t (job.drain cs rounds token s).1 := by
  induction rounds generalizing token s with
  | zero => exact ⟨[], .refl s, .cut token⟩
  | succ rounds ih =>
      rw [drain]
      cases ha : (cs.answer (.logs job.name token) s.world).1 with
      | error e =>
          rw [bind_error _ (perform_error cs ha)]
          exact ⟨_, .call s (by simp) ha, .refused token e⟩
      | ok page =>
          obtain ⟨s', hs', hE⟩ :=
            logEvents_effect cs job page.events (s.after cs (.logs job.name token))
          have hpage := (Effect.call s (by simp) ha).trans hE
          rw [bind_ok _ (perform_ok cs ha), bind_ok _ hs']
          cases hl : isLast page with
          | true => exact ⟨_, hpage, .last token page hl⟩
          | false =>
              obtain ⟨t, ht, hD⟩ := ih (page.nextToken.or token) s'
              exact ⟨_, hpage.trans ht, .more token page hl hD⟩

theorem drainIf_drains (rounds : Nat) (token : Option String) (s : Shared σ) :
    ∃ t, Effect cs s t (job.drainIf cs streaming rounds token s).2 ∧
      DrainsIf job.name streaming token t (job.drainIf cs streaming rounds token s).1 := by
  cases streaming with
  | false => exact ⟨[], .refl s, .skipped token⟩
  | true =>
      obtain ⟨t, ht, hD⟩ := drain_drains cs job rounds token s
      exact ⟨t, ht, .drained hD⟩

theorem watch_watches (pages rounds : Nat) (token : Option String) (s : Shared σ) :
    ∃ t, Effect cs s t (job.watch cs streaming pages rounds token s).2 ∧
      Watches job.name streaming token t (job.watch cs streaming pages rounds token s).1 := by
  induction rounds generalizing token s with
  | zero => exact ⟨[], .refl s, .cut token⟩
  | succ rounds ih =>
      rw [watch]
      obtain ⟨t, ht, hD⟩ := drainIf_drains cs job streaming pages token s
      rcases hd : job.drainIf cs streaming pages token s with ⟨h | token', s'⟩
      · rw [hd] at ht hD
        rw [bind_error _ hd]
        exact ⟨t, ht, .undrained hD⟩
      · rw [hd] at ht hD
        rw [bind_ok _ hd, describe]
        cases ha : (cs.answer (.describe job.name) s'.world).1 with
        | error e =>
            rw [bind_error _ (perform_error cs ha)]
            exact ⟨_, ht.trans (.call s' (by simp) ha), .refused hD e⟩
        | ok d =>
            rw [bind_ok _ (perform_ok cs ha)]
            cases hx : d.status.isTerminal with
            | true => exact ⟨_, ht.trans (.call s' (by simp) ha), .ended hD d hx⟩
            | false =>
                obtain ⟨u, hu, hW⟩ := ih token' (s'.after cs (.describe job.name))
                exact ⟨_, ht.trans ((Effect.call s' (by simp) ha).trans hu), .running hD d hx hW⟩

theorem follow_follows (rounds : Nat) (s : Shared σ) :
    ∃ t, Effect cs s t (job.follow cs streaming rounds s).2 ∧
      Follows job.name streaming t (job.follow cs streaming rounds s).1 := by
  rw [follow]
  obtain ⟨t, ht, hW⟩ := watch_watches cs job streaming rounds rounds none s
  rcases hw : job.watch cs streaming rounds rounds none s with ⟨h | ⟨d, token⟩, s'⟩
  · rw [hw] at ht hW
    rw [bind_error _ hw]
    exact ⟨t, ht, .unended hW⟩
  · rw [hw] at ht hW
    rw [bind_ok _ hw]
    dsimp only
    obtain ⟨u, hu, hD⟩ := drainIf_drains cs job streaming rounds token s'
    rcases hd : job.drainIf cs streaming rounds token s' with ⟨h | token', s''⟩
    · rw [hd] at hu hD
      rw [bind_error _ hd]
      exact ⟨t ++ u, ht.trans hu, .undrained hW hD⟩
    · rw [hd] at hu hD
      rw [bind_ok _ hd]
      exact ⟨t ++ u, ht.trans hu, .ended hW hD⟩

end Job

end Dispatch
