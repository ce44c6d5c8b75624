import Dispatch.Proofs.Rounds

namespace Dispatch

open Activity

def LogPage.Closes (p : LogPage) : Prop := p.events = [] ∨ p.nextToken = none

def Event.nextToken? : Event → Option String
  | .called (.logs ..) (.ok page) => page.nextToken
  | _ => none

def latestToken (t : List Event) : Option String := (t.filterMap Event.nextToken?).getLast?

/-- Every fetch passes the token of the latest page before it that carried one, or else `start`. -/
def Resumes (job : String) (start : Option String) (t : List Event) : Prop :=
  ∀ u token reply v, t = u ++ .called (.logs job token) reply :: v →
    token = (latestToken u).or start

/-- A page that was fetched with a token: the fetch, and the events of the page as they are logged. -/
def fetched (job : String) (token : Option String) (page : LogPage) : List Event :=
  .called (.logs job token) (.ok page) :: page.events.map (.logged job)

inductive Drained (job : String) : List Event → Option ClientError → Prop
  | whole (fs : List (Option String × LogPage)) (f : Option String × LogPage)
      (hfs : ∀ g ∈ fs, ¬ g.2.Closes) (hf : f.2.Closes) :
      Drained job ((fs ++ [f]).flatMap fun f => fetched job f.1 f.2) none
  | broken (fs : List (Option String × LogPage)) (token : Option String) (e : ClientError)
      (hfs : ∀ g ∈ fs, ¬ g.2.Closes) :
      Drained job ((fs.flatMap fun f => fetched job f.1 f.2) ++ [.called (.logs job token) (.error e)])
        (some e)

def described (job : String) (d : JobDescription) : Event := .called (.describe job) (.ok d)

/-- A drain and the description after it, of a job that is still running. -/
structure Round (job : String) where
  drain : List Event
  description : JobDescription
  drained : Drained job drain none
  running : description.status.isTerminal = false

def Round.events {job : String} (x : Round job) : List Event := x.drain ++ [described job x.description]

/-- What ends the rounds: the drain or the description fails, or the job has ended. -/
inductive LastRound (job : String) : List Event → Except ClientError JobDescription → Prop
  | broken {v e} (hv : Drained job v (some e)) : LastRound job v (.error e)
  | refused {v} (hv : Drained job v none) (e : ClientError) :
      LastRound job (v ++ [.called (.describe job) (.error e)]) (.error e)
  | ended {v} (hv : Drained job v none) (d : JobDescription) (hd : d.status.isTerminal = true) :
      LastRound job (v ++ [described job d]) (.ok d)

inductive Job.Closing (job : Job) (d : JobDescription) : Except ProcessingError JobDescription → Prop
  | ended (h : d.status = .completed ∨ d.status = .stopped) : Closing job d (.ok d)
  | failed (h : d.status = .failed) :
      Closing job d
        (.error (.jobFailed job.name (d.failureReason.getD "no failure reason reported")))

/-- A wait without the log: what was called, what is returned, and the handle afterwards. -/
inductive Polls (job : Job) : List Event → Except ProcessingError JobDescription → Job → Prop
  | refused (ds : List JobDescription) (hds : ∀ d ∈ ds, d.status.isTerminal = false)
      (e : ClientError) :
      Polls job (ds.map (described job.name) ++ [.called (.describe job.name) (.error e)])
        (.error (.remote e)) job
  | ended {r} (ds : List JobDescription) (hds : ∀ d ∈ ds, d.status.isTerminal = false)
      (d : JobDescription) (hd : d.status.isTerminal = true) (hr : job.Closing d r) :
      Polls job (ds.map (described job.name) ++ [described job.name d]) r
        { job with terminalStatus := some d.status }

inductive Streams (job : Job) : List Event → Except ProcessingError JobDescription → Job → Prop
  | cut {v e} (xs : List (Round job.name)) (hv : LastRound job.name v (.error e)) :
      Streams job (xs.flatMap Round.events ++ v) (.error (.remote e)) job
  | broken {v d w e} (xs : List (Round job.name)) (hv : LastRound job.name v (.ok d))
      (hw : Drained job.name w (some e)) :
      Streams job (xs.flatMap Round.events ++ v ++ w) (.error (.remote e)) job
  | ended {v d w r} (xs : List (Round job.name)) (hv : LastRound job.name v (.ok d))
      (hw : Drained job.name w none) (hr : job.Closing d r) :
      Streams job (xs.flatMap Round.events ++ v ++ w) r { job with terminalStatus := some d.status }

theorem Job.isLast_iff {page : LogPage} : Job.isLast page = true ↔ page.Closes := by
  simp [Job.isLast, LogPage.Closes]

@[simp] theorem latestToken_append (t u : List Event) :
    latestToken (t ++ u) = (latestToken u).or (latestToken t) := by
  simp only [latestToken, List.filterMap_append, List.getLast?_append]

theorem latestToken_logged (job : String) (es : List LogEvent) :
    latestToken (es.map (.logged job)) = none := by
  have hnone : (es.map (.logged job)).filterMap Event.nextToken? = [] := by
    rw [List.filterMap_eq_nil_iff]
    intro e he
    obtain ⟨l, -, rfl⟩ := List.mem_map.1 he
    rfl
  rw [latestToken, hnone]
  rfl

theorem latestToken_fetched (job : String) (token : Option String) (page : LogPage) :
    latestToken (fetched job token page) = page.nextToken := by
  have hone : latestToken [.called (.logs job token) (.ok page)] = page.nextToken := by
    cases h : page.nextToken <;> simp [latestToken, Event.nextToken?, h]
  rw [fetched, ← List.singleton_append, latestToken_append, latestToken_logged, hone]
  rfl

theorem latestToken_append_describe (job : String) (t : List Event)
    (reply : (Call.describe job).Reply) :
    latestToken (t ++ [.called (.describe job) reply]) = latestToken t := by
  have hnone : latestToken [.called (.describe job) reply] = none := rfl
  rw [latestToken_append, hnone, Option.none_or]

namespace Resumes

variable {job : String} {start : Option String} {t u : List Event}

theorem append_iff : Resumes job start (t ++ u) ↔
    Resumes job start t ∧ Resumes job ((latestToken t).or start) u := by
  constructor
  · intro h
    constructor
    · rintro t₁ token reply t₂ rfl
      exact h t₁ token reply (t₂ ++ u) (by simp)
    · rintro u₁ token reply u₂ rfl
      have htoken := h (t ++ u₁) token reply u₂ (by simp)
      rwa [latestToken_append, Option.or_assoc] at htoken
  · rintro ⟨ht, hu⟩ v token reply w he
    rcases List.append_eq_append_iff.1 he.symm with ⟨t₂, rfl, hrest⟩ | ⟨u₁, rfl, rfl⟩
    · cases t₂ with
      | nil =>
          rw [List.append_nil] at hu
          exact hu [] token reply w hrest.symm
      | cons e t₂ =>
          obtain ⟨rfl, -⟩ := List.cons.inj hrest
          exact ht v token reply t₂ rfl
    · rw [latestToken_append, Option.or_assoc]
      exact hu u₁ token reply w rfl

theorem of_not_fetch (h : ∀ token reply, .called (.logs job token) reply ∉ t) :
    Resumes job start t := by
  rintro u token reply v rfl
  exact absurd (by simp) (h token reply)

theorem fetch_iff {token : Option String} {reply : Except ClientError LogPage} :
    Resumes job start [.called (.logs job token) reply] ↔ token = start := by
  constructor
  · intro h
    exact h [] token reply [] rfl
  · rintro rfl u token' reply' v h
    rcases List.append_eq_singleton_iff.1 h.symm with ⟨rfl, he⟩ | ⟨-, he⟩
    · cases he
      rfl
    · cases he

theorem fetched_iff {token : Option String} {page : LogPage} :
    Resumes job start (fetched job token page) ↔ token = start := by
  have hlogged (k : Option String) : Resumes job k (page.events.map (.logged job)) :=
    of_not_fetch (by simp)
  rw [fetched, ← List.singleton_append, append_iff, fetch_iff]
  exact and_iff_left (hlogged _)

theorem describe (reply : (Call.describe job).Reply) :
    Resumes job start [.called (.describe job) reply] :=
  of_not_fetch (by simp)

end Resumes

theorem Drained.cons {job : String} {token : Option String} {page : LogPage} {t : List Event}
    {e : Option ClientError} (hp : ¬ page.Closes) (h : Drained job t e) :
    Drained job (fetched job token page ++ t) e := by
  cases h with
  | whole fs f hfs hf => exact .whole ((token, page) :: fs) f (List.forall_mem_cons.2 ⟨hp, hfs⟩) hf
  | broken fs token' e hfs =>
      have hall : Drained job _ (some e) :=
        .broken ((token, page) :: fs) token' e (List.forall_mem_cons.2 ⟨hp, hfs⟩)
      rwa [List.flatMap_cons, List.append_assoc] at hall

theorem Drains.drained {job : String} {start : Option String} {t : List Event}
    {r : Except Halt (Option String)} (h : Drains job start t r) (hr : r ≠ .error .unfinished) :
    Resumes job start t ∧
      ((∃ e, r = .error (.failed (.remote e)) ∧ Drained job t (some e)) ∨
        r = .ok ((latestToken t).or start) ∧ Drained job t none) := by
  induction h with
  | cut token => exact absurd rfl hr
  | refused token e => exact ⟨Resumes.fetch_iff.2 rfl, .inl ⟨e, rfl, .broken [] token e nofun⟩⟩
  | last token page hl =>
      change Resumes job token (fetched job token page) ∧
        (_ ∨ _ = Except.ok ((latestToken (fetched job token page)).or token) ∧
          Drained job (fetched job token page) none)
      rw [latestToken_fetched]
      have h : Drained job _ none := .whole [] (token, page) nofun (Job.isLast_iff.1 hl)
      refine ⟨Resumes.fetched_iff.2 rfl, .inr ⟨rfl, ?_⟩⟩
      rwa [List.nil_append, List.flatMap_singleton] at h
  | @more token page t r hl rest ih =>
      have hpage : ¬ page.Closes := by simp [← Job.isLast_iff, hl]
      obtain ⟨hres, h⟩ := ih hr
      change Resumes job token (fetched job token page ++ t) ∧
        ((∃ e, _ ∧ Drained job (fetched job token page ++ t) (some e)) ∨
          _ = Except.ok ((latestToken (fetched job token page ++ t)).or token) ∧
            Drained job (fetched job token page ++ t) none)
      rw [latestToken_append, Resumes.append_iff, Resumes.fetched_iff, latestToken_fetched,
        Option.or_assoc]
      refine ⟨⟨rfl, hres⟩, ?_⟩
      rcases h with ⟨e, he, hD⟩ | ⟨hk, hD⟩
      · exact .inl ⟨e, he, hD.cons hpage⟩
      · exact .inr ⟨hk, hD.cons hpage⟩

section Reading

variable {job : String} {start : Option String} {t : List Event}

theorem Drains.whole {k : Option String} (h : Drains job start t (.ok k)) :
    Resumes job start t ∧ Drained job t none ∧ k = (latestToken t).or start := by
  obtain ⟨hres, ⟨e, he, -⟩ | ⟨hk, hD⟩⟩ := h.drained nofun
  · cases he
  · cases hk
    exact ⟨hres, hD, rfl⟩

theorem Drains.broken {h : Halt} (hD : Drains job start t (.error h)) (hh : h ≠ .unfinished) :
    Resumes job start t ∧ ∃ e, h = .failed (.remote e) ∧ Drained job t (some e) := by
  obtain ⟨hres, ⟨e, he, hbroken⟩ | ⟨hk, -⟩⟩ := hD.drained (by simpa using hh)
  · cases he
    exact ⟨hres, e, rfl, hbroken⟩
  · cases hk

theorem Drains.prepend {r : Except Halt (Option String)} {fs : List (Option String × LogPage)}
    (hfs : ∀ g ∈ fs, ¬ g.2.Closes)
    (hres : Resumes job start (fs.flatMap fun f => fetched job f.1 f.2))
    (h : Drains job ((latestToken (fs.flatMap fun f => fetched job f.1 f.2)).or start) t r) :
    Drains job start ((fs.flatMap fun f => fetched job f.1 f.2) ++ t) r := by
  induction fs generalizing start with
  | nil => exact h
  | cons f fs ih =>
      obtain ⟨hf, hfs⟩ := List.forall_mem_cons.1 hfs
      rw [List.flatMap_cons, Resumes.append_iff, Resumes.fetched_iff, latestToken_fetched] at hres
      rw [List.flatMap_cons, latestToken_append, latestToken_fetched, Option.or_assoc] at h
      obtain ⟨rfl, hres⟩ := hres
      rw [List.flatMap_cons, List.append_assoc]
      exact .more f.1 f.2 (by simpa [← Job.isLast_iff] using hf) (ih hfs hres h)

theorem Drained.drains_broken {e : ClientError} (h : Drained job t (some e))
    (hres : Resumes job start t) : Drains job start t (.error (.failed (.remote e))) := by
  cases h with
  | broken fs token e hfs =>
      rw [Resumes.append_iff, Resumes.fetch_iff] at hres
      obtain ⟨hres, rfl⟩ := hres
      exact .prepend hfs hres (.refused _ e)

theorem Drained.drains_whole (h : Drained job t none) (hres : Resumes job start t) :
    Drains job start t (.ok ((latestToken t).or start)) := by
  cases h with
  | whole fs f hfs hf =>
      rw [List.flatMap_append, List.flatMap_singleton, Resumes.append_iff, Resumes.fetched_iff] at hres
      rw [List.flatMap_append, List.flatMap_singleton, latestToken_append, latestToken_fetched,
        Option.or_assoc]
      obtain ⟨hres, hf'⟩ := hres
      refine .prepend hfs hres ?_
      rw [← hf']
      exact .last f.1 f.2 (Job.isLast_iff.2 hf)

end Reading

section Silent

variable {job : String} {start : Option String} {t : List Event}
  {r : Except Halt (JobDescription × Option String)}

theorem Watches.polled (h : Watches job false start t r) (hr : r ≠ .error .unfinished) :
    ∃ (ds : List JobDescription) (reply : Except ClientError JobDescription),
      (∀ d ∈ ds, d.status.isTerminal = false) ∧
      t = ds.map (described job) ++ [.called (.describe job) reply] ∧
      ((∃ e, reply = .error e ∧ r = .error (.failed (.remote e))) ∨
        ∃ d, reply = .ok d ∧ d.status.isTerminal = true ∧ r = .ok (d, start)) := by
  induction h with
  | cut token => exact absurd rfl hr
  | undrained hd => cases hd
  | refused hd e =>
      cases hd
      exact ⟨[], .error e, by simp, rfl, .inl ⟨e, rfl, rfl⟩⟩
  | ended hd d hx =>
      cases hd
      exact ⟨[], .ok d, by simp, rfl, .inr ⟨d, rfl, hx, rfl⟩⟩
  | running hd d hx rest ih =>
      cases hd
      obtain ⟨ds, reply, hds, rfl, h⟩ := ih hr
      exact ⟨d :: ds, reply, List.forall_mem_cons.2 ⟨hx, hds⟩, rfl, h⟩

theorem Watches.of_running {ds : List JobDescription} (hds : ∀ d ∈ ds, d.status.isTerminal = false)
    (h : Watches job false start t r) :
    Watches job false start (ds.map (described job) ++ t) r := by
  induction ds with
  | nil => exact h
  | cons d ds ih =>
      obtain ⟨hd, hds⟩ := List.forall_mem_cons.1 hds
      exact .running (.skipped start) d hd (ih hds)

end Silent

section Streaming

variable {job : String} {start : Option String} {t : List Event}

theorem Resumes.round_iff {v u : List Event} {reply : (Call.describe job).Reply} :
    Resumes job start (v ++ [.called (.describe job) reply] ++ u) ↔
      Resumes job start v ∧ Resumes job ((latestToken v).or start) u := by
  rw [append_iff, append_iff, latestToken_append_describe]
  exact and_congr_left fun _ => and_iff_left (.describe reply)

theorem Watches.streamed {r : Except Halt (JobDescription × Option String)}
    (h : Watches job true start t r) (hr : r ≠ .error .unfinished) :
    Resumes job start t ∧ ∃ (xs : List (Round job)) (v : List Event)
      (x : Except ClientError JobDescription), t = xs.flatMap Round.events ++ v ∧
      LastRound job v x ∧ ((∃ e, x = .error e ∧ r = .error (.failed (.remote e))) ∨
        ∃ d, x = .ok d ∧ r = .ok (d, (latestToken t).or start)) := by
  -- a round that the polling goes through is put in front of those it goes through later
  induction h with
  | cut token => exact absurd rfl hr
  | @undrained token t h hd =>
      cases hd with
      | drained hd =>
          obtain ⟨hres, e, rfl, hD⟩ := hd.broken (by simpa using hr)
          exact ⟨hres, [], t, .error e, rfl, .broken hD, .inl ⟨e, rfl, rfl⟩⟩
  | @refused token t token' hd e =>
      cases hd with
      | drained hd =>
          obtain ⟨hres, hD, -⟩ := hd.whole
          refine ⟨?_, [], _, .error e, rfl, .refused hD e, .inl ⟨e, rfl, rfl⟩⟩
          exact Resumes.append_iff.2 ⟨hres, .describe _⟩
  | @ended token t token' hd d hx =>
      cases hd with
      | drained hd =>
          obtain ⟨hres, hD, rfl⟩ := hd.whole
          refine ⟨?_, [], _, .ok d, rfl, .ended hD d hx, .inr ⟨d, rfl, ?_⟩⟩
          · exact Resumes.append_iff.2 ⟨hres, .describe _⟩
          · rw [latestToken_append_describe]
  | @running token t token' u r hd d hx rest ih =>
      cases hd with
      | drained hd =>
          obtain ⟨hres, hD, rfl⟩ := hd.whole
          obtain ⟨hres', xs, v, x, rfl, hv, hx'⟩ := ih hr
          rw [List.append_cons]
          refine ⟨Resumes.round_iff.2 ⟨hres, hres'⟩, ⟨t, d, hD, hx⟩ :: xs, v, x, ?_, hv, ?_⟩
          · simp only [List.flatMap_cons, Round.events, described, List.append_assoc]
          · rcases hx' with he | ⟨d', hd', hk⟩
            · exact .inl he
            · refine .inr ⟨d', hd', ?_⟩
              rw [hk, latestToken_append (t ++ _), latestToken_append_describe, Option.or_assoc]

theorem LastRound.watches_broken {v : List Event} {e : ClientError}
    (hv : LastRound job v (.error e)) (hres : Resumes job start v) :
    Watches job true start v (.error (.failed (.remote e))) := by
  cases hv with
  | broken hv => exact .undrained (.drained (hv.drains_broken hres))
  | refused hv e => exact .refused (.drained (hv.drains_whole (Resumes.append_iff.1 hres).1)) e

theorem LastRound.watches_ended {v : List Event} {d : JobDescription}
    (hv : LastRound job v (.ok d)) (hres : Resumes job start v) :
    Watches job true start v (.ok (d, (latestToken v).or start)) := by
  cases hv with
  | @ended v hv d hd =>
      rw [described, latestToken_append_describe]
      exact .ended (.drained (hv.drains_whole (Resumes.append_iff.1 hres).1)) d hd

theorem Watches.of_rounds {xs : List (Round job)} {v : List Event}
    {r : Except Halt (JobDescription × Option String)}
    (hres : Resumes job start (xs.flatMap Round.events))
    (h : Watches job true ((latestToken (xs.flatMap Round.events)).or start) v r) :
    Watches job true start (xs.flatMap Round.events ++ v) r := by
  induction xs generalizing start with
  | nil => exact h
  | cons x xs ih =>
      have hlatest : latestToken x.events = latestToken x.drain :=
        latestToken_append_describe job x.drain _
      rw [List.flatMap_cons, latestToken_append, hlatest, Option.or_assoc] at h
      rw [List.flatMap_cons, Round.events] at hres
      obtain ⟨hdrain, hrest⟩ := Resumes.round_iff.1 hres
      have hall := Watches.running (.drained (x.drained.drains_whole hdrain)) x.description x.running
        (ih hrest h)
      rwa [List.append_cons, ← List.append_assoc] at hall

end Streaming

section Settling

variable {job job' : Job} {t : List Event} {r : Except ProcessingError JobDescription}

theorem Job.closing_iff {d : JobDescription} (hd : d.status.isTerminal = true) :
    job.Closing d r ↔ job.outcome d = r.mapError .failed := by
  constructor
  · intro h
    cases h with
    | ended h =>
        apply if_neg
        rcases h with h | h <;> simp [h]
    | failed h => exact if_pos h
  · intro h
    unfold outcome at h
    split at h
    · next hx =>
        cases r with
        | error e =>
            cases h
            exact .failed hx
        | ok d' => cases h
    · next hx =>
        cases r with
        | error e => cases h
        | ok d' =>
            cases h
            refine .ended ?_
            cases hs : d.status <;> simp_all [JobStatus.isTerminal]

theorem Job.settle_error_iff {h : Halt} :
    job.settle (.error h) = (r.mapError .failed, job') ↔
      ∃ e, h = .failed e ∧ r = .error e ∧ job' = job := by
  rw [settle, Prod.mk.injEq, eq_comm (b := job')]
  constructor
  · rintro ⟨hr, rfl⟩
    cases r with
    | error e => exact ⟨e, Except.error.inj hr, rfl, rfl⟩
    | ok d => cases hr
  · rintro ⟨e, rfl, rfl, rfl⟩
    exact ⟨rfl, rfl⟩

theorem Job.settle_ok_iff {d : JobDescription} :
    job.settle (.ok d) = (r.mapError .failed, job') ↔
      job.outcome d = r.mapError .failed ∧ job' = { job with terminalStatus := some d.status } := by
  rw [settle, Prod.mk.injEq, eq_comm (b := job')]

theorem polls_iff : Polls job t r job' ↔
    ∃ x, Follows job.name false t x ∧ job.settle x = (r.mapError .failed, job') := by
  constructor
  · intro h
    cases h with
    | refused ds hds e =>
        have hW : Watches job.name false none _ _ := .of_running hds (.refused (.skipped none) e)
        exact ⟨_, .unended hW, rfl⟩
    | ended ds hds d hd hr =>
        have hW : Watches job.name false none _ _ := .of_running hds (.ended (.skipped none) d hd)
        have hF := Follows.ended hW (.skipped none)
        rw [List.append_nil] at hF
        exact ⟨_, hF, Job.settle_ok_iff.2 ⟨(Job.closing_iff hd).1 hr, rfl⟩⟩
  · rintro ⟨x, hF, hx⟩
    cases hF with
    | @unended t h hw =>
        obtain ⟨e, rfl, rfl, rfl⟩ := Job.settle_error_iff.1 hx
        obtain ⟨ds, reply, hds, rfl, ⟨e', rfl, he⟩ | ⟨d, -, -, hd⟩⟩ := hw.polled nofun
        · cases he
          exact .refused ds hds e'
        · cases hd
    | undrained hw hd => cases hd
    | @ended t u d token token' hw hd =>
        obtain ⟨ho, rfl⟩ := Job.settle_ok_iff.1 hx
        obtain ⟨ds, reply, hds, rfl, ⟨e', -, he⟩ | ⟨d', rfl, hterminal, hd'⟩⟩ := hw.polled nofun
        · cases he
        · cases hd'
          cases hd
          rw [List.append_nil]
          exact .ended ds hds d hterminal ((Job.closing_iff hterminal).2 ho)

theorem streams_iff : Streams job t r job' ∧ Resumes job.name none t ↔
    ∃ x, Follows job.name true t x ∧ job.settle x = (r.mapError .failed, job') := by
  -- rounds are put together to what the polling does, and the polling is cut into rounds
  constructor
  · rintro ⟨h, hres⟩
    cases h with
    | cut xs hv =>
        obtain ⟨hxs, hlast⟩ := Resumes.append_iff.1 hres
        exact ⟨_, .unended (.of_rounds hxs (hv.watches_broken hlast)), rfl⟩
    | broken xs hv hw =>
        obtain ⟨hall, hdrain⟩ := Resumes.append_iff.1 hres
        obtain ⟨hxs, hlast⟩ := Resumes.append_iff.1 hall
        have hW := Watches.of_rounds hxs (hv.watches_ended hlast)
        rw [← Option.or_assoc, ← latestToken_append] at hW
        exact ⟨_, .undrained hW (.drained (hw.drains_broken hdrain)), rfl⟩
    | @ended v d w r xs hv hw hr =>
        obtain ⟨hall, hdrain⟩ := Resumes.append_iff.1 hres
        obtain ⟨hxs, hlast⟩ := Resumes.append_iff.1 hall
        have hd : d.status.isTerminal = true := by
          cases hv with
          | ended hv d hd => exact hd
        have hW := Watches.of_rounds hxs (hv.watches_ended hlast)
        rw [← Option.or_assoc, ← latestToken_append] at hW
        refine ⟨_, .ended hW (.drained (hw.drains_whole hdrain)), ?_⟩
        exact Job.settle_ok_iff.2 ⟨(Job.closing_iff hd).1 hr, rfl⟩
  · rintro ⟨x, hF, hx⟩
    cases hF with
    | unended hw =>
        obtain ⟨e, rfl, rfl, rfl⟩ := Job.settle_error_iff.1 hx
        obtain ⟨hres, xs, v, x, rfl, hv, ⟨e', rfl, he⟩ | ⟨d, -, hd⟩⟩ := hw.streamed nofun
        · cases he
          exact ⟨.cut xs hv, hres⟩
        · cases hd
    | undrained hw hd =>
        obtain ⟨e, rfl, rfl, rfl⟩ := Job.settle_error_iff.1 hx
        obtain ⟨hres, xs, v, x, rfl, hv, ⟨e', -, he⟩ | ⟨d, rfl, hk⟩⟩ := hw.streamed nofun
        · cases he
        · cases hk
          cases hd with
          | drained hd =>
              obtain ⟨hdrain, e', he, hD⟩ := hd.broken nofun
              cases he
              exact ⟨.broken xs hv hD, Resumes.append_iff.2 ⟨hres, hdrain⟩⟩
    | ended hw hd =>
        obtain ⟨ho, rfl⟩ := Job.settle_ok_iff.1 hx
        have hterminal := hw.terminal.1
        obtain ⟨hres, xs, v, x, rfl, hv, ⟨e', -, he⟩ | ⟨d, rfl, hk⟩⟩ := hw.streamed nofun
        · cases he
        · cases hk
          cases hd with
          | drained hd =>
              obtain ⟨hdrain, hD, -⟩ := hd.whole
              exact ⟨.ended xs hv hD ((Job.closing_iff hterminal).2 ho),
                Resumes.append_iff.2 ⟨hres, hdrain⟩⟩

end Settling

/-- What a wait adds to the trace, with what it returns and the handle it leaves. -/
def Course (job : Job) : Bool → List Event → Except ProcessingError JobDescription → Job → Prop
  | false, t, r, job' => Polls job t r job'
  | true, t, r, job' => Streams job t r job' ∧ Resumes job.name none t

variable {σ : Type} (cs : Collaborators σ)

theorem wait_iff_course {job job' : Job} {streaming : Bool} {s s' : Shared σ}
    {r : Except ProcessingError JobDescription} :
    (∃ rounds, job.wait cs streaming rounds s = ((r.mapError .failed, job'), s')) ↔
      ∃ t, Effect cs s t s' ∧ Course job streaming t r job' := by
  have hr : r.mapError Halt.failed ≠ .error .unfinished := by cases r <;> nofun
  have hcourse (t : List Event) : Course job streaming t r job' ↔
      ∃ x, Follows job.name streaming t x ∧ job.settle x = (r.mapError .failed, job') := by
    cases streaming with
    | false => exact polls_iff
    | true => exact streams_iff
  rw [Job.wait_iff (x := (r.mapError .failed, job')) hr]
  simp only [hcourse, exists_and_left]

/-- A wait takes a course, any course that the service has the answers for, and no other; and with
the answers of a script it comes to its end. -/
theorem wait_takes_course (job : Job) (streaming : Bool) :
    (∀ {σ : Type} (cs : Collaborators σ) (s s' : Shared σ) (r : Except ProcessingError JobDescription)
      (job' : Job),
      (∃ rounds, job.wait cs streaming rounds s = ((r.mapError .failed, job'), s')) ↔
        ∃ t, Effect cs s t s' ∧ Course job streaming t r job') ∧
    ∀ s : Shared Script, ∃ t s' r job', Effect Script.collaborators s t s' ∧
      Course job streaming t r job' ∧ ∀ rounds, s.world.rounds ≤ rounds →
        job.wait Script.collaborators streaming rounds s = ((r.mapError .failed, job'), s') := by
  refine ⟨fun cs s s' r job' => wait_iff_course cs, fun s => ?_⟩
  have hended {rounds : Nat} (h : s.world.rounds ≤ rounds) :=
    Script.wait_ended job streaming h
  have hfirst := hended (Nat.le_refl _)
  rcases hw : job.wait Script.collaborators streaming s.world.rounds s with ⟨⟨x, job'⟩, s'⟩
  rw [hw] at hfirst
  obtain ⟨r, rfl⟩ : ∃ r : Except ProcessingError JobDescription, x = r.mapError .failed := by
    rcases x with (e | _) | d
    · exact ⟨.error e, rfl⟩
    · exact absurd rfl hfirst
    · exact ⟨.ok d, rfl⟩
  obtain ⟨t, ht, hC⟩ := (wait_iff_course Script.collaborators).1 ⟨_, hw⟩
  refine ⟨t, s', r, job', ht, hC, fun rounds hn => ?_⟩
  rw [← hw]
  exact Job.wait_agree (hended hn) (hended (Nat.le_refl _))

end Dispatch
