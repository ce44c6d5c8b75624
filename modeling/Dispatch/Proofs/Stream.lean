import Dispatch.Proofs.Run

namespace Dispatch

open Activity

variable {σ : Type} (cs : Collaborators σ)

/-- The position from which a page is asked for: the start, or where the token stands. -/
def Stands (marks : String → Nat → Prop) : Option String → Nat → Prop
  | none, n => n = 0
  | some k, n => marks k n

/-- What a service promises of the page at position `n` of a log. The page may be of any size, but
it is not empty while something is unread; with events it names the position behind them, and
without events no other than its own. -/
structure PageLaw (l : List LogEvent) (marks : String → Nat → Prop) (n : Nat) (page : LogPage) :
    Prop where
  events : page.events <+: l.drop n
  progress : n < l.length → page.events ≠ []
  resumes : page.events ≠ [] → ∃ k, page.nextToken = some k ∧ marks k (n + page.events.length)
  stays : page.events = [] → ∀ k, page.nextToken = some k → marks k n

/-- A service that keeps the log of one job. What a log grows by before a call is answered is there
in the state after the answer, so the log a page is taken from is the one of that state. -/
structure KeepsLog (job : String) (log : σ → List LogEvent) (marks : σ → String → Nat → Prop) :
    Prop where
  grows : ∀ c w, log w <+: log (cs.answer c w).2
  keeps : ∀ c w k n, marks w k n → marks (cs.answer c w).2 k n
  serves : ∀ token w n page, Stands (marks w) token n →
    (cs.answer (.logs job token) w).1 = .ok page →
    PageLaw (log (cs.answer (.logs job token) w).2) (marks (cs.answer (.logs job token) w).2) n page

/-- With `h` handed over before, what `t` hands over is at every moment the next part of the log as
it then is. -/
def HandsOver (job : String) (log : σ → List LogEvent) (h : List LogEvent) (w : σ)
    (t : List Event) : Prop :=
  ∀ t₁, t₁ <+: t → ∃ es, logged t₁ = es.map (Prod.mk job) ∧ h ++ es <+: log (cs.replay w t₁)

variable {cs} {job : String} {log : σ → List LogEvent} {marks : σ → String → Nat → Prop}

namespace KeepsLog

theorem log_prefix_replay (K : KeepsLog cs job log marks) (w : σ) (t : List Event) :
    log w <+: log (cs.replay w t) := by
  induction t generalizing w with
  | nil => exact List.prefix_refl _
  | cons e t ih =>
      cases e with
      | called c reply => exact (K.grows c w).trans (ih _)
      | logged j e => exact ih w

theorem stands_replay (K : KeepsLog cs job log marks) {token : Option String} {n : Nat} (w : σ)
    (t : List Event) (hp : Stands (marks w) token n) : Stands (marks (cs.replay w t)) token n := by
  cases token with
  | none => exact hp
  | some k =>
      induction t generalizing w with
      | nil => exact hp
      | cons e t ih =>
          cases e with
          | called c reply => exact ih _ (K.keeps c w k n hp)
          | logged j e => exact ih w hp

end KeepsLog

namespace HandsOver

variable {h es : List LogEvent} {w : σ} {t u : List Event}

theorem nil (hh : h <+: log w) : HandsOver cs job log h w [] := by
  intro t₁ ht
  rw [List.prefix_nil.1 ht]
  exact ⟨[], rfl, by simpa [Collaborators.replay] using hh⟩

theorem append (ht : HandsOver cs job log h w t) (he : logged t = es.map (Prod.mk job))
    (hu : HandsOver cs job log (h ++ es) (cs.replay w t) u) :
    HandsOver cs job log h w (t ++ u) := by
  rintro t₁ ⟨t₂, htu⟩
  rcases List.append_eq_append_iff.1 htu with ⟨v, rfl, rfl⟩ | ⟨v, rfl, rfl⟩
  · exact ht t₁ (List.prefix_append t₁ v)
  · obtain ⟨es', hes, hpre⟩ := hu v (List.prefix_append v t₂)
    refine ⟨es ++ es', ?_, ?_⟩
    · rw [logged_append, he, hes, List.map_append]
    · rw [cs.replay_append, ← List.append_assoc]
      exact hpre

theorem call (K : KeepsLog cs job log marks) (hh : h <+: log w) (c : Call) (reply : c.Reply) :
    HandsOver cs job log h w [.called c reply] := by
  intro t₁ ht
  rcases List.prefix_cons_iff.1 ht with rfl | ⟨t₂, rfl, ht₂⟩
  · exact ⟨[], rfl, by simpa [Collaborators.replay] using hh⟩
  · rw [List.prefix_nil.1 ht₂]
    exact ⟨[], rfl, by simpa [Collaborators.replay] using hh.trans (K.grows c w)⟩

theorem events (hh : h ++ es <+: log w) : HandsOver cs job log h w (es.map (.logged job)) := by
  induction es generalizing h with
  | nil => exact nil (by simpa using hh)
  | cons e es ih =>
      have hone : HandsOver cs job log h w [.logged job e] := by
        intro t₁ ht
        rcases List.prefix_cons_iff.1 ht with rfl | ⟨t₂, rfl, ht₂⟩
        · exact ⟨[], rfl, by simpa [Collaborators.replay] using (List.prefix_append h _).trans hh⟩
        · rw [List.prefix_nil.1 ht₂]
          have he : h ++ [e] <+: h ++ e :: es := ⟨es, by simp⟩
          exact ⟨[e], rfl, by simpa [Collaborators.replay] using he.trans hh⟩
      have hes : HandsOver cs job log (h ++ [e]) w (es.map (.logged job)) := ih (by simpa using hh)
      exact hone.append rfl hes

end HandsOver

theorem append_prefix_of_drop {h es l : List LogEvent} (hh : h <+: l)
    (he : es <+: l.drop h.length) : h ++ es <+: l := by
  obtain ⟨rest, rfl⟩ := hh
  rw [List.drop_left] at he
  exact (List.prefix_append_right_inj h).2 he

section Page

variable {h : List LogEvent} {w : σ} {token : Option String} {page : LogPage}

theorem KeepsLog.page_law (K : KeepsLog cs job log marks) (hp : Stands (marks w) token h.length)
    {t : List Event} (hA : cs.Answers w (.called (.logs job token) (.ok page) :: t)) :
    PageLaw (log (cs.answer (.logs job token) w).2)
      (marks (cs.answer (.logs job token) w).2) h.length page :=
  K.serves token w h.length page hp hA.1.symm

theorem page_handsOver (K : KeepsLog cs job log marks) (hh : h <+: log w)
    (hL : PageLaw (log (cs.answer (.logs job token) w).2)
        (marks (cs.answer (.logs job token) w).2) h.length page) :
    HandsOver cs job log h w
      (.called (.logs job token) (.ok page) :: page.events.map (.logged job)) := by
  have hw := hh.trans (K.grows (.logs job token) w)
  have hevents : HandsOver cs job log (h ++ []) (cs.answer (.logs job token) w).2
      (page.events.map (.logged job)) :=
    .events (by simpa using append_prefix_of_drop hw hL.events)
  exact (HandsOver.call K hh (.logs job token) (.ok page)).append rfl hevents

theorem logged_page :
    logged (.called (.logs job token) (.ok page) :: page.events.map (.logged job)) =
      page.events.map (Prod.mk job) :=
  logged_map job page.events

theorem replay_page :
    cs.replay w (.called (.logs job token) (.ok page) :: page.events.map (.logged job)) =
    (cs.answer (.logs job token) w).2 := by
  rw [Collaborators.replay, cs.replay_logged]

end Page

theorem Drains.handsOver (K : KeepsLog cs job log marks) {h : List LogEvent} {w : σ}
    {token : Option String}
    {t : List Event} {r : Except Halt (Option String)} (hD : Drains job token t r)
    (hA : cs.Answers w t) (hh : h <+: log w) (hp : Stands (marks w) token h.length) :
    HandsOver cs job log h w t ∧ ∀ token', r = .ok token' → ∃ es, logged t = es.map (Prod.mk job) ∧
      Stands (marks (cs.replay w t)) token' (h ++ es).length ∧ h ++ es = log (cs.replay w t) := by
  induction hD generalizing h w with
  | cut token => exact ⟨.nil hh, by simp⟩
  | refused token e => exact ⟨.call K hh _ _, by simp⟩
  | last token page hl =>
      have hL := K.page_law hp hA
      refine ⟨page_handsOver K hh hL, ?_⟩
      rintro token' ⟨rfl⟩
      -- a page with events names a token, so the last page is an empty one
      have hempty : page.events = [] := by
        by_cases he : page.events = []
        · exact he
        · obtain ⟨k, hk, -⟩ := hL.resumes he
          simp [Job.isLast, hk, he] at hl
      have hw := hh.trans (K.grows (.logs job token) w)
      refine ⟨[], by rw [logged_page, hempty], ?_, ?_⟩
      · rw [replay_page, List.append_nil]
        cases hn : page.nextToken with
        | none => exact K.stands_replay w [.called (.logs job token) (.ok page)] hp
        | some k => exact hL.stays hempty k hn
      · rw [replay_page, List.append_nil]
        apply hw.eq_of_length_le
        exact Nat.le_of_not_lt fun hlt => hL.progress hlt hempty
  | more token page hl rest ih =>
      have hL := K.page_law hp hA
      have hne : page.events ≠ [] := by
        intro he
        simp [Job.isLast, he] at hl
      obtain ⟨k, hk, hmark⟩ := hL.resumes hne
      obtain ⟨-, hA⟩ := (cs.answers_append w (.called (.logs job token) (.ok page) :: _) _).1 hA
      have hw := hh.trans (K.grows (.logs job token) w)
      rw [replay_page] at hA
      obtain ⟨hrest, hend⟩ := ih (h := h ++ page.events) hA (append_prefix_of_drop hw hL.events)
        (by rw [hk, List.length_append]; exact hmark)
      refine ⟨(page_handsOver K hh hL).append logged_page (by rwa [replay_page]), ?_⟩
      intro token' hr
      obtain ⟨es, hes, hst, hlog⟩ := hend token' hr
      refine ⟨page.events ++ es, ?_, ?_, ?_⟩
      · rw [logged_append, logged_page, hes, List.map_append]
      · rwa [cs.replay_append, replay_page, ← List.append_assoc]
      · rwa [cs.replay_append, replay_page, ← List.append_assoc]

theorem Drains.handsOver_described (K : KeepsLog cs job log marks) {h : List LogEvent} {w : σ}
    {token token' : Option String} {t : List Event} (hD : Drains job token t (.ok token'))
    (reply : (Call.describe job).Reply) (hA : cs.Answers w t) (hh : h <+: log w)
    (hp : Stands (marks w) token h.length) :
    HandsOver cs job log h w (t ++ [.called (.describe job) reply]) ∧
      ∃ es, logged (t ++ [.called (.describe job) reply]) = es.map (Prod.mk job) ∧
        Stands (marks (cs.replay w (t ++ [.called (.describe job) reply]))) token'
          (h ++ es).length ∧
        h ++ es <+: log (cs.replay w (t ++ [.called (.describe job) reply])) := by
  obtain ⟨ht, hend⟩ := hD.handsOver K hA hh hp
  obtain ⟨es, hes, hst, hlog⟩ := hend token' rfl
  have hall : h ++ es <+: log (cs.replay w t) := hlog ▸ List.prefix_refl _
  refine ⟨ht.append hes (.call K hall _ _), es, ?_, ?_, ?_⟩
  · rw [logged_append, hes]
    exact List.append_nil _
  · rw [cs.replay_append]
    exact K.stands_replay _ _ hst
  · rw [cs.replay_append]
    exact hall.trans (K.log_prefix_replay _ _)

theorem Watches.handsOver (K : KeepsLog cs job log marks) {h : List LogEvent} {w : σ}
    {token : Option String} {t : List Event} {r : Except Halt (JobDescription × Option String)}
    (hW : Watches job true token t r)
    (hA : cs.Answers w t) (hh : h <+: log w) (hp : Stands (marks w) token h.length) :
    HandsOver cs job log h w t ∧ ∀ d token', r = .ok (d, token') →
      ∃ es, logged t = es.map (Prod.mk job) ∧
      Stands (marks (cs.replay w t)) token' (h ++ es).length ∧ h ++ es <+: log (cs.replay w t) := by
  -- carried along: what was handed over before, and that the token stands right behind it
  induction hW generalizing h w with
  | cut token => exact ⟨.nil hh, by simp⟩
  | undrained hd =>
      cases hd with
      | drained hd => exact ⟨(hd.handsOver K hA hh hp).1, by simp⟩
  | refused hd e =>
      cases hd with
      | drained hd =>
          exact ⟨(hd.handsOver_described K _ ((cs.answers_append _ _ _).1 hA).1 hh hp).1, by simp⟩
  | ended hd d hx =>
      cases hd with
      | drained hd =>
          obtain ⟨ht, hend⟩ :=
            hd.handsOver_described K (.ok d) ((cs.answers_append _ _ _).1 hA).1 hh hp
          refine ⟨ht, ?_⟩
          rintro d' token' ⟨rfl, rfl⟩
          exact hend
  | running hd d hx rest ih =>
      cases hd with
      | drained hd =>
          rw [List.append_cons] at hA ⊢
          obtain ⟨hA, hA'⟩ := (cs.answers_append _ _ _).1 hA
          obtain ⟨ht, es, hes, hst, hlog⟩ :=
            hd.handsOver_described K (.ok d) ((cs.answers_append _ _ _).1 hA).1 hh hp
          obtain ⟨hrest, hend⟩ := ih hA' hlog hst
          refine ⟨ht.append hes hrest, ?_⟩
          intro d' token' hr
          obtain ⟨es', hes', hst', hlog'⟩ := hend d' token' hr
          refine ⟨es ++ es', ?_, ?_, ?_⟩
          · rw [logged_append, hes, hes', List.map_append]
          · rwa [cs.replay_append, ← List.append_assoc]
          · rwa [cs.replay_append, ← List.append_assoc]

theorem Follows.handsOver (K : KeepsLog cs job log marks) {w : σ} {t : List Event}
    {r : Except Halt JobDescription} (hF : Follows job true t r) (hA : cs.Answers w t) :
    HandsOver cs job log [] w t ∧ ∀ d, r = .ok d → ∃ t₁ t₂ es,
      t = t₁ ++ .called (.describe job) (.ok d) :: t₂ ∧ (∀ e ∈ t₂, e.IsReading) ∧
      logged t = es.map (Prod.mk job) ∧
      log (cs.replay w (t₁ ++ [.called (.describe job) (.ok d)])) <+: es := by
  have hstart : Stands (marks w) none ([] : List LogEvent).length := rfl
  cases hF with
  | unended hw => exact ⟨(hw.handsOver K hA List.nil_prefix hstart).1, by simp⟩
  | undrained hw hd =>
      cases hd with
      | drained hd =>
          obtain ⟨hA, hA'⟩ := (cs.answers_append _ _ _).1 hA
          obtain ⟨ht, hend⟩ := hw.handsOver K hA List.nil_prefix hstart
          obtain ⟨es, hes, hst, hlog⟩ := hend _ _ rfl
          exact ⟨ht.append hes (hd.handsOver K hA' hlog hst).1, by simp⟩
  | @ended t u d token token' hw hd =>
      cases hd with
      | drained hd =>
          obtain ⟨hA, hA'⟩ := (cs.answers_append _ _ _).1 hA
          obtain ⟨ht, hend⟩ := hw.handsOver K hA List.nil_prefix hstart
          obtain ⟨es, hes, hst, hlog⟩ := hend _ _ rfl
          obtain ⟨hrest, hend'⟩ := hd.handsOver K hA' hlog hst
          obtain ⟨es', hes', -, hlog'⟩ := hend' _ rfl
          obtain ⟨-, t₁, rfl⟩ := hw.terminal
          refine ⟨ht.append hes hrest, ?_⟩
          rintro d' ⟨rfl⟩
          refine ⟨t₁, _, es ++ es', List.append_assoc .., hd.reading, ?_, ?_⟩
          · rw [logged_append, hes, hes', List.map_append]
          · have hgrown :=
              K.log_prefix_replay (cs.replay w (t₁ ++ [.called (.describe job) (.ok d)])) u
            rw [← hlog'] at hgrown
            simpa using hgrown

/-- A service whose log grows by a batch before each answer and whose pages are as large as it
likes. -/
structure Ledger where
  entries : List LogEvent := []
  arrivals : List (List LogEvent) := []
  statuses : List JobStatus := []
  pageSizes : List Nat := []

namespace Ledger

def grown (w : Ledger) : Ledger :=
  { w with
    entries := w.entries ++ w.arrivals.headD []
    arrivals := w.arrivals.tail
    pageSizes := w.pageSizes.tail }

def token (n : Nat) : String := String.ofList (List.replicate n '.')

def page (w : Ledger) (n : Nat) : LogPage :=
  { events := (w.entries.drop n).take (w.pageSizes.headD 0 + 1)
    nextToken := some (token (n + ((w.entries.drop n).take (w.pageSizes.headD 0 + 1)).length)) }

def answer : (c : Call) → Ledger → c.Reply × Ledger
  | .defaultBucket, w => (.ok "ledger", w.grown)
  | .upload _ uri, w => (.ok uri, w.grown)
  | .create _, w => (.ok (), w.grown)
  | .stop _, w => (.ok (), w.grown)
  | .describe job, w =>
      (.ok { jobName := job, status := w.statuses.headD .failed },
        { w.grown with statuses := w.statuses.tail })
  | .logs _ token, w => (.ok (w.grown.page ((token.map String.length).getD 0)), w.grown)

def collaborators : Collaborators Ledger where
  clock w := (default, w)
  answer := answer

def position (_ : Ledger) (k : String) (n : Nat) : Prop := k.length = n

theorem page_law (w : Ledger) (n : Nat) : PageLaw w.entries w.position n (w.page n) where
  events := List.take_prefix _ _
  progress := by
    intro hn
    simp only [page, ne_eq, List.take_eq_nil_iff, List.drop_eq_nil_iff]
    omega
  resumes := by
    intro he
    exact ⟨_, rfl, by simp [position, token, page]⟩
  stays := by
    intro he k hk
    have hk' : token (n + (w.page n).events.length) = k := Option.some.inj hk
    simp [← hk', position, token, he]

theorem keepsLog (job : String) : KeepsLog collaborators job entries position where
  grows := by
    intro c w
    cases c <;> exact List.prefix_append _ _
  keeps := by
    intro c w k n hk
    exact hk
  serves := by
    rintro token w n page hp ⟨rfl⟩
    have hn : (token.map String.length).getD 0 = n := by
      cases token with
      | none => exact hp.symm
      | some k => exact hp
    rw [hn]
    exact page_law w.grown n

def line (message : String) : LogEvent := { timestamp := .epoch, stream := "out", message }

/-- The log grows while it is read for the first time, and once more after the job was seen to have
ended. -/
def growing : Ledger where
  arrivals := [[line "a"], [line "b", line "c"], [], [], [], [], [line "d"]]
  statuses := [.inProgress, .completed]
  pageSizes := [0, 1]

def watched : Job := { name := "watched", inputs := [], outputs := [] }

end Ledger

/-- Waiting on a job whose log is kept: at every moment the sink has been handed a prefix of the
log, and once the wait returns the job's end, all that the log held when that end was reported. -/
theorem wait_streams_log (job : Job) (K : KeepsLog cs job.name log marks) (rounds : Nat)
    (s : Shared σ) :
    ∃ t, Effect cs s t (job.wait cs true rounds s).2 ∧
      (∀ t₁, t₁ <+: t → ∃ es, logged t₁ = es.map (Prod.mk job.name) ∧
        es <+: log (cs.replay s.world t₁)) ∧
      (((∃ d, (job.wait cs true rounds s).1.1 = .ok d) ∨
          ∃ name reason, (job.wait cs true rounds s).1.1 =
            .error (.failed (.jobFailed name reason))) →
        ∃ t₁ d t₂ es, t = t₁ ++ .called (.describe job.name) (.ok d) :: t₂ ∧
          d.status.isTerminal = true ∧ (∀ e ∈ t₂, ¬ e.IsDescription) ∧
          logged t = es.map (Prod.mk job.name) ∧
          log (cs.replay s.world (t₁ ++ [.called (.describe job.name) (.ok d)])) <+: es) := by
  obtain ⟨t, r, ht, hF, hr⟩ := job.wait_effect cs true rounds s
  obtain ⟨hover, hend⟩ := hF.handsOver K ht.answers
  refine ⟨t, ht, hover, ?_⟩
  intro hret
  rw [hr] at hret
  cases r with
  | error h =>
      -- a wait that was cut short returns neither the job's end nor its failure
      rcases hF.cuts with rfl | ⟨e, rfl⟩ <;>
        rcases hret with ⟨d, hd⟩ | ⟨name, reason, hd⟩ <;> cases hd
  | ok d =>
      obtain ⟨t₁, t₂, es, rfl, hread, hes, hlog⟩ := hend d rfl
      exact ⟨t₁, d, t₂, es, rfl, hF.terminal, fun e he => (hread e he).not_description, hes, hlog⟩

namespace Ledger

theorem wait_streams_growing_log :
    KeepsLog collaborators watched.name entries position ∧
      ∃ t, Effect collaborators { world := growing } t
          (watched.wait collaborators true 5 { world := growing }).2 ∧
        (∀ t₁, t₁ <+: t → ∃ es, logged t₁ = es.map (Prod.mk watched.name) ∧
          es <+: (collaborators.replay growing t₁).entries) ∧
        ∃ t₁ d t₂ es, t = t₁ ++ .called (.describe watched.name) (.ok d) :: t₂ ∧
          d.status.isTerminal = true ∧ (∀ e ∈ t₂, ¬ e.IsDescription) ∧
          logged t = es.map (Prod.mk watched.name) ∧
          (collaborators.replay growing
            (t₁ ++ [.called (.describe watched.name) (.ok d)])).entries <+: es := by
  obtain ⟨t, ht, hover, hend⟩ :=
    wait_streams_log watched (keepsLog watched.name) 5 { world := growing }
  refine ⟨keepsLog watched.name, t, ht, hover, hend (.inl ?_)⟩
  have hok : (watched.wait collaborators true 5 { world := growing }).1.1.isOk = true := by
    decide +kernel
  cases hr : (watched.wait collaborators true 5 { world := growing }).1.1 with
  | error h => rw [hr] at hok; cases hok
  | ok d => exact ⟨d, rfl⟩

example : (watched.wait collaborators true 5 { world := growing }).2.sink =
    ["a", "b", "c", "d"].map fun message => (watched.name, line message) := by decide +kernel

end Ledger

end Dispatch
