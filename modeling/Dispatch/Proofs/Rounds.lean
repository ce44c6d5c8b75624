import Dispatch.Proofs.Run
import Dispatch.Service.Scripted

namespace Dispatch

open Activity

variable {σ : Type} (cs : Collaborators σ)

theorem Shared.after_eq_along (s : Shared σ) {c : Call} {reply : c.Reply} (hc : c ≠ .defaultBucket)
    (h : (cs.answer c s.world).1 = reply) : s.after cs c = s.along cs [.called c reply] :=
  ((effect_iff cs).1 (.call s hc h)).2

namespace Job

variable (job : Job)

theorem drain_refused {token : Option String} {s : Shared σ} {e : ClientError} (rounds : Nat)
    (ha : (cs.answer (.logs job.name token) s.world).1 = .error e) :
    job.drain cs (rounds + 1) token s =
      (.error (.failed (.remote e)), s.along cs [.called (.logs job.name token) (.error e)]) := by
  rw [drain, bind_error _ (perform_error cs ha), s.after_eq_along cs (by simp) ha]

theorem drain_page {token : Option String} {s : Shared σ} {page : LogPage} (rounds : Nat)
    (ha : (cs.answer (.logs job.name token) s.world).1 = .ok page) :
    job.drain cs (rounds + 1) token s =
      (if isLast page then pure (page.nextToken.or token)
        else job.drain cs rounds (page.nextToken.or token))
      (s.along cs
        (.called (.logs job.name token) (.ok page) :: page.events.map (.logged job.name))) := by
  obtain ⟨s', hs', hE⟩ := logEvents_effect cs job page.events (s.after cs (.logs job.name token))
  have hpage := (Effect.call s (by simp) ha).trans hE
  rw [List.singleton_append] at hpage
  rw [drain, bind_ok _ (perform_ok cs ha), bind_ok _ hs', ((effect_iff cs).1 hpage).2]

end Job

section Taken

variable {cs} {job : Job} {streaming : Bool} {token : Option String} {t : List Event} {s : Shared σ}
  {rounds pages : Nat}

theorem Drains.taken {r : Except Halt (Option String)} (hD : Drains job.name token t r)
    (hr : r ≠ .error .unfinished) (hA : cs.Answers s.world t) (hn : t.length < rounds) :
    job.drain cs rounds token s = (r, s.along cs t) := by
  induction hD generalizing s rounds with
  | cut token => exact absurd rfl hr
  | refused token e =>
      obtain ⟨n, rfl⟩ := Nat.exists_eq_succ_of_ne_zero (Nat.ne_zero_of_lt hn)
      exact job.drain_refused cs n hA.1.symm
  | last token page hl =>
      obtain ⟨n, rfl⟩ := Nat.exists_eq_succ_of_ne_zero (Nat.ne_zero_of_lt hn)
      rw [Nat.succ_eq_add_one, job.drain_page cs n hA.1.symm, if_pos hl]
      rfl
  | @more token page t r hl rest ih =>
      obtain ⟨n, rfl⟩ := Nat.exists_eq_succ_of_ne_zero (Nat.ne_zero_of_lt hn)
      have hlen : t.length < n := by
        simp only [List.cons_append, List.length_cons, List.length_append] at hn
        omega
      have hA' := ((cs.answers_append _ _ _).1 hA).2
      rw [Nat.succ_eq_add_one, job.drain_page cs n hA.1.symm, if_neg (by simp [hl]),
        s.along_append cs]
      exact ih hr hA' hlen

theorem DrainsIf.taken {r : Except Halt (Option String)} (hD : DrainsIf job.name streaming token t r)
    (hr : r ≠ .error .unfinished) (hA : cs.Answers s.world t) (hn : t.length < pages) :
    job.drainIf cs streaming pages token s = (r, s.along cs t) := by
  cases hD with
  | skipped token => exact Prod.ext rfl ((effect_iff cs).1 (.refl s)).2
  | drained h => exact h.taken hr hA hn

theorem Watches.taken {r : Except Halt (JobDescription × Option String)}
    (hW : Watches job.name streaming token t r) (hr : r ≠ .error .unfinished)
    (hA : cs.Answers s.world t) (hp : t.length < pages) (hn : t.length < rounds) :
    job.watch cs streaming pages rounds token s = (r, s.along cs t) := by
  -- every round has an event of its own, so there are rounds enough
  induction hW generalizing s rounds with
  | cut token => exact absurd rfl hr
  | undrained hd =>
      obtain ⟨n, rfl⟩ := Nat.exists_eq_succ_of_ne_zero (Nat.ne_zero_of_lt hn)
      rw [Job.watch, bind_error _ (hd.taken (by simpa using hr) hA hp)]
  | @refused token t token' hd e =>
      obtain ⟨n, rfl⟩ := Nat.exists_eq_succ_of_ne_zero (Nat.ne_zero_of_lt hn)
      simp only [List.length_append, List.length_singleton] at hp
      obtain ⟨hA, ha, -⟩ := (cs.answers_append _ _ _).1 hA
      rw [Job.watch, bind_ok _ (hd.taken (by simp) hA (by omega)), Job.describe,
        bind_error _ (perform_error cs ha.symm), Shared.after_eq_along cs _ (by simp) ha.symm,
        Shared.along_append]
  | @ended token t token' hd d hx =>
      obtain ⟨n, rfl⟩ := Nat.exists_eq_succ_of_ne_zero (Nat.ne_zero_of_lt hn)
      simp only [List.length_append, List.length_singleton] at hp
      obtain ⟨hA, ha, -⟩ := (cs.answers_append _ _ _).1 hA
      rw [Job.watch, bind_ok _ (hd.taken (by simp) hA (by omega)), Job.describe,
        bind_ok _ (perform_ok cs ha.symm), if_pos hx, Shared.after_eq_along cs _ (by simp) ha.symm,
        Shared.along_append]
      rfl
  | @running token t token' u r hd d hx rest ih =>
      obtain ⟨n, rfl⟩ := Nat.exists_eq_succ_of_ne_zero (Nat.ne_zero_of_lt hn)
      simp only [List.length_append, List.length_cons] at hp hn
      obtain ⟨hA, ha, hA'⟩ := (cs.answers_append _ _ _).1 hA
      rw [Job.watch, bind_ok _ (hd.taken (by simp) hA (by omega)), Job.describe,
        bind_ok _ (perform_ok cs ha.symm), if_neg (by simp [hx]),
        Shared.after_eq_along cs _ (by simp) ha.symm, List.append_cons, Shared.along_append,
        Shared.along_append]
      exact ih hr hA' (by omega) (by omega)

theorem Follows.taken {r : Except Halt JobDescription} (hF : Follows job.name streaming t r)
    (hr : r ≠ .error .unfinished) (hA : cs.Answers s.world t) (hn : t.length < rounds) :
    job.follow cs streaming rounds s = (r, s.along cs t) := by
  cases hF with
  | unended hw => rw [Job.follow, bind_error _ (hw.taken (by simpa using hr) hA hn hn)]
  | undrained hw hd =>
      rw [List.length_append] at hn
      obtain ⟨hA, hA'⟩ := (cs.answers_append _ _ _).1 hA
      rw [Job.follow, bind_ok _ (hw.taken (by simp) hA (by omega) (by omega))]
      dsimp only
      rw [bind_error _ (hd.taken (by simpa using hr) hA' (by omega)), Shared.along_append]
  | ended hw hd =>
      rw [List.length_append] at hn
      obtain ⟨hA, hA'⟩ := (cs.answers_append _ _ _).1 hA
      rw [Job.follow, bind_ok _ (hw.taken (by simp) hA (by omega) (by omega))]
      dsimp only
      rw [bind_ok _ (hd.taken (by simp) hA' (by omega)), Shared.along_append]
      rfl

theorem Follows.wait_taken {r : Except Halt JobDescription} (hF : Follows job.name streaming t r)
    (hr : r ≠ .error .unfinished) (hA : cs.Answers s.world t) (hn : t.length < rounds) :
    job.wait cs streaming rounds s = (job.settle r, s.along cs t) := by
  have hfollow := hF.taken hr hA hn
  cases r with
  | ok d => exact Job.wait_of_ok cs job hfollow
  | error e => exact Job.wait_of_error cs job hfollow

namespace Job

theorem finished_of_settle {r : Except Halt JobDescription}
    (h : (job.settle r).1 ≠ .error .unfinished) : r ≠ .error .unfinished := by
  rintro rfl
  exact h rfl

/-- A wait that is given its time is one course, and every course there are answers for is a wait. -/
theorem wait_iff {s' : Shared σ} {x : Except Halt JobDescription × Job} (hx : x.1 ≠ .error .unfinished) :
    (∃ rounds, job.wait cs streaming rounds s = (x, s')) ↔
      ∃ t r, Effect cs s t s' ∧ Follows job.name streaming t r ∧ job.settle r = x := by
  constructor
  · rintro ⟨rounds, hw⟩
    obtain ⟨t, r, ht, hF, hr⟩ := job.wait_effect cs streaming rounds s
    rw [hw] at ht hr
    exact ⟨t, r, ht, hF, hr.symm⟩
  · rintro ⟨t, r, ht, hF, rfl⟩
    obtain ⟨hA, rfl⟩ := (effect_iff cs).1 ht
    exact ⟨t.length + 1, hF.wait_taken (finished_of_settle hx) hA (Nat.lt_succ_self _)⟩

theorem wait_agree {m n : Nat} (hm : (job.wait cs streaming m s).1.1 ≠ .error .unfinished)
    (hn : (job.wait cs streaming n s).1.1 ≠ .error .unfinished) :
    job.wait cs streaming m s = job.wait cs streaming n s := by
  -- both are the wait with more rounds than either course is long
  have hlong (k : Nat) (hk : (job.wait cs streaming k s).1.1 ≠ .error .unfinished) :
      ∃ l, ∀ rounds, l < rounds → job.wait cs streaming rounds s = job.wait cs streaming k s := by
    obtain ⟨t, r, ht, hF, hr⟩ := job.wait_effect cs streaming k s
    obtain ⟨hA, hs⟩ := (effect_iff cs).1 ht
    rw [hr] at hk
    refine ⟨t.length, fun rounds hl => ?_⟩
    rw [hF.wait_taken (finished_of_settle hk) hA hl]
    exact Prod.ext hr.symm hs.symm
  obtain ⟨l, hl⟩ := hlong m hm
  obtain ⟨l', hl'⟩ := hlong n hn
  rw [← hl (l + l' + 1) (by omega), ← hl' (l + l' + 1) (by omega)]

end Job

end Taken

namespace Script

theorem answer_logs (job : String) (token : Option String) (w : Script) :
    (answer (.logs job token) w).2.descriptions = w.descriptions ∧
      (answer (.logs job token) w).2.pages.length ≤ w.pages.length ∧
      ∀ page, (answer (.logs job token) w).1 = .ok page → Job.isLast page = false →
        (answer (.logs job token) w).2.pages.length < w.pages.length := by
  rcases w with ⟨time, buckets, creations, descriptions, stops, pages, uploads⟩
  cases pages with
  | nil =>
      refine ⟨rfl, Nat.le_refl _, ?_⟩
      rintro page ⟨rfl⟩ hl
      cases hl
  | cons reply rest => exact ⟨rfl, Nat.le_succ _, fun _ _ _ => Nat.lt_succ_self _⟩

theorem answer_describe (job : String) (w : Script) :
    (answer (.describe job) w).2.pages = w.pages ∧
      (answer (.describe job) w).2.descriptions.length ≤ w.descriptions.length ∧
      ∀ d, (answer (.describe job) w).1 = .ok d →
        (answer (.describe job) w).2.descriptions.length < w.descriptions.length := by
  rcases w with ⟨time, buckets, creations, descriptions, stops, pages, uploads⟩
  cases descriptions with
  | nil => exact ⟨rfl, Nat.le_refl _, by simp [answer]⟩
  | cons reply rest => exact ⟨rfl, Nat.le_succ _, fun _ _ => Nat.lt_succ_self _⟩

structure Ended {α : Type} (w : Script) (x : Except Halt α × Shared Script) : Prop where
  finished : x.1 ≠ .error .unfinished
  descriptions : x.2.world.descriptions.length ≤ w.descriptions.length
  pages : x.2.world.pages.length ≤ w.pages.length

namespace Ended

variable {α β : Type} {v w : Script} {s : Shared Script} {x : Activity Script α}
  {f : α → Activity Script β}

theorem pure (a : α) (s : Shared Script) : Ended s.world ((Pure.pure a : Activity Script α) s) :=
  ⟨nofun, Nat.le_refl _, Nat.le_refl _⟩

theorem mono {y : Except Halt α × Shared Script} (h : Ended v y)
    (hd : v.descriptions.length ≤ w.descriptions.length) (hp : v.pages.length ≤ w.pages.length) :
    Ended w y :=
  ⟨h.finished, Nat.le_trans h.descriptions hd, Nat.le_trans h.pages hp⟩

theorem bind (hx : Ended s.world (x s))
    (hf : ∀ a t, x s = (.ok a, t) → Ended t.world (f a t)) : Ended s.world ((x >>= f) s) := by
  rcases h : x s with ⟨e | a, t⟩
  · rw [h] at hx
    rw [bind_error f h]
    exact ⟨fun he => hx.finished (by cases he; rfl), hx.descriptions, hx.pages⟩
  · have hfa := hf a t h
    rw [h] at hx
    rw [bind_ok f h]
    exact hfa.mono hx.descriptions hx.pages

end Ended

variable (job : Job) (streaming : Bool) {token : Option String} {rounds pages : Nat} {s : Shared Script}

theorem drain_ended (hn : s.world.pages.length < rounds) :
    Ended s.world (job.drain collaborators rounds token s) := by
  induction rounds generalizing token s with
  | zero => omega
  | succ n ih =>
      obtain ⟨hdescriptions, hpages, hmore⟩ := answer_logs job.name token s.world
      cases ha : (answer (.logs job.name token) s.world).1 with
      | error e =>
          rw [job.drain_refused collaborators n ha]
          exact ⟨nofun, Nat.le_of_eq (congrArg List.length hdescriptions), hpages⟩
      | ok page =>
          rw [job.drain_page collaborators n ha]
          generalize hs' : s.along collaborators
            (.called (.logs job.name token) (.ok page) :: page.events.map (.logged job.name)) = s'
          have hworld : s'.world = (answer (.logs job.name token) s.world).2 := by
            rw [← hs']
            exact collaborators.replay_logged _ _ _
          rw [← hworld] at hdescriptions hpages hmore
          have hd := Nat.le_of_eq (congrArg List.length hdescriptions)
          cases hl : Job.isLast page with
          | true => exact (Ended.pure _ s').mono hd hpages
          | false =>
              have hlt := hmore page ha hl
              exact (ih (by omega)).mono hd hpages

theorem drainIf_ended (hn : s.world.pages.length < pages) :
    Ended s.world (job.drainIf collaborators streaming pages token s) := by
  cases streaming with
  | false => exact .pure token s
  | true => exact drain_ended job hn

theorem watch_ended (hp : s.world.pages.length < pages) (hn : s.world.descriptions.length < rounds) :
    Ended s.world (job.watch collaborators streaming pages rounds token s) := by
  induction rounds generalizing token s with
  | zero => omega
  | succ n ih =>
      have hdrain : Ended s.world (job.drainIf collaborators streaming pages token s) :=
        drainIf_ended job streaming hp
      rw [Job.watch]
      apply hdrain.bind
      intro token' t ht
      rw [ht] at hdrain
      have hpages : t.world.pages.length ≤ s.world.pages.length := hdrain.pages
      have hdescriptions : t.world.descriptions.length ≤ s.world.descriptions.length :=
        hdrain.descriptions
      obtain ⟨hpages', hle, hlt⟩ := answer_describe job.name t.world
      have hp' := Nat.le_of_eq (congrArg List.length hpages')
      cases ha : (answer (.describe job.name) t.world).1 with
      | error e =>
          rw [Job.describe, bind_error _ (perform_error collaborators ha)]
          exact ⟨by simp, hle, hp'⟩
      | ok d =>
          have hless := hlt d ha
          rw [Job.describe, bind_ok _ (perform_ok collaborators ha)]
          cases hx : d.status.isTerminal with
          | true => exact (Ended.pure (d, token') (t.after collaborators _)).mono hle hp'
          | false =>
              have hrest := @ih token' (t.after collaborators (.describe job.name))
                (Nat.lt_of_le_of_lt (Nat.le_trans hp' hpages) hp) (Nat.lt_of_lt_of_le hless (by omega))
              exact hrest.mono hle hp'

theorem follow_ended (hn : s.world.rounds ≤ rounds) :
    Ended s.world (job.follow collaborators streaming rounds s) := by
  rw [Script.rounds] at hn
  have hwatch : Ended s.world (job.watch collaborators streaming rounds rounds none s) :=
    watch_ended job streaming (by omega) (by omega)
  rw [Job.follow]
  apply hwatch.bind
  rintro ⟨d, token⟩ t ht
  rw [ht] at hwatch
  have hpages : t.world.pages.length ≤ s.world.pages.length := hwatch.pages
  apply (drainIf_ended job streaming (by omega)).bind
  intro token' u hu
  exact .pure d u

theorem wait_ended (hn : s.world.rounds ≤ rounds) :
    (job.wait collaborators streaming rounds s).1.1 ≠ .error .unfinished := by
  have hfollow := (follow_ended job streaming hn).finished
  rcases hf : job.follow collaborators streaming rounds s with ⟨e | d, t⟩
  · rw [hf] at hfollow
    rw [job.wait_of_error collaborators hf]
    simpa using hfollow
  · rw [job.wait_of_ok collaborators hf]
    unfold Job.outcome
    split <;> nofun

end Script

end Dispatch
