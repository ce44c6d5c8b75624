import Dispatch.Proofs.Run
import Dispatch.Proofs.Stream
import Dispatch.Session

namespace Dispatch

def fetchedEvents (t : List Event) : LogBuffer :=
  t.flatMap fun
    | .called (.logs job _) (.ok page) => page.events.map (Prod.mk job)
    | _ => []

@[simp] theorem fetchedEvents_append (t u : List Event) :
    fetchedEvents (t ++ u) = fetchedEvents t ++ fetchedEvents u :=
  List.flatMap_append

theorem fetchedEvents_logged (job : String) (es : List LogEvent) :
    fetchedEvents (es.map (.logged job)) = [] := by
  simp [fetchedEvents]

def HandsOverPages (t : List Event) : Prop := logged t = fetchedEvents t

namespace HandsOverPages

theorem append {t u : List Event} (ht : HandsOverPages t) (hu : HandsOverPages u) :
    HandsOverPages (t ++ u) := by
  rw [HandsOverPages, logged_append, fetchedEvents_append, ht, hu]

theorem page (job : String) (token : Option String) (page : LogPage) :
    HandsOverPages (.called (.logs job token) (.ok page) :: page.events.map (.logged job)) := by
  rw [HandsOverPages, logged_page, ← List.singleton_append, fetchedEvents_append, fetchedEvents_logged,
    List.append_nil]
  exact (List.append_nil _).symm

theorem describe (job : String) (reply : (Call.describe job).Reply) :
    HandsOverPages [.called (.describe job) reply] := rfl

end HandsOverPages

section Waiting

variable {job : String} {streaming : Bool} {token : Option String} {t : List Event}

theorem Drains.handsOverPages {r : Except Halt (Option String)} (h : Drains job token t r) :
    HandsOverPages t := by
  induction h with
  | cut token => rfl
  | refused token e => rfl
  | last token page hl => exact .page job token page
  | more token page hl rest ih => exact (HandsOverPages.page job token page).append ih

theorem DrainsIf.handsOverPages {r : Except Halt (Option String)} (h : DrainsIf job streaming token t r) :
    HandsOverPages t := by
  cases h with
  | skipped token => rfl
  | drained h => exact h.handsOverPages

theorem Watches.handsOverPages {r : Except Halt (JobDescription × Option String)}
    (h : Watches job streaming token t r) : HandsOverPages t := by
  induction h with
  | cut token => rfl
  | undrained hd => exact hd.handsOverPages
  | refused hd e => exact hd.handsOverPages.append (.describe job _)
  | ended hd d hx => exact hd.handsOverPages.append (.describe job _)
  | running hd d hx rest ih =>
      rw [List.append_cons]
      exact (hd.handsOverPages.append (.describe job _)).append ih

theorem Follows.handsOverPages {r : Except Halt JobDescription} (h : Follows job streaming t r) :
    HandsOverPages t := by
  cases h with
  | unended hw => exact hw.handsOverPages
  | undrained hw hd | ended hw hd => exact hw.handsOverPages.append hd.handsOverPages

end Waiting

/-- A sink with its clones, what was taken out of it so far, and what the service was called with. -/
structure Collection (σ : Type) where
  world : σ
  sinks : Sinks := (Handles.empty.add [] ()).1
  taken : LogBuffer := []
  trace : List Event := []

/-- What is done with a sink: waits of sessions that write into clone `k`, further clones, and drains. During
a wait the clones in `drains[n]` are drained, one after the other, before the event `n` of the wait. -/
inductive Collecting
  | wait (k : Nat) (bucket : Option String) (job : Job) (rounds : Nat) (drains : List (List Nat))
  | clone (k : Nat)
  | drain (k : Nat)

namespace Collection

variable {σ : Type} (cs : Collaborators σ)

def drain (c : Collection σ) (k : Nat) : Collection σ :=
  match c.sinks.drain? k with
  | none => c
  | some (events, sinks) => { c with sinks, taken := c.taken ++ events }

def clone (c : Collection σ) (k : Nat) : Collection σ :=
  { c with sinks := ((c.sinks.clone? k).map (·.1)).getD c.sinks }

def receive (c : Collection σ) (k : Nat) : Event → Collection σ
  | .logged job e => { c with sinks := (c.sinks.write? k job e).getD c.sinks }
  | .called _ _ => c

def hand (k : Nat) : List Event → List (List Nat) → Collection σ → Collection σ
  | [], _, c => c
  | e :: t, drains, c => hand k t drains.tail (((drains.headD []).foldl drain c).receive k e)

def wait (c : Collection σ) (k : Nat) (bucket : Option String) (job : Job) (rounds : Nat)
    (drains : List (List Nat)) : Collection σ :=
  match c.sinks.cell? k with
  | none => c
  | some sink =>
      let s := (job.wait cs true rounds { world := c.world, bucket, sink, trace := c.trace }).2
      { hand k (s.trace.drop c.trace.length) drains c with world := s.world, trace := s.trace }

def perform (c : Collection σ) : Collecting → Collection σ
  | .wait k bucket job rounds drains => c.wait cs k bucket job rounds drains
  | .clone k => c.clone k
  | .drain k => c.drain k

/-- All clones are onto one buffer, and what was taken out of it and what is left are `all`. -/
def Holds (c : Collection σ) (all : LogBuffer) : Prop :=
  ∃ left, c.sinks.OneCell left ∧ c.taken ++ left = all

variable {c : Collection σ} {all : LogBuffer} {k : Nat}

theorem Holds.drain (h : c.Holds all) (k : Nat) : (c.drain k).Holds all := by
  obtain ⟨left, hone, rfl⟩ := h
  rw [Collection.drain, Sinks.drain?]
  rcases Nat.lt_or_ge k c.sinks.handles.length with hk | hk
  · rw [hone.cell? hk]
    exact ⟨[], hone.setCell hk [], List.append_nil _⟩
  · rw [Handles.cell?_eq_none _ hk]
    exact ⟨left, hone, rfl⟩

theorem Holds.clone (h : c.Holds all) (k : Nat) : (c.clone k).Holds all := by
  obtain ⟨left, hone, rfl⟩ := h
  refine ⟨left, ?_, rfl⟩
  rw [Collection.clone]
  cases hk : c.sinks.clone? k with
  | none => exact hone
  | some p => exact hone.clone? hk

theorem handles_drain (c : Collection σ) (k : Nat) : (c.drain k).sinks.handles = c.sinks.handles := by
  rw [Collection.drain, Sinks.drain?]
  cases c.sinks.cell? k with
  | none => rfl
  | some b => exact Handles.handles_setCell ..

theorem handles_receive (c : Collection σ) (k : Nat) (e : Event) :
    (c.receive k e).sinks.handles = c.sinks.handles := by
  cases e with
  | called call reply => rfl
  | logged job e =>
      rw [receive, Sinks.write?]
      cases c.sinks.cell? k with
      | none => rfl
      | some b => exact Handles.handles_setCell ..

theorem Holds.receive (h : c.Holds all) (hk : k < c.sinks.handles.length) (e : Event) :
    (c.receive k e).Holds (all ++ logged [e]) := by
  obtain ⟨left, hone, rfl⟩ := h
  cases e with
  | called call reply => exact ⟨left, hone, (List.append_nil _).symm⟩
  | logged job e =>
      rw [Collection.receive, Sinks.write?, hone.cell? hk]
      exact ⟨_, hone.setCell hk _, (List.append_assoc ..).symm⟩

theorem Holds.drains (h : c.Holds all) (ks : List Nat) :
    (ks.foldl Collection.drain c).Holds all ∧
      (ks.foldl Collection.drain c).sinks.handles = c.sinks.handles := by
  induction ks generalizing c with
  | nil => exact ⟨h, rfl⟩
  | cons k ks ih =>
      obtain ⟨hall, hhandles⟩ := ih (h.drain k)
      exact ⟨hall, hhandles.trans (c.handles_drain k)⟩

theorem Holds.hand (h : c.Holds all) (hk : k < c.sinks.handles.length) (t : List Event)
    (drains : List (List Nat)) : (hand k t drains c).Holds (all ++ logged t) ∧
      (hand k t drains c).sinks.handles = c.sinks.handles := by
  -- before each event some clones are drained, which moves events from the sink to what was taken
  induction t generalizing c all drains with
  | nil => exact ⟨(List.append_nil all).symm ▸ h, rfl⟩
  | cons e t ih =>
      obtain ⟨hdrained, hhandles⟩ := h.drains (drains.headD [])
      have hnext := handles_receive ((drains.headD []).foldl Collection.drain c) k e
      rw [hhandles] at hnext
      rw [← hhandles] at hk
      obtain ⟨hrest, hsame⟩ := ih (hdrained.receive hk e) (by rwa [hnext, ← hhandles]) drains.tail
      rw [← List.singleton_append, logged_append, ← List.append_assoc]
      exact ⟨hrest, hsame.trans hnext⟩

/-- What the owners of a sink can rely on. Whoever drains it last has, with what was taken before, all events
of the pages that the service answered with; and a wait that no drain disturbs leaves the sink as it leaves
that of its session. -/
structure Collects (w : σ) (c : Collection σ) : Prop where
  there : 0 < c.sinks.handles.length
  all : ∀ k < c.sinks.handles.length, ∃ last sinks, c.sinks.drain? k = some (last, sinks) ∧
    c.taken ++ last = fetchedEvents c.trace
  answers : cs.Answers w c.trace
  undisturbed : ∀ k sink bucket job rounds, c.sinks.cell? k = some sink →
    let s := (job.wait cs true rounds { world := c.world, bucket, sink, trace := c.trace }).2
    c.wait cs k bucket job rounds [] =
      { c with world := s.world, sinks := c.sinks.setCell k s.sink, trace := s.trace }

structure Keeps (w : σ) (c : Collection σ) : Prop where
  there : 0 < c.sinks.handles.length
  holds : c.Holds (fetchedEvents c.trace)
  world : c.world = cs.replay w c.trace
  answers : cs.Answers w c.trace

variable {cs} {w : σ}

theorem Keeps.wait (h : c.Keeps cs w) (k : Nat) (bucket : Option String) (job : Job) (rounds : Nat)
    (drains : List (List Nat)) : (c.wait cs k bucket job rounds drains).Keeps cs w := by
  rw [Collection.wait]
  rcases Nat.lt_or_ge k c.sinks.handles.length with hk | hk
  · obtain ⟨left, hone, -⟩ := h.holds
    rw [hone.cell? hk]
    obtain ⟨t, r, he, hF, -⟩ :=
      job.wait_effect cs true rounds { world := c.world, bucket, sink := left, trace := c.trace }
    have htrace : _ = c.trace ++ t := he.trace
    dsimp only
    rw [htrace, List.drop_left, he.world]
    obtain ⟨hall, hhandles⟩ := h.holds.hand hk t drains
    rw [hF.handsOverPages, ← fetchedEvents_append] at hall
    refine ⟨hhandles ▸ h.there, hall, ?_, ?_⟩
    · rw [cs.replay_append, ← h.world]
    · exact (cs.answers_append _ _ _).2 ⟨h.answers, h.world ▸ he.answers⟩
  · rw [Handles.cell?_eq_none _ hk]
    exact h

theorem Keeps.clone (h : c.Keeps cs w) (k : Nat) : (c.clone k).Keeps cs w := by
  refine ⟨?_, h.holds.clone k, h.world, h.answers⟩
  rw [Collection.clone]
  cases hk : c.sinks.clone? k with
  | none => exact h.there
  | some p =>
      obtain ⟨q, -, rfl⟩ := Option.map_eq_some_iff.1 hk
      simp

theorem drain_rest (c : Collection σ) (k : Nat) :
    (c.drain k).world = c.world ∧ (c.drain k).trace = c.trace := by
  rw [Collection.drain]
  cases c.sinks.drain? k <;> exact ⟨rfl, rfl⟩

theorem Keeps.drain (h : c.Keeps cs w) (k : Nat) : (c.drain k).Keeps cs w := by
  obtain ⟨hworld, htrace⟩ := c.drain_rest k
  refine ⟨?_, ?_, ?_, ?_⟩
  · rw [handles_drain]
    exact h.there
  · rw [htrace]
    exact h.holds.drain k
  · rw [hworld, htrace]
    exact h.world
  · rw [htrace]
    exact h.answers

theorem Keeps.perform (h : c.Keeps cs w) (step : Collecting) : (c.perform cs step).Keeps cs w := by
  cases step with
  | wait k bucket job rounds drains => exact h.wait k bucket job rounds drains
  | clone k => exact h.clone k
  | drain k => exact h.drain k

theorem hand_undisturbed {sink : LogBuffer} (hk : c.sinks.cell? k = some sink) (t : List Event) :
    hand k t [] c = { c with sinks := c.sinks.setCell k (sink ++ logged t) } := by
  induction t generalizing c sink with
  | nil =>
      rw [hand, logged, List.filterMap_nil, List.append_nil, Handles.setCell_self _ hk]
  | cons e t ih =>
      cases e with
      | called call reply => exact ih hk
      | logged job e =>
          have hnext := Handles.cell?_setCell c.sinks (i := k) (sink.write job e) (by simp [hk])
          have hreceive : c.receive k (.logged job e) =
              { c with sinks := c.sinks.setCell k (sink.write job e) } := by
            rw [receive, Sinks.write?, hk]
            rfl
          change hand k t [] (c.receive k (.logged job e)) = _
          rw [hreceive, ih hnext, ← List.singleton_append, logged_append, ← List.append_assoc]
          exact congrArg (fun sinks => { c with sinks }) (Handles.setCell_setCell ..)

theorem wait_undisturbed {sink : LogBuffer} (hk : c.sinks.cell? k = some sink) (bucket : Option String)
    (job : Job) (rounds : Nat) :
    let s := (job.wait cs true rounds { world := c.world, bucket, sink, trace := c.trace }).2
    c.wait cs k bucket job rounds [] =
      { c with world := s.world, sinks := c.sinks.setCell k s.sink, trace := s.trace } := by
  intro s
  obtain ⟨t, r, he, -⟩ :=
    job.wait_effect cs true rounds { world := c.world, bucket, sink, trace := c.trace }
  have htrace : s.trace = c.trace ++ t := he.trace
  have hsink : s.sink = sink ++ logged t := he.sink
  rw [Collection.wait, hk]
  change { hand k (s.trace.drop c.trace.length) [] c with world := s.world, trace := s.trace } = _
  rw [htrace, List.drop_left, hand_undisturbed hk, hsink]

theorem Keeps.collects (h : c.Keeps cs w) : c.Collects cs w := by
  refine ⟨h.there, fun k hk => ?_, h.answers, fun k sink bucket job rounds hk =>
    wait_undisturbed hk bucket job rounds⟩
  obtain ⟨left, hone, hall⟩ := h.holds
  rw [Sinks.drain?, hone.cell? hk]
  exact ⟨left, _, rfl, hall⟩

variable (cs) in
theorem keeps_foldl (h : c.Keeps cs w) (steps : List Collecting) :
    (steps.foldl (perform cs) c).Keeps cs w := by
  induction steps generalizing c with
  | nil => exact h
  | cons step steps ih => exact ih (h.perform step)

theorem keeps_start (w : σ) : ({ world := w } : Collection σ).Keeps cs w :=
  ⟨by simp [Handles.add], ⟨[], .single [] (), rfl⟩, rfl, trivial⟩

variable (cs)

/-- However waits, clones and drains follow each other, and whatever the service answers, what is drained is
what was fetched. -/
theorem drains_return_what_was_fetched (w : σ) (steps : List Collecting) :
    (steps.foldl (perform cs) { world := w }).Collects cs w :=
  (keeps_foldl cs (keeps_start w) steps).collects

end Collection

end Dispatch
