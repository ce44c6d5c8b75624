import Dispatch.Proofs.Activity

namespace Dispatch

open Activity

variable {σ : Type} (cs : Collaborators σ)

/-- The collaborators after the calls in a trace. What is logged does not reach them. -/
def Collaborators.replay (w : σ) : List Event → σ
  | [] => w
  | .called c _ :: t => replay (cs.answer c w).2 t
  | .logged _ _ :: t => replay w t

/-- Every call in the trace got the answer that the collaborators had for it. -/
def Collaborators.Answers (w : σ) : List Event → Prop
  | [] => True
  | .called c reply :: t => reply = (cs.answer c w).1 ∧ Answers (cs.answer c w).2 t
  | .logged _ _ :: t => Answers w t

def logged (t : List Event) : LogBuffer :=
  t.filterMap fun
    | .logged job e => some (job, e)
    | .called _ _ => none

def located (t : List Event) : Option String :=
  t.findSome? fun
    | .called .defaultBucket (.ok b) => some b
    | _ => none

@[simp] theorem Collaborators.replay_append (w : σ) (t u : List Event) :
    cs.replay w (t ++ u) = cs.replay (cs.replay w t) u := by
  induction t generalizing w with
  | nil => rfl
  | cons e t ih =>
      cases e with
      | called c reply => exact ih _
      | logged job e => exact ih w

@[simp] theorem Collaborators.replay_logged (w : σ) (job : String) (es : List LogEvent) :
    cs.replay w (es.map (.logged job)) = w := by
  induction es with
  | nil => rfl
  | cons e es ih => exact ih

theorem Collaborators.answers_append (w : σ) (t u : List Event) :
    cs.Answers w (t ++ u) ↔ cs.Answers w t ∧ cs.Answers (cs.replay w t) u := by
  induction t generalizing w with
  | nil => simp [Answers, replay]
  | cons e t ih =>
      cases e with
      | called c reply => simp only [List.cons_append, Answers, replay, ih, and_assoc]
      | logged job e => exact ih w

@[simp] theorem logged_append (t u : List Event) : logged (t ++ u) = logged t ++ logged u :=
  List.filterMap_append

theorem logged_map (job : String) (es : List LogEvent) :
    logged (es.map (.logged job)) = es.map (Prod.mk job) := by
  induction es with
  | nil => rfl
  | cons e es ih => exact congrArg ((job, e) :: ·) ih

@[simp] theorem located_append (t u : List Event) : located (t ++ u) = (located t).or (located u) :=
  List.findSome?_append

theorem or_located_append {known : Option String} {t : List Event} {b : String}
    (h : known.or (located t) = some b) (u : List Event) :
    known.or (located (t ++ u)) = some b := by
  rw [located_append, ← Option.or_assoc, h]
  rfl

theorem located_call {c : Call} (hc : c ≠ .defaultBucket) (reply : c.Reply) :
    located [.called c reply] = none := by
  cases c with
  | defaultBucket => exact absurd rfl hc
  | _ => rfl

/-- `t` is all that happened from `s` to `s'`. -/
structure Effect (s : Shared σ) (t : List Event) (s' : Shared σ) : Prop where
  trace : s'.trace = s.trace ++ t
  world : s'.world = cs.replay s.world t
  bucket : s'.bucket = s.bucket.or (located t)
  sink : s'.sink = s.sink ++ logged t
  answers : cs.Answers s.world t

def Shared.along (s : Shared σ) (t : List Event) : Shared σ where
  world := cs.replay s.world t
  bucket := s.bucket.or (located t)
  sink := s.sink ++ logged t
  trace := s.trace ++ t

theorem effect_iff {s s' : Shared σ} {t : List Event} :
    Effect cs s t s' ↔ cs.Answers s.world t ∧ s' = s.along cs t := by
  constructor
  · intro h
    refine ⟨h.answers, ?_⟩
    cases s'
    simp only [Shared.along, Shared.mk.injEq]
    exact ⟨h.world, h.bucket, h.sink, h.trace⟩
  · rintro ⟨hA, rfl⟩
    exact ⟨rfl, rfl, rfl, rfl, hA⟩

theorem Shared.along_append (s : Shared σ) (t u : List Event) :
    s.along cs (t ++ u) = (s.along cs t).along cs u := by
  simp only [along, cs.replay_append, located_append, logged_append, Option.or_assoc,
    List.append_assoc]

namespace Effect

variable {cs}

theorem eq_of_nil {s s' : Shared σ} (h : Effect cs s [] s') : s' = s := by
  rw [((effect_iff cs).1 h).2, Shared.along, located, logged, List.findSome?_nil, List.filterMap_nil,
    Option.or_none, List.append_nil, List.append_nil]
  rfl

theorem refl (s : Shared σ) : Effect cs s [] s where
  trace := (List.append_nil _).symm
  world := rfl
  bucket := Option.or_none.symm
  sink := (List.append_nil _).symm
  answers := trivial

theorem trans {s s' s'' : Shared σ} {t u : List Event} (h : Effect cs s t s')
    (k : Effect cs s' u s'') : Effect cs s (t ++ u) s'' where
  trace := by rw [k.trace, h.trace, List.append_assoc]
  world := by rw [k.world, h.world, cs.replay_append]
  bucket := by rw [k.bucket, h.bucket, located_append, Option.or_assoc]
  sink := by rw [k.sink, h.sink, logged_append, List.append_assoc]
  answers := (cs.answers_append _ _ _).2 ⟨h.answers, h.world ▸ k.answers⟩

theorem call (s : Shared σ) {c : Call} {reply : c.Reply} (hc : c ≠ .defaultBucket)
    (h : (cs.answer c s.world).1 = reply) : Effect cs s [.called c reply] (s.after cs c) where
  trace := by rw [← h]; rfl
  world := rfl
  bucket := by rw [located_call hc, Option.or_none]; rfl
  sink := (List.append_nil _).symm
  answers := ⟨h.symm, trivial⟩

theorem log (s : Shared σ) (job : String) (e : LogEvent) :
    Effect cs s [.logged job e]
      { s with sink := s.sink.write job e, trace := s.trace ++ [.logged job e] } where
  trace := rfl
  world := rfl
  bucket := Option.or_none.symm
  sink := rfl
  answers := trivial

end Effect

/-- What finding out the default bucket takes: nothing once it is known, or else one call. -/
inductive Locates : Option String → List Event → Except Halt String → Prop
  | known (b) : Locates (some b) [] (.ok b)
  | asked (b) : Locates none [.called .defaultBucket (.ok b)] (.ok b)
  | refused (e) : Locates none [.called .defaultBucket (.error e)] (.error (.failed (.remote e)))

theorem Locates.unique {known : Option String} {t u : List Event} {r r' : Except Halt String} {w : σ}
    (h : Locates known t r) (h' : Locates known u r') (ht : cs.Answers w t) (hu : cs.Answers w u) :
    t = u ∧ r = r' := by
  cases h with
  | known b =>
      cases h'
      exact ⟨rfl, rfl⟩
  | asked b =>
      cases h' with
      | asked b' =>
          cases ht.1.trans hu.1.symm
          exact ⟨rfl, rfl⟩
      | refused e => cases ht.1.trans hu.1.symm
  | refused e =>
      cases h' with
      | asked b => cases ht.1.trans hu.1.symm
      | refused e' =>
          cases ht.1.trans hu.1.symm
          exact ⟨rfl, rfl⟩

theorem defaultBucket_locates (s : Shared σ) :
    ∃ t, Effect cs s t (defaultBucket cs s).2 ∧ Locates s.bucket t (defaultBucket cs s).1 := by
  cases hs : s.bucket with
  | some b =>
      rw [defaultBucket_known cs hs]
      exact ⟨[], .refl s, .known b⟩
  | none =>
      cases h : (cs.answer .defaultBucket s.world).1 with
      | error e =>
          rw [defaultBucket_error cs hs h]
          refine ⟨[.called .defaultBucket (.error e)],
            ⟨?_, rfl, ?_, (List.append_nil _).symm, ⟨h.symm, trivial⟩⟩, .refused e⟩
          · rw [← h]
            rfl
          · exact Option.or_none.symm
      | ok b =>
          rw [defaultBucket_ok cs hs h]
          refine ⟨[.called .defaultBucket (.ok b)],
            ⟨?_, rfl, ?_, (List.append_nil _).symm, ⟨h.symm, trivial⟩⟩, .asked b⟩
          · rw [← h]
            rfl
          · rw [hs]
            rfl

end Dispatch
