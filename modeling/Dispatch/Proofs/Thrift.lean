import Dispatch.Proofs.Payload

namespace Dispatch

open Storage

def Event.IsLookup : Event → Prop
  | .called .defaultBucket _ => True
  | _ => False

def Event.IsNeutral : Event → Prop
  | .called .defaultBucket _ | .called (.upload ..) _ => False
  | _ => True

/-- The default bucket, known or not at first, is looked up until it is found, and every upload is to an
address below it. -/
inductive Thrifty : Option String → List Event → Prop
  | nil (known) : Thrifty known []
  | missed (e) {t} (h : Thrifty none t) : Thrifty none (.called .defaultBucket (.error e) :: t)
  | found (b) {t} (h : Thrifty (some b) t) : Thrifty none (.called .defaultBucket (.ok b) :: t)
  | upload {b t} (path segments reply) (h : Thrifty (some b) t) :
      Thrifty (some b) (.called (.upload path (remoteUri b segments)) reply :: t)
  | other {known e t} (he : e.IsNeutral) (h : Thrifty known t) : Thrifty known (e :: t)

theorem Event.IsNeutral.located_nil {e : Event} (he : e.IsNeutral) : located [e] = none := by
  cases e with
  | called c reply => cases c <;> first | rfl | exact he.elim
  | logged job e => rfl

theorem Event.IsNeutral.not_lookup {e : Event} (he : e.IsNeutral) : ¬ e.IsLookup := by
  intro hl
  cases e with
  | called c reply => cases c <;> first | exact hl | exact he
  | logged job e => exact hl

theorem Event.IsObservation.neutral {streaming : Bool} {e : Event} (he : e.IsObservation streaming) :
    e.IsNeutral := by
  cases e with
  | called c reply => cases c <;> first | trivial | rcases he with h | ⟨h, -⟩ <;> cases h
  | logged job e => trivial

section Thrift

variable {known : Option String} {t u : List Event} {b : String}

theorem located_cons (e : Event) (t : List Event) :
    located (e :: t) = (located [e]).or (located t) :=
  located_append [e] t

theorem Thrifty.of_neutral (known : Option String) (h : ∀ e ∈ t, e.IsNeutral) : Thrifty known t := by
  induction t with
  | nil => exact .nil known
  | cons e t ih =>
      obtain ⟨he, ht⟩ := List.forall_mem_cons.1 h
      exact .other he (ih ht)

theorem thrifty_append : Thrifty known (t ++ u) ↔
    Thrifty known t ∧ Thrifty (known.or (located t)) u := by
  constructor
  · intro h
    induction t generalizing known with
    | nil => exact ⟨.nil known, by simpa [located] using h⟩
    | cons e t ih =>
        rw [located_cons]
        cases h with
        | missed e h => exact (ih h).imp (.missed e) id
        | found b h => exact (ih h).imp (.found b) id
        | upload path segments reply h => exact (ih h).imp (.upload path segments reply) id
        | other he h =>
            rw [he.located_nil, Option.none_or]
            exact (ih h).imp (.other he) id
  · rintro ⟨h, hu⟩
    induction h with
    | nil known => simpa [located] using hu
    | missed e h ih => exact .missed e (ih hu)
    | found b h ih => exact .found b (ih hu)
    | upload path segments reply h ih => exact .upload path segments reply (ih hu)
    | other he h ih =>
        rw [located_cons, he.located_nil, Option.none_or] at hu
        exact .other he (ih hu)

theorem Thrifty.not_lookup (h : Thrifty (some b) t) : ∀ e ∈ t, ¬ e.IsLookup := by
  generalize hk : some b = known at h
  induction h with
  | nil known => simp
  | missed e h ih => cases hk
  | found b h ih => cases hk
  | upload path segments reply h ih => exact List.forall_mem_cons.2 ⟨not_false, ih hk⟩
  | other he h ih => exact List.forall_mem_cons.2 ⟨he.not_lookup, ih hk⟩

theorem Thrifty.after_found {later : List Event}
    (h : Thrifty known (t ++ .called .defaultBucket (.ok b) :: later)) :
    ∀ e ∈ later, ¬ e.IsLookup := by
  have hlater := (thrifty_append.1 h).2
  generalize known.or (located t) = k at hlater
  cases hlater with
  | found b h => exact h.not_lookup
  | other he h => exact he.elim

theorem Thrifty.upload_below {path uri : String} {reply : (Call.upload path uri).Reply}
    {later : List Event} (h : Thrifty none (t ++ .called (.upload path uri) reply :: later)) :
    ∃ b segments, located t = some b ∧ uri = remoteUri b segments := by
  have hlater := (thrifty_append.1 h).2
  rw [Option.none_or] at hlater
  generalize hk : located t = k at hlater
  cases hlater with
  | upload path segments reply h => exact ⟨_, segments, rfl, rfl⟩
  | other he h => exact he.elim

end Thrift

section Courses

variable {known : Option String} {t : List Event}

theorem Locates.thrifty {r : Except Halt String} (h : Locates known t r) : Thrifty known t := by
  cases h with
  | known b => exact .nil _
  | asked b => exact .found b (.nil _)
  | refused e => exact .missed e (.nil _)

theorem uploads_thrifty {job b : String} (n : Nat) (xs : List Sourced) :
    Thrifty (some b) (uploads job b n xs) := by
  induction xs generalizing n with
  | nil => exact .nil _
  | cons x xs ih =>
      cases hx : isRemote x.input.source with
      | true =>
          rw [uploads_cons_remote hx]
          exact ih (n + 1)
      | false =>
          rw [uploads_cons_local hx]
          exact .upload _ _ _ (ih (n + 1))

theorem Locates.thrifty_append {b : String} {u : List Event} (h : Locates known t (.ok b))
    (hu : Thrifty (some b) u) : Thrifty known (t ++ u) :=
  Dispatch.thrifty_append.2 ⟨h.thrifty, h.settles ▸ hu⟩

theorem Settles.thrifty {job : String} {n : Nat} {ds : List InputDescriptor}
    {r : Except Halt (List InputDescriptor)} (h : Settles job known n ds t r) :
    Thrifty known t := by
  cases h with
  | unasked xs hxs hr => exact .nil _
  | unlocated hl hb => exact hb.thrifty
  | @refused t b xs d rest hds hr hb e =>
      rw [List.append_assoc]
      apply hb.thrifty_append
      exact thrifty_append.2 ⟨uploads_thrifty n xs, .upload _ _ _ (.nil _)⟩
  | uploaded xs hxs hl hb => exact hb.thrifty_append (uploads_thrifty n xs)

theorem Places.thrifty {job : String} {n : Nat} {outputs : List (Channel OutputDescriptor)}
    {r : Except Halt (List OutputDescriptor)} (h : Places job known n outputs t r) :
    Thrifty known t := by
  cases h with
  | unasked hp address => exact .nil _
  | unlocated hp hb => exact hb.thrifty
  | located hp hb => exact hb.thrifty

theorem Stows.thrifty {path : String} {segments : List String} {r : Except Halt String}
    (h : Stows path segments known t r) : Thrifty known t := by
  cases h with
  | unlocated hb => exact hb.thrifty
  | uploaded hb reply => exact hb.thrifty_append (.upload _ _ _ (.nil _))

theorem Adjusts.thrifty {a : Adjustment} {plan : Plan} {r : Except Halt Plan}
    (h : Adjusts a plan known t r) : Thrifty known t := by
  induction h with
  | done plan known => exact .nil _
  | fail h plan known => exact .nil _
  | consult h ih => exact ih
  | edit h ih => exact ih
  | bucket hb h ih => exact thrifty_append.2 ⟨hb.thrifty, ih⟩
  | ship hs h ih => exact thrifty_append.2 ⟨hs.thrifty, ih⟩

theorem Completes.thrifty {plan : Plan} {r : Except Halt NormalizedJob}
    (h : Completes plan known t r) : Thrifty known t := by
  cases h with
  | constrained hc => exact .nil _
  | unsettled hds hi => exact hi.thrifty
  | unplaced hds hi ho => exact thrifty_append.2 ⟨hi.thrifty, ho.thrifty⟩
  | whole hds hi ho => exact thrifty_append.2 ⟨hi.thrifty, ho.thrifty⟩

theorem Submits.neutral {c : Configuration} {job : NormalizedJob} {r : Except Halt Job}
    (h : Submits c job t r) : ∀ e ∈ t, e.IsNeutral := by
  cases h <;> simp [Event.IsNeutral]

theorem Launches.thrifty {c : Configuration} {plan : Plan} {r : Except Halt Job}
    (h : Launches c plan known t r) : Thrifty known t := by
  cases h with
  | incomplete hc => exact hc.thrifty
  | submitted hc hs => exact thrifty_append.2 ⟨hc.thrifty, .of_neutral _ hs.neutral⟩

theorem Starts.thrifty {c : Configuration} {o : RunOptions} {a : Adjustment} {name : String}
    {r : Except Halt Job} (h : Starts c o a name known t r) : Thrifty known t := by
  cases h with
  | constrained hc => exact .nil _
  | unadjusted ho ha => exact ha.thrifty
  | launched ho ha hl => exact thrifty_append.2 ⟨ha.thrifty, hl.thrifty⟩

theorem Follows.neutral {job : String} {streaming : Bool} {r : Except Halt JobDescription}
    (h : Follows job streaming t r) : ∀ e ∈ t, e.IsNeutral :=
  fun e he => (h.observing e he).neutral

theorem Runs.thrifty {p p' : Processor} {o : RunOptions} {a : Adjustment} {name : String}
    {r : Except Halt Job} (h : Runs p o a name known t r p') : Thrifty known t := by
  cases h with
  | unstarted hs => exact hs.thrifty
  | left hs hw => exact hs.thrifty
  | followed hs hw hf => exact thrifty_append.2 ⟨hs.thrifty, .of_neutral _ hf.neutral⟩

end Courses

def AsksFirst (t : List Event) : Prop := ∃ reply later, t = .called .defaultBucket reply :: later

def AnyLocalChannel (inputs : List (Channel InputDescriptor)) : Prop :=
  ∃ d, .descriptor d ∈ inputs ∧ isRemote d.source = false

def Plan.NeedsBucket (plan : Plan) : Prop :=
  (∀ c ∈ plan.inputs, c.isDescriptor = true) ∧ (AnyLocalChannel plan.inputs ∨ AnyPath plan.outputs)

def Adjustment.NeedsBucket (needs : Plan → Prop) : Adjustment → Plan → Prop
  | done, plan => needs plan
  | fail _, _ => False
  | consult next, plan => (next plan).NeedsBucket needs plan
  | edit f next, plan => next.NeedsBucket needs (f plan)
  | bucket _, _ => True
  | ship .., _ => True

section Asking

variable {known : Option String} {t u : List Event}

theorem AsksFirst.append (h : AsksFirst t) (u : List Event) : AsksFirst (t ++ u) := by
  obtain ⟨reply, later, rfl⟩ := h
  exact ⟨reply, later ++ u, rfl⟩

theorem Locates.asksFirst {r : Except Halt String} (h : Locates none t r) : AsksFirst t := by
  cases h with
  | asked b => exact ⟨_, [], rfl⟩
  | refused e => exact ⟨_, [], rfl⟩

theorem anyLocalChannel_iff {inputs : List (Channel InputDescriptor)} {ds : List InputDescriptor}
    (hds : inputs = ds.map .descriptor) : AnyLocalChannel inputs ↔ AnyLocal ds := by
  rw [hds]
  simp [AnyLocalChannel, AnyLocal]

theorem Settles.asksFirst {job : String} {n : Nat} {ds : List InputDescriptor}
    {r : Except Halt (List InputDescriptor)} (h : Settles job none n ds t r) (hl : AnyLocal ds) :
    AsksFirst t := by
  cases h with
  | unasked xs hxs hr =>
      obtain ⟨d, hd, hlocal⟩ := hl
      simp [hr d hd] at hlocal
  | unlocated hl hb => exact hb.asksFirst
  | refused xs d rest hds hr hb e => exact (hb.asksFirst.append _).append _
  | uploaded xs hxs hl hb => exact hb.asksFirst.append _

theorem Settles.silent {job : String} {n : Nat} {ds : List InputDescriptor}
    {r : Except Halt (List InputDescriptor)} (h : Settles job known n ds t r) (hl : ¬ AnyLocal ds) :
    t = [] ∧ ∃ inputs, r = .ok inputs := by
  cases h with
  | unasked xs hxs hr => exact ⟨rfl, _, rfl⟩
  | unlocated hl' hb => exact absurd hl' hl
  | refused xs d rest hds hr hb e => exact absurd ⟨d, by simp [hds], hr⟩ hl
  | uploaded xs hxs hl' hb => exact absurd hl' hl

theorem Places.asksFirst {job : String} {n : Nat} {outputs : List (Channel OutputDescriptor)}
    {r : Except Halt (List OutputDescriptor)} (h : Places job none n outputs t r)
    (hp : AnyPath outputs) : AsksFirst t := by
  cases h with
  | unasked hp' address => exact absurd hp hp'
  | unlocated hp hb => exact hb.asksFirst
  | located hp hb => exact hb.asksFirst

theorem Places.silent {job : String} {n : Nat} {outputs : List (Channel OutputDescriptor)}
    {r : Except Halt (List OutputDescriptor)} (h : Places job known n outputs t r)
    (hp : ¬ AnyPath outputs) : t = [] := by
  cases h with
  | unasked hp' address => rfl
  | unlocated hp' hb => exact absurd hp' hp
  | located hp' hb => exact absurd hp' hp

theorem Completes.asksFirst {plan : Plan} {r : Except Halt NormalizedJob}
    (h : Completes plan none t r) (hn : plan.NeedsBucket) : AsksFirst t := by
  obtain ⟨hall, hneeds⟩ := hn
  have hplaced {ds : List InputDescriptor} {v w : List Event} {inputs : List InputDescriptor}
      {x : Except Halt (List OutputDescriptor)} (hds : plan.inputs = ds.map .descriptor)
      (hi : Settles plan.jobName none 1 ds v (.ok inputs))
      (ho : Places plan.jobName ((none : Option String).or (located v)) 1 plan.outputs w x) :
      AsksFirst (v ++ w) := by
    by_cases hl : AnyLocal ds
    · exact (hi.asksFirst hl).append w
    · obtain ⟨rfl, -⟩ := hi.silent hl
      exact ho.asksFirst (hneeds.resolve_left (mt (anyLocalChannel_iff hds).1 hl))
  cases h with
  | constrained hc =>
      rw [checkInputs_ok_iff.2 hall] at hc
      cases hc
  | @unsettled ds t h hds hi =>
      by_cases hl : AnyLocal ds
      · exact hi.asksFirst hl
      · obtain ⟨-, inputs, hr⟩ := hi.silent hl
        cases hr
  | unplaced hds hi ho => exact hplaced hds hi ho
  | whole hds hi ho => exact hplaced hds hi ho

theorem Completes.silent {plan : Plan} {r : Except Halt NormalizedJob}
    (h : Completes plan known t r) (hn : ¬ plan.NeedsBucket) : t = [] := by
  have hplain {ds : List InputDescriptor} (hds : plan.inputs = ds.map .descriptor) :
      ¬ AnyLocal ds ∧ ¬ AnyPath plan.outputs := by
    rw [← not_or, ← anyLocalChannel_iff hds]
    exact fun hneeds => hn ⟨hds ▸ isDescriptor_map ds, hneeds⟩
  cases h with
  | constrained hc => rfl
  | unsettled hds hi => exact (hi.silent (hplain hds).1).1
  | unplaced hds hi ho =>
      rw [(hi.silent (hplain hds).1).1, ho.silent (hplain hds).2]
      rfl
  | whole hds hi ho =>
      rw [(hi.silent (hplain hds).1).1, ho.silent (hplain hds).2]
      rfl

theorem Adjusts.asksFirst {a : Adjustment} {plan : Plan} {needs : Plan → Prop} {r : Except Halt Plan}
    (h : Adjusts a plan known t r) (hk : known = none) (hn : a.NeedsBucket needs plan) :
    AsksFirst t ∨ t = [] ∧ ∃ plan', r = .ok plan' ∧ needs plan' := by
  induction h with
  | done plan known => exact .inr ⟨rfl, plan, rfl, hn⟩
  | fail h plan known => exact hn.elim
  | consult h ih => exact ih hk hn
  | edit h ih => exact ih hk hn
  | bucket hb h ih =>
      subst hk
      exact .inl (hb.asksFirst.append _)
  | ship hs h ih =>
      subst hk
      cases hs with
      | unlocated hb => exact .inl (hb.asksFirst.append _)
      | uploaded hb reply => exact .inl ((hb.asksFirst.append _).append _)

theorem Adjusts.silent {a : Adjustment} {plan : Plan} {needs : Plan → Prop} {r : Except Halt Plan}
    (h : Adjusts a plan known t r) (hn : ¬ a.NeedsBucket needs plan) :
    t = [] ∧ ∀ plan', r = .ok plan' → ¬ needs plan' := by
  induction h with
  | done plan known =>
      refine ⟨rfl, ?_⟩
      rintro _ ⟨rfl⟩
      exact hn
  | fail h plan known => exact ⟨rfl, nofun⟩
  | consult h ih => exact ih hn
  | edit h ih => exact ih hn
  | bucket hb h ih => exact absurd trivial hn
  | ship hs h ih => exact absurd trivial hn

variable {c : Configuration} {o : RunOptions} {a : Adjustment} {name : String}

/-- The run comes to a point where it must know the default bucket. -/
def RunOptions.NeedsBucket (o : RunOptions) (a : Adjustment) (name : String) : Prop :=
  (∀ c ∈ o.inputs, c.isDescriptor = true) ∧
    a.NeedsBucket Plan.NeedsBucket ⟨name, o.inputs, o.outputs, none⟩

theorem Starts.asksFirst {r : Except Halt Job} (h : Starts c o a name none t r)
    (hn : o.NeedsBucket a name) : AsksFirst t := by
  cases h with
  | constrained hc =>
      rw [checkInputs_ok_iff.2 hn.1] at hc
      cases hc
  | unadjusted ho ha =>
      rcases ha.asksFirst rfl hn.2 with h | ⟨-, plan, hr, -⟩
      · exact h
      · cases hr
  | launched ho ha hl =>
      rcases ha.asksFirst rfl hn.2 with h | ⟨rfl, plan, hr, hneeds⟩
      · exact h.append _
      · cases hr
        cases hl with
        | incomplete hc => exact hc.asksFirst hneeds
        | submitted hc hs => exact (hc.asksFirst hneeds).append _

theorem Starts.spares {r : Except Halt Job} (h : Starts c o a name known t r)
    (hn : ¬ o.NeedsBucket a name) : ∀ e ∈ t, ¬ e.IsLookup := by
  have hsilent (ho : ∀ c ∈ o.inputs, c.isDescriptor = true) {v : List Event} {x : Except Halt Plan}
      (ha : Adjusts a ⟨name, o.inputs, o.outputs, none⟩ known v x) :=
    ha.silent fun hneeds => hn ⟨ho, hneeds⟩
  cases h with
  | constrained hc => simp
  | unadjusted ho ha =>
      rw [(hsilent ho ha).1]
      simp
  | launched ho ha hl =>
      obtain ⟨rfl, hplan⟩ := hsilent ho ha
      cases hl with
      | incomplete hc =>
          rw [hc.silent (hplan _ rfl)]
          simp
      | submitted hc hs =>
          rw [hc.silent (hplan _ rfl)]
          exact fun e he => (hs.neutral e he).not_lookup

theorem Runs.asksFirst {p p' : Processor} {r : Except Halt Job} (h : Runs p o a name none t r p')
    (hn : o.NeedsBucket a name) : AsksFirst t := by
  cases h with
  | unstarted hs => exact hs.asksFirst hn
  | left hs hw => exact hs.asksFirst hn
  | followed hs hw hf => exact (hs.asksFirst hn).append _

theorem Runs.spares {p p' : Processor} {r : Except Halt Job} (h : Runs p o a name known t r p')
    (hn : ¬ o.NeedsBucket a name) : ∀ e ∈ t, ¬ e.IsLookup := by
  cases h with
  | unstarted hs => exact hs.spares hn
  | left hs hw => exact hs.spares hn
  | followed hs hw hf =>
      exact List.forall_mem_append.2 ⟨hs.spares hn, fun e he => (hf.neutral e he).not_lookup⟩

end Asking

end Dispatch
