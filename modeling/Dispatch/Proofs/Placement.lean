import Dispatch.Proofs.Uploads

namespace Dispatch

open Activity Storage

def AnyPath {D : Type} (channels : List (Channel D)) : Prop := ∃ p, .path p ∈ channels

/-- The output at a position, if bare paths go to `address`. -/
def Channel.placed (address : String) (position : Nat) : Channel OutputDescriptor → OutputDescriptor
  | .descriptor d => d.withName (d.name.getD (outputName position))
  | .path source => { name := some (outputName position), source, destination := address }

def placements (address : String) (n : Nat) (outputs : List (Channel OutputDescriptor)) :
    List OutputDescriptor :=
  (outputs.zipIdx n).map fun x => x.1.placed address x.2

inductive Places (job : String) (known : Option String) (n : Nat)
    (outputs : List (Channel OutputDescriptor)) :
    List Event → Except Halt (List OutputDescriptor) → Prop
  | unasked (hp : ¬ AnyPath outputs) (address : String) :
      Places job known n outputs [] (.ok (placements address n outputs))
  | unlocated {t h} (hp : AnyPath outputs) (hb : Locates known t (.error h)) :
      Places job known n outputs t (.error h)
  | located {t b} (hp : AnyPath outputs) (hb : Locates known t (.ok b)) :
      Places job known n outputs t
        (.ok (placements (remoteUri b [job, defaultOutputFolder]) n outputs))

section Placing

variable {job b : String} {known : Option String} {n : Nat}
  {outputs : List (Channel OutputDescriptor)} {t u : List Event}
  {r : Except Halt (List OutputDescriptor)}

theorem AnyPath.cons {D : Type} {channels : List (Channel D)} (h : AnyPath channels) (c : Channel D) :
    AnyPath (c :: channels) :=
  h.imp fun _ => List.mem_cons_of_mem _

theorem not_anyPath_iff {D : Type} {channels : List (Channel D)} :
    ¬ AnyPath channels ↔ ∀ c ∈ channels, c.isDescriptor = true := by
  constructor
  · intro h c hc
    cases c with
    | descriptor d => rfl
    | path path => exact absurd ⟨path, hc⟩ h
  · rintro h ⟨path, hp⟩
    cases h _ hp

theorem anyPath_cons_descriptor {D : Type} {channels : List (Channel D)} {d : D} :
    AnyPath (.descriptor d :: channels) ↔ AnyPath channels := by
  simp [AnyPath]

theorem placements_getElem? (address : String) (k : Nat) :
    (placements address n outputs)[k]? = outputs[k]?.map fun c => c.placed address (n + k) := by
  rw [placements, List.getElem?_map, List.getElem?_zipIdx, Option.map_map]
  rfl

theorem placements_length (address : String) : (placements address n outputs).length = outputs.length := by
  rw [placements, List.length_map, List.length_zipIdx]

theorem placements_of_no_path (hp : ¬ AnyPath outputs) (address address' : String) :
    placements address n outputs = placements address' n outputs := by
  apply List.ext_getElem?
  intro k
  rw [placements_getElem?, placements_getElem?]
  cases hk : outputs[k]? with
  | none => rfl
  | some c =>
      cases c with
      | descriptor d => rfl
      | path p => exact absurd ⟨p, List.mem_of_getElem? hk⟩ hp

namespace Places

theorem of_no_path (h : Places job known n outputs t r) (hp : ¬ AnyPath outputs) (address : String) :
    t = [] ∧ r = .ok (placements address n outputs) := by
  cases h with
  | unasked _ address' => exact ⟨rfl, congrArg Except.ok (placements_of_no_path hp address' address)⟩
  | unlocated hp' _ => exact absurd hp' hp
  | located hp' _ => exact absurd hp' hp

theorem of_path (h : Places job known n outputs t r) (hp : AnyPath outputs) : ∃ r', Locates known t r' ∧
    r = r'.map fun b => placements (remoteUri b [job, defaultOutputFolder]) n outputs := by
  cases h with
  | unasked hp' _ => exact absurd hp hp'
  | unlocated _ hb => exact ⟨_, hb, rfl⟩
  | located _ hb => exact ⟨_, hb, rfl⟩

theorem cons_descriptor (d : OutputDescriptor) (h : Places job known (n + 1) outputs t r) :
    Places job known n (.descriptor d :: outputs) t
      (r.map (d.withName (d.name.getD (outputName n)) :: ·)) := by
  cases h with
  | unasked hp address => exact .unasked (mt anyPath_cons_descriptor.1 hp) address
  | unlocated hp hb => exact .unlocated (hp.cons _) hb
  | located hp hb => exact .located (hp.cons _) hb

theorem cons_path (p : String) (hb : Locates known t (.ok b))
    (h : Places job (some b) (n + 1) outputs u r) :
    Places job known n (.path p :: outputs) (t ++ u)
      (r.map (Channel.placed (remoteUri b [job, defaultOutputFolder]) n (.path p) :: ·)) := by
  have hp : AnyPath (.path p :: outputs) := ⟨p, List.mem_cons_self⟩
  cases h with
  | unasked hnone address =>
      rw [List.append_nil, placements_of_no_path hnone address]
      exact .located hp hb
  | unlocated hp' hb' => cases hb'
  | located hp' hb' =>
      cases hb'
      rw [List.append_nil]
      exact .located hp hb

end Places

end Placing

variable {σ : Type} (cs : Collaborators σ) (job : String)

theorem normalizeOutputsFrom_places (n : Nat) (outputs : List (Channel OutputDescriptor))
    (s : Shared σ) :
    ∃ t, Effect cs s t (normalizeOutputsFrom cs job n outputs s).2 ∧
      Places job s.bucket n outputs t (normalizeOutputsFrom cs job n outputs s).1 := by
  induction outputs generalizing n s with
  | nil => exact ⟨[], .refl s, .unasked (by simp [AnyPath]) ""⟩
  | cons c outputs ih =>
      rw [normalizeOutputsFrom]
      cases c with
      | descriptor d =>
          obtain ⟨t, ht, hP⟩ := ih (n + 1) s
          rw [Channel.toOutput, pure_bind, bind_pure_apply]
          exact ⟨t, ht, hP.cons_descriptor d⟩
      | path p =>
          rw [Channel.toOutput, bind_assoc]
          obtain ⟨t, ht, hL⟩ := defaultBucket_locates cs s
          rcases hb : defaultBucket cs s with ⟨h | b, s'⟩
          · rw [hb] at ht hL
            rw [bind_error _ hb]
            exact ⟨t, ht, .unlocated ⟨p, List.mem_cons_self⟩ hL⟩
          · rw [hb] at ht hL
            rw [bind_ok _ hb, pure_bind, bind_pure_apply]
            obtain ⟨u, hu, hP⟩ := ih (n + 1) s'
            have hknown : s'.bucket = some b := ht.bucket.trans hL.settles
            exact ⟨t ++ u, ht.trans hu, (hknown ▸ hP).cons_path p hL⟩

theorem normalizeOutputs_descriptors (ds : List OutputDescriptor) (address : String) (s : Shared σ) :
    normalizeOutputs cs job (ds.map .descriptor) s =
      (.ok (placements address 1 (ds.map .descriptor)), s) := by
  obtain ⟨t, ht, hP⟩ := normalizeOutputsFrom_places cs job 1 (ds.map .descriptor) s
  obtain ⟨rfl, hr⟩ := hP.of_no_path (not_anyPath_iff.2 (isDescriptor_map ds)) address
  exact Prod.ext hr ht.eq_of_nil

/-- Every output keeps its place: the one at position `k + 1` is made of the channel at `k`. Descriptors
alone take no call. With the first path the default bucket is asked for, unless it is known; no other call
is made, and that one answer decides about all outputs, whatever stands before and behind the path. -/
theorem outputs_keep_their_places (s : Shared σ) :
    (∀ address (outputs : List (Channel OutputDescriptor)),
      (placements address 1 outputs).length = outputs.length ∧
      ∀ k : Nat,
        (placements address 1 outputs)[k]? = outputs[k]?.map fun c => c.placed address (k + 1)) ∧
    (∀ address (ds : List OutputDescriptor), normalizeOutputs cs job (ds.map .descriptor) s =
      (.ok (placements address 1 (ds.map .descriptor)), s)) ∧
    ∃ t r, Locates s.bucket t r ∧
      ∀ (before : List OutputDescriptor) (p : String) (rest : List (Channel OutputDescriptor)),
        let outputs := before.map .descriptor ++ .path p :: rest
        Effect cs s t (normalizeOutputs cs job outputs s).2 ∧
        (normalizeOutputs cs job outputs s).1 =
          r.map fun b => placements (remoteUri b [job, defaultOutputFolder]) 1 outputs := by
  refine ⟨fun address outputs => ⟨placements_length address, fun k => ?_⟩,
    fun address ds => normalizeOutputs_descriptors cs job ds address s, ?_⟩
  · rw [placements_getElem?, Nat.add_comm 1 k]
  · obtain ⟨t, ht, hL⟩ := defaultBucket_locates cs s
    refine ⟨t, _, hL, ?_⟩
    intro before p rest outputs
    have hp : AnyPath outputs := ⟨p, List.mem_append_right _ List.mem_cons_self⟩
    obtain ⟨t', ht', hP⟩ := normalizeOutputsFrom_places cs job 1 outputs s
    obtain ⟨r', hL', hr⟩ := hP.of_path hp
    -- the collaborators were asked in one state, so they gave one answer
    obtain ⟨rfl, rfl⟩ := hL.unique cs hL' ht.answers ht'.answers
    exact ⟨ht', hr⟩

end Dispatch
