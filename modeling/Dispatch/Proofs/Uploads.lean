import Dispatch.Proofs.Normalization

namespace Dispatch

open Activity Storage

/-- An input with the source it ends up with. A remote source stays as it is. -/
structure Sourced where
  input : InputDescriptor
  source : String
  own : isRemote input.source = true → source = input.source

namespace Sourced

variable (x : Sourced) (position : Nat) (job bucket : String)

def whole : InputDescriptor :=
  { x.input with name := some (x.input.finalName position), source := x.source }

def uploads : List Event :=
  if isRemote x.input.source then []
  else
    [.called (.upload x.input.source (remoteUri bucket [job, x.input.finalName position]))
      (.ok x.source)]

end Sourced

/-- What the inputs from position `n` on become. -/
def wholes (n : Nat) (xs : List Sourced) : List InputDescriptor :=
  (xs.zipIdx n).map fun x => x.1.whole x.2

def uploads (job bucket : String) (n : Nat) (xs : List Sourced) : List Event :=
  (xs.zipIdx n).flatMap fun x => x.1.uploads x.2 job bucket

def AnyLocal (ds : List InputDescriptor) : Prop := ∃ d ∈ ds, isRemote d.source = false

/-- How the inputs from position `n` on are settled. Nobody is asked for the default bucket unless
there is an input to upload, and no one knows it yet. -/
inductive Settles (job : String) (known : Option String) (n : Nat) (ds : List InputDescriptor) :
    List Event → Except Halt (List InputDescriptor) → Prop
  | unasked (xs : List Sourced) (hxs : xs.map Sourced.input = ds)
      (hr : ∀ d ∈ ds, isRemote d.source = true) : Settles job known n ds [] (.ok (wholes n xs))
  | unlocated {t h} (hl : AnyLocal ds) (hb : Locates known t (.error h)) :
      Settles job known n ds t (.error h)
  | refused {t b} (xs : List Sourced) (d : InputDescriptor) (rest : List InputDescriptor)
      (hds : ds = xs.map Sourced.input ++ d :: rest) (hr : isRemote d.source = false)
      (hb : Locates known t (.ok b)) (e : ClientError) :
      Settles job known n ds
        (t ++ uploads job b n xs ++
          [.called (.upload d.source (remoteUri b [job, d.finalName (n + xs.length)])) (.error e)])
        (.error (.failed (.remote e)))
  | uploaded {t b} (xs : List Sourced) (hxs : xs.map Sourced.input = ds)
      (hl : AnyLocal ds) (hb : Locates known t (.ok b)) :
      Settles job known n ds (t ++ uploads job b n xs) (.ok (wholes n xs))

section Settling

variable {job b : String} {known : Option String} {n : Nat} {ds : List InputDescriptor}
  {t u : List Event} {r : Except Halt (List InputDescriptor)}

theorem AnyLocal.cons (h : AnyLocal ds) (d : InputDescriptor) : AnyLocal (d :: ds) :=
  h.imp fun _ => And.imp_left (List.mem_cons_of_mem _)

theorem uploads_cons (x : Sourced) (xs : List Sourced) :
    uploads job b n (x :: xs) = x.uploads n job b ++ uploads job b (n + 1) xs := rfl

theorem uploads_cons_remote {x : Sourced} (hx : isRemote x.input.source = true) (xs : List Sourced) :
    uploads job b n (x :: xs) = uploads job b (n + 1) xs := by
  rw [uploads_cons, Sourced.uploads, if_pos hx, List.nil_append]

theorem uploads_cons_local {x : Sourced} (hx : isRemote x.input.source = false) (xs : List Sourced) :
    uploads job b n (x :: xs) =
      .called (.upload x.input.source (remoteUri b [job, x.input.finalName n])) (.ok x.source) ::
        uploads job b (n + 1) xs := by
  rw [uploads_cons, Sourced.uploads, if_neg (by simp [hx]), List.singleton_append]

theorem uploads_of_remote {xs : List Sourced} (h : ∀ x ∈ xs, isRemote x.input.source = true) :
    uploads job b n xs = [] := by
  induction xs generalizing n with
  | nil => rfl
  | cons x xs ih =>
      obtain ⟨hx, hxs⟩ := List.forall_mem_cons.1 h
      rw [uploads_cons_remote hx, ih hxs]

theorem finalName_cons (d : InputDescriptor) (x : Sourced) (xs : List Sourced) :
    d.finalName (n + 1 + xs.length) = d.finalName (n + (x :: xs).length) := by
  rw [List.length_cons, Nat.add_right_comm, Nat.add_assoc]

namespace Settles

theorem cons_remote (x : Sourced) (hx : isRemote x.input.source = true)
    (h : Settles job known (n + 1) ds t r) :
    Settles job known n (x.input :: ds) t (r.map (x.whole n :: ·)) := by
  cases h with
  | unasked xs hxs hr =>
      exact .unasked (x :: xs) (by rw [List.map_cons, hxs]) (List.forall_mem_cons.2 ⟨hx, hr⟩)
  | unlocated hl hb => exact .unlocated (hl.cons _) hb
  | refused xs d rest hds hr hb e =>
      rw [finalName_cons d x, ← uploads_cons_remote hx]
      exact .refused (x :: xs) d rest (by rw [hds]; rfl) hr hb e
  | uploaded xs hxs hl hb =>
      rw [← uploads_cons_remote hx]
      exact .uploaded (x :: xs) (by rw [List.map_cons, hxs]) (hl.cons _) hb

theorem cons_local (x : Sourced) (hx : isRemote x.input.source = false)
    (hb : Locates known t (.ok b)) (h : Settles job (some b) (n + 1) ds u r) :
    Settles job known n (x.input :: ds)
      (t ++ .called (.upload x.input.source (remoteUri b [job, x.input.finalName n])) (.ok x.source)
        :: u)
      (r.map (x.whole n :: ·)) := by
  have hl : AnyLocal (x.input :: ds) := ⟨x.input, List.mem_cons_self, hx⟩
  cases h with
  | unasked xs hxs hr =>
      -- the rest makes no call: what comes before the rest is all there is
      have hnone : uploads job b (n + 1) xs = [] := by
        apply uploads_of_remote
        intro y hy
        exact hr y.input (hxs ▸ List.mem_map_of_mem hy)
      rw [← hnone, ← uploads_cons_local hx]
      exact .uploaded (x :: xs) (by rw [List.map_cons, hxs]) hl hb
  | unlocated hl hb' => cases hb'
  | refused xs d rest hds hr hb' e =>
      cases hb'
      rw [finalName_cons d x, List.nil_append, ← List.cons_append, ← uploads_cons_local hx,
        ← List.append_assoc]
      exact .refused (x :: xs) d rest (by rw [hds]; rfl) hr hb e
  | uploaded xs hxs hl' hb' =>
      cases hb'
      rw [List.nil_append, ← uploads_cons_local hx]
      exact .uploaded (x :: xs) (by rw [List.map_cons, hxs]) hl hb

end Settles

theorem Normalizes.settles (h : Normalizes job known n ds t r) : Settles job known n ds t r := by
  induction h with
  | done known n => exact .unasked [] rfl nofun
  | @remote known n d ds t r hr rest ih => exact ih.cons_remote ⟨d, d.source, fun _ => rfl⟩ hr
  | unlocated hr hb => exact .unlocated ⟨_, List.mem_cons_self, hr⟩ hb
  | @refused known n d ds t b hr hb e =>
      have h : Settles job known n (d :: ds) (t ++ [] ++ _) _ := .refused [] d ds rfl hr hb e
      rwa [List.append_nil] at h
  | @uploaded known n d ds t b u r hr hb source rest ih =>
      exact ih.cons_local ⟨d, source, fun h => absurd h (by simp [hr])⟩ hr hb

end Settling

theorem checkInputs_descriptors (ds : List InputDescriptor) :
    checkInputs (ds.map .descriptor) = .ok () :=
  checkInputs_ok_iff.2 (isDescriptor_map ds)

theorem checkInputs_path (ds : List InputDescriptor) (p : String)
    (rest : List (Channel InputDescriptor)) :
    checkInputs (ds.map .descriptor ++ .path p :: rest) = .error (.barePath (ds.length + 1)) := by
  have hnone : (ds.map Channel.descriptor).findIdx? (!·.isDescriptor) = none := by
    simp [List.findIdx?_eq_none_iff, Channel.isDescriptor, Channel.descriptor?]
  have hfirst : (Channel.path p :: rest).findIdx? (!·.isDescriptor) = some 0 := by
    simp [List.findIdx?_cons, Channel.isDescriptor, Channel.descriptor?]
  rw [checkInputs, List.findIdx?_append, hnone, hfirst]
  simp

variable {σ : Type} (cs : Collaborators σ) (job : String)

theorem normalizeInputs_descriptors (ds : List InputDescriptor) :
    normalizeInputs cs job (ds.map .descriptor) = normalizeInputsFrom cs job 1 ds := by
  have hds : (ds.map Channel.descriptor).filterMap Channel.descriptor? = ds := by
    rw [List.filterMap_map]
    exact List.filterMap_some
  funext s
  rw [normalizeInputs, checkInputs_descriptors, bind_ok _ (ofExcept_ok _ s ()), hds]

/-- Inputs that all are descriptors are settled in their order. Where there is a bare path, the first
one is the fault, whatever else there is, and nobody is asked for anything. -/
theorem normalizeInputs_settles (s : Shared σ) :
    (∀ ds : List InputDescriptor, ∃ t,
      Effect cs s t (normalizeInputs cs job (ds.map .descriptor) s).2 ∧
      Settles job s.bucket 1 ds t (normalizeInputs cs job (ds.map .descriptor) s).1) ∧
    ∀ (before : List InputDescriptor) (p : String) (rest : List (Channel InputDescriptor)),
      normalizeInputs cs job (before.map .descriptor ++ .path p :: rest) s =
        (.error (.failed (.typeConstraint (.barePath (before.length + 1)))), s) := by
  constructor
  · intro ds
    obtain ⟨t, ht, hN⟩ := normalizeInputsFrom_normalizes cs job 1 ds s
    rw [normalizeInputs_descriptors]
    exact ⟨t, ht, hN.settles⟩
  · intro before p rest
    rw [normalizeInputs, checkInputs_path]
    exact bind_error _ (ofExcept_error _ s _)

end Dispatch
