import Mathlib.Data.List.Sigma
import Dispatch.Proofs.Contents

namespace Dispatch

open Storage

section Steps

variable {Field : Type} {Value : Field → Type} [DecidableEq Field]

/-- The value of the last step for a field. -/
def last? (steps : List (Sigma Value)) (f : Field) : Option (Value f) := (steps.lookupAll f).getLast?

theorem lookupAll_singleton_self (f : Field) (v : Value f) : [(⟨f, v⟩ : Sigma Value)].lookupAll f = [v] :=
  List.lookupAll_cons_eq [] f v

theorem lookupAll_singleton_of_ne {f : Field} {a : Sigma Value} (h : f ≠ a.1) : [a].lookupAll f = [] :=
  List.lookupAll_cons_ne [] a h

theorem lookupAll_cons (a : Sigma Value) (steps : List (Sigma Value)) (f : Field) :
    (a :: steps).lookupAll f = [a].lookupAll f ++ steps.lookupAll f := by
  by_cases h : f = a.1
  · obtain ⟨g, v⟩ := a
    obtain rfl : f = g := h
    rw [lookupAll_singleton_self, List.lookupAll_cons_eq, List.singleton_append]
  · rw [lookupAll_singleton_of_ne h, List.lookupAll_cons_ne steps a h, List.nil_append]

theorem lookupAll_append (steps steps' : List (Sigma Value)) (f : Field) :
    (steps ++ steps').lookupAll f = steps.lookupAll f ++ steps'.lookupAll f := by
  induction steps with
  | nil => rfl
  | cons a steps ih => rw [List.cons_append, lookupAll_cons, ih, ← List.append_assoc, ← lookupAll_cons]

theorem lookupAll_swap {a b : Sigma Value} (h : a.1 ≠ b.1) (before after : List (Sigma Value)) (f : Field) :
    (before ++ a :: b :: after).lookupAll f = (before ++ b :: a :: after).lookupAll f := by
  have hpair : [a].lookupAll f ++ [b].lookupAll f = [b].lookupAll f ++ [a].lookupAll f := by
    by_cases hf : f = a.1
    · rw [lookupAll_singleton_of_ne (a := b) (hf ▸ h), List.append_nil, List.nil_append]
    · rw [lookupAll_singleton_of_ne hf, List.append_nil, List.nil_append]
  have hparts (x y : Sigma Value) : before ++ x :: y :: after = before ++ ([x] ++ [y]) ++ after := by simp
  rw [hparts, hparts, lookupAll_append, lookupAll_append, lookupAll_append, lookupAll_append,
    lookupAll_append, lookupAll_append, hpair]

theorem last?_append (steps steps' : List (Sigma Value)) (f : Field) :
    last? (steps ++ steps') f = (last? steps' f).or (last? steps f) := by
  rw [last?, lookupAll_append, List.getLast?_append, last?, last?]

end Steps

namespace Environment

variable {e e' : Environment} {name value : String}

theorem mem_entries_iff : (name, value) ∈ e.entries ↔ e.get? name = some value := by
  rw [get?, List.lookup_eq_some_iff]
  constructor
  · intro h
    obtain ⟨front, rest, heq⟩ := List.append_of_mem h
    have hsorted := e.sorted
    rw [heq, List.pairwise_append] at hsorted
    refine ⟨front, rest, heq, fun p hp => bne_iff_ne.2 fun hname => ?_⟩
    have hlt := hsorted.2.2 p hp (name, value) List.mem_cons_self
    exact String.lt_irrefl _ (hname ▸ hlt)
  · rintro ⟨front, rest, heq, -⟩
    rw [heq]
    exact List.mem_append_right _ List.mem_cons_self

theorem ext_get? (h : ∀ name, e.get? name = e'.get? name) : e = e' := by
  have hnodup (e : Environment) : e.entries.Nodup :=
    e.sorted.imp fun hlt heq => absurd (congrArg Prod.fst heq) (String.ne_of_lt hlt)
  have hperm : e.entries.Perm e'.entries := by
    rw [List.perm_ext_iff_of_nodup (hnodup e) (hnodup e')]
    rintro ⟨name, value⟩
    rw [mem_entries_iff, mem_entries_iff, h]
  exact eq_of_perm hperm

end Environment

theorem eq_of_none_iff {α : Type} {o o' : Option α} (hnone : o = none ↔ o' = none)
    (hsome : ∀ a a', o = some a → o' = some a' → a = a') : o = o' := by
  cases o with
  | none => exact (hnone.1 rfl).symm
  | some a =>
      cases o' with
      | none => exact hnone.2 rfl
      | some a' => exact congrArg some (hsome a a' rfl rfl)

namespace Configuration

inductive Field
  | volumeSize
  | volumeKey
  | maxRuntime
  | baseJobName
  | envVariable (name : String)
  | tag
  | network
  | entrypoint
  | arguments
  deriving DecidableEq

abbrev Field.Value : Field → Type
  | .volumeSize => UInt32
  | .volumeKey => String
  | .maxRuntime => UInt64
  | .baseJobName => String
  | .envVariable _ => String
  | .tag => Tag
  | .network => Network
  | .entrypoint => List String
  | .arguments => List String

abbrev Step : Type := Sigma Field.Value

def apply (c : Configuration) : Step → Configuration
  | ⟨.volumeSize, gigabytes⟩ => c.withVolumeSize gigabytes
  | ⟨.volumeKey, key⟩ => c.withVolumeKey key
  | ⟨.maxRuntime, seconds⟩ => c.withMaxRuntime seconds
  | ⟨.baseJobName, base⟩ => c.withBaseJobName base
  | ⟨.envVariable name, value⟩ => c.withVariable name value
  | ⟨.tag, t⟩ => c.withTag t.key t.value
  | ⟨.network, n⟩ => c.withNetwork n
  | ⟨.entrypoint, words⟩ => c.withEntrypoint words
  | ⟨.arguments, words⟩ => c.withArguments words

/-- What becomes of a configuration by a run of steps. -/
def after (c : Configuration) (steps : List Step) : Configuration := steps.foldl apply c

def valueOf? (c : Configuration) (name : String) : Option String := c.environment.bind (·.get? name)

/-- What a configuration `c` is after steps. -/
structure Outcome (c : Configuration) (steps : List Step) (c' : Configuration) : Prop where
  role : c'.role = c.role
  image : c'.image = c.image
  instanceType : c'.instanceType = c.instanceType
  instanceCount : c'.instanceCount = c.instanceCount
  volumeSize : c'.volumeSize = (last? steps .volumeSize).getD c.volumeSize
  volumeKey : c'.volumeKey = (last? steps .volumeKey).or c.volumeKey
  maxRuntime : c'.maxRuntime = (last? steps .maxRuntime).getD c.maxRuntime
  baseJobName : c'.baseJobName = (last? steps .baseJobName).or c.baseJobName
  network : c'.network = (last? steps .network).or c.network
  entrypoint : c'.entrypoint = (last? steps .entrypoint).or c.entrypoint
  arguments : c'.arguments = (last? steps .arguments).or c.arguments
  values : ∀ name, c'.valueOf? name = (last? steps (.envVariable name)).or (c.valueOf? name)
  environment : c'.environment = none ↔
    c.environment = none ∧ ∀ name, steps.lookupAll (.envVariable name) = []
  tags : c'.tags.getD [] = c.tags.getD [] ++ steps.lookupAll .tag
  untagged : c'.tags = none ↔ c.tags = none ∧ steps.lookupAll .tag = []

variable {c c' c'' : Configuration} {steps steps' : List Step}

theorem Outcome.refl (c : Configuration) : c.Outcome [] c where
  role := rfl
  image := rfl
  instanceType := rfl
  instanceCount := rfl
  volumeSize := rfl
  volumeKey := rfl
  maxRuntime := rfl
  baseJobName := rfl
  network := rfl
  entrypoint := rfl
  arguments := rfl
  values _ := rfl
  environment := by simp
  tags := (List.append_nil _).symm
  untagged := by simp

theorem Outcome.trans (h : c.Outcome steps c') (h' : c'.Outcome steps' c'') :
    c.Outcome (steps ++ steps') c'' where
  role := h'.role.trans h.role
  image := h'.image.trans h.image
  instanceType := h'.instanceType.trans h.instanceType
  instanceCount := h'.instanceCount.trans h.instanceCount
  volumeSize := by rw [h'.volumeSize, h.volumeSize, last?_append, Option.getD_or]
  volumeKey := by rw [h'.volumeKey, h.volumeKey, last?_append, Option.or_assoc]
  maxRuntime := by rw [h'.maxRuntime, h.maxRuntime, last?_append, Option.getD_or]
  baseJobName := by rw [h'.baseJobName, h.baseJobName, last?_append, Option.or_assoc]
  network := by rw [h'.network, h.network, last?_append, Option.or_assoc]
  entrypoint := by rw [h'.entrypoint, h.entrypoint, last?_append, Option.or_assoc]
  arguments := by rw [h'.arguments, h.arguments, last?_append, Option.or_assoc]
  values name := by rw [h'.values, h.values, last?_append, Option.or_assoc]
  environment := by
    simp only [h'.environment, h.environment, lookupAll_append, List.append_eq_nil_iff, forall_and, and_assoc]
  tags := by rw [h'.tags, h.tags, lookupAll_append, List.append_assoc]
  untagged := by rw [h'.untagged, h.untagged, lookupAll_append, List.append_eq_nil_iff, and_assoc]

theorem valueOf?_withVariable (name other value : String) : (c.withVariable other value).valueOf? name =
    if name = other then some value else c.valueOf? name := by
  change ((c.environment.getD .empty).insert other value).get? name = _
  rw [Environment.get?_insert, valueOf?]
  cases c.environment <;> rfl

theorem apply_outcome (c : Configuration) (a : Step) : c.Outcome [a] (c.apply a) := by
  obtain ⟨f, v⟩ := a
  cases f with
  | envVariable name =>
      refine ⟨rfl, rfl, rfl, rfl, rfl, rfl, rfl, rfl, rfl, rfl, rfl, fun name' => ?_, ?_, ?_, ?_⟩
      · change (c.withVariable name v).valueOf? name' = _
        rw [valueOf?_withVariable, last?]
        by_cases h : name' = name
        · subst h
          rw [if_pos rfl, lookupAll_singleton_self]
          rfl
        · have hne : Field.envVariable name' ≠ Field.envVariable name :=
            fun heq => h (Field.envVariable.inj heq)
          rw [if_neg h, lookupAll_singleton_of_ne hne]
          rfl
      · refine iff_of_false nofun fun h => ?_
        have hnone := h.2 name
        rw [lookupAll_singleton_self] at hnone
        cases hnone
      · exact (List.append_nil _).symm
      · exact (and_iff_left rfl).symm
  | tag =>
      refine ⟨rfl, rfl, rfl, rfl, rfl, rfl, rfl, rfl, rfl, rfl, rfl, fun _ => rfl, ?_, rfl, ?_⟩
      · exact (and_iff_left fun _ => rfl).symm
      · exact iff_of_false nofun fun h => nomatch h.2
  | _ =>
      refine ⟨rfl, rfl, rfl, rfl, rfl, rfl, rfl, rfl, rfl, rfl, rfl, fun _ => rfl, ?_, ?_, ?_⟩
      · exact (and_iff_left fun _ => rfl).symm
      · exact (List.append_nil _).symm
      · exact (and_iff_left rfl).symm

theorem after_outcome (c : Configuration) (steps : List Step) : c.Outcome steps (c.after steps) := by
  induction steps generalizing c with
  | nil => exact .refl c
  | cons a steps ih => exact (apply_outcome c a).trans (ih (c.apply a))

theorem Outcome.environment_eq (h : c.Outcome steps c') (h' : c.Outcome steps' c'')
    (hsteps : ∀ f, steps.lookupAll f = steps'.lookupAll f) : c'.environment = c''.environment := by
  refine eq_of_none_iff ?_ fun e e' he he' => Environment.ext_get? fun name => ?_
  · simp only [h.environment, h'.environment, hsteps]
  · have hvalue : c'.valueOf? name = c''.valueOf? name := by
      rw [h.values, h'.values, last?, last?, hsteps]
    rwa [valueOf?, valueOf?, he, he'] at hvalue

theorem Outcome.tags_eq (h : c.Outcome steps c') (h' : c.Outcome steps' c'')
    (hsteps : ∀ f, steps.lookupAll f = steps'.lookupAll f) : c'.tags = c''.tags := by
  refine eq_of_none_iff ?_ fun ts ts' ht ht' => ?_
  · rw [h.untagged, h'.untagged, hsteps]
  · have hadded : c'.tags.getD [] = c''.tags.getD [] := by rw [h.tags, h'.tags, hsteps]
    rwa [ht, ht'] at hadded

/-- The values that steps give to each field, in their order, decide on the outcome. -/
theorem Outcome.unique (h : c.Outcome steps c') (h' : c.Outcome steps' c'')
    (hsteps : ∀ f, steps.lookupAll f = steps'.lookupAll f) : c' = c'' := by
  have hlast (f : Field) : last? steps f = last? steps' f := congrArg List.getLast? (hsteps f)
  have henvironment := h.environment_eq h' hsteps
  have htags := h.tags_eq h' hsteps
  cases c'
  cases c''
  cases henvironment
  cases htags
  rw [Configuration.mk.injEq]
  refine ⟨h.role.trans h'.role.symm, h.image.trans h'.image.symm, h.instanceType.trans h'.instanceType.symm,
    h.instanceCount.trans h'.instanceCount.symm, ?_, ?_, ?_, ?_, rfl, rfl, ?_, ?_, ?_⟩
  · exact h.volumeSize.trans (hlast _ ▸ h'.volumeSize.symm)
  · exact h.volumeKey.trans (hlast _ ▸ h'.volumeKey.symm)
  · exact h.maxRuntime.trans (hlast _ ▸ h'.maxRuntime.symm)
  · exact h.baseJobName.trans (hlast _ ▸ h'.baseJobName.symm)
  · exact h.network.trans (hlast _ ▸ h'.network.symm)
  · exact h.entrypoint.trans (hlast _ ▸ h'.entrypoint.symm)
  · exact h.arguments.trans (hlast _ ▸ h'.arguments.symm)

theorem after_swap {a b : Step} (h : a.1 ≠ b.1) (c : Configuration) (before after : List Step) :
    c.after (before ++ a :: b :: after) = c.after (before ++ b :: a :: after) :=
  (c.after_outcome _).unique (c.after_outcome _) (lookupAll_swap h before after)

end Configuration

namespace InputDescriptor

inductive Field
  | name
  | dataType
  | inputMode
  | downloadMode
  | distribution
  | compression
  deriving DecidableEq

abbrev Field.Value : Field → Type
  | .name => String
  | .dataType => DataType
  | .inputMode => InputMode
  | .downloadMode => DownloadMode
  | .distribution => Distribution
  | .compression => Compression

abbrev Step : Type := Sigma Field.Value

def apply (d : InputDescriptor) : Step → InputDescriptor
  | ⟨.name, name⟩ => d.withName name
  | ⟨.dataType, t⟩ => d.withDataType t
  | ⟨.inputMode, m⟩ => d.withInputMode m
  | ⟨.downloadMode, m⟩ => d.withDownloadMode m
  | ⟨.distribution, s⟩ => d.withDistribution s
  | ⟨.compression, c⟩ => d.withCompression c

def after (d : InputDescriptor) (steps : List Step) : InputDescriptor := steps.foldl apply d

def settled (d : InputDescriptor) (value? : (f : Field) → Option f.Value) : InputDescriptor :=
  { d with
    name := (value? .name).or d.name
    dataType := (value? .dataType).getD d.dataType
    inputMode := (value? .inputMode).getD d.inputMode
    downloadMode := (value? .downloadMode).getD d.downloadMode
    distribution := (value? .distribution).getD d.distribution
    compression := (value? .compression).or d.compression }

theorem apply_eq_settled (d : InputDescriptor) (a : Step) : d.apply a = d.settled (last? [a]) := by
  obtain ⟨f, v⟩ := a
  cases f <;> rfl

theorem settled_settled (d : InputDescriptor) (value? value?' : (f : Field) → Option f.Value) :
    (d.settled value?).settled value?' = d.settled fun f => (value?' f).or (value? f) := by
  simp only [settled, Option.or_assoc, Option.getD_or]

theorem after_eq_settled (d : InputDescriptor) (steps : List Step) :
    d.after steps = d.settled (last? steps) := by
  induction steps generalizing d with
  | nil => rfl
  | cons a steps ih =>
      have hlast : last? (a :: steps) = fun f => (last? steps f).or (last? [a] f) :=
        funext (last?_append [a] steps)
      rw [hlast, ← settled_settled, ← apply_eq_settled]
      exact ih (d.apply a)

/-- Compressed data that would not be streamed in the end is refused, under the last name, or else the
source. -/
theorem after_fragment_error_iff (d : InputDescriptor) (steps : List Step) (e : ValidationError) :
    (d.after steps).fragment = .error e ↔
      (last? steps .compression).or d.compression = some .gzip ∧
      (last? steps .inputMode).getD d.inputMode ≠ .pipe ∧
      e = .compressedNotStreamed (((last? steps .name).or d.name).getD d.source)
        ((last? steps .inputMode).getD d.inputMode) := by
  rw [after_eq_settled, fragment_error_iff]
  exact ⟨fun h => ⟨h.compressed, h.notStreamed, h.named⟩, fun ⟨hc, hm, he⟩ => ⟨hc, hm, he⟩⟩

end InputDescriptor

/-- After any steps a configuration has the last value given to each of its fields and variables, and all the
tags in their order; what was given nothing is as it was. So neighbouring steps for different fields, or
different variables, can be exchanged. What an input becomes in a payload depends on its last values alone: it
is refused exactly if the last compression is gzip and the last mode does not stream, whatever it went
through before. -/
theorem last_steps_count :
    (∀ (c : Configuration) (steps : List Configuration.Step), c.Outcome steps (c.after steps)) ∧
    (∀ (c : Configuration) (before after : List Configuration.Step) (a b : Configuration.Step),
      a.1 ≠ b.1 → c.after (before ++ a :: b :: after) = c.after (before ++ b :: a :: after)) ∧
    (∀ (d : InputDescriptor) (steps : List InputDescriptor.Step) (e : ValidationError),
      (d.after steps).fragment = .error e ↔
        (last? steps .compression).or d.compression = some .gzip ∧
        (last? steps .inputMode).getD d.inputMode ≠ .pipe ∧
        e = .compressedNotStreamed (((last? steps .name).or d.name).getD d.source)
          ((last? steps .inputMode).getD d.inputMode)) ∧
    ∀ (d : InputDescriptor) (steps steps' : List InputDescriptor.Step),
      (∀ f, last? steps f = last? steps' f) → (d.after steps).fragment = (d.after steps').fragment := by
  refine ⟨Configuration.after_outcome, fun c before after a b h => c.after_swap h before after,
    InputDescriptor.after_fragment_error_iff, fun d steps steps' h => ?_⟩
  rw [d.after_eq_settled steps, d.after_eq_settled steps', funext h]

def freshConfiguration : Configuration where
  role := "role"
  image := "image"
  instanceType := "ml.m5.large"
  instanceCount := 1

def training : Configuration.Step := ⟨.envVariable "MODE", "train"⟩

def detailed : Configuration.Step := ⟨.envVariable "LEVEL", "2"⟩

def evaluating : Configuration.Step := ⟨.envVariable "MODE", "eval"⟩

/-- The variables between an earlier and a later value of one of them, and an input that is streamed at once
or only after it was refused. -/
theorem detours_do_not_matter :
    let d : InputDescriptor := { source := "s3://bucket/data", destination := "/opt/data" }
    let steps : List InputDescriptor.Step := [⟨.inputMode, .pipe⟩, ⟨.compression, .gzip⟩]
    let detour : List InputDescriptor.Step :=
      [⟨.compression, .gzip⟩, ⟨.inputMode, .file⟩, ⟨.inputMode, .pipe⟩]
    training.1 ≠ detailed.1 ∧
    freshConfiguration.after ([evaluating] ++ training :: detailed :: [evaluating]) =
      freshConfiguration.after ([evaluating] ++ detailed :: training :: [evaluating]) ∧
    (∀ f, last? steps f = last? detour f) ∧ (d.after steps).fragment = (d.after detour).fragment := by
  intro d steps detour
  have hfields : training.1 ≠ detailed.1 := by decide
  have hlast : ∀ f, last? steps f = last? detour f := by
    intro f
    cases f <;> rfl
  obtain ⟨-, hswap, -, hfragment⟩ := last_steps_count
  exact ⟨hfields, hswap _ _ _ _ _ hfields, hlast, hfragment d steps detour hlast⟩

end Dispatch
