import Mathlib.Data.Nat.Digits.Defs
import Dispatch.Proofs.Endpoints

namespace Dispatch

section Conditions

variable {ε α β : Type} {t u : List (Prop × ε)} {e : ε}

/-- `e` is what a table of conditions has beside the first one that holds. -/
inductive Reported : List (Prop × ε) → ε → Prop
  | here {p : Prop} {e : ε} {t : List (Prop × ε)} (h : p) : Reported ((p, e) :: t) e
  | later {p : Prop} {e e' : ε} {t : List (Prop × ε)} (hp : ¬ p) (h : Reported t e) :
      Reported ((p, e') :: t) e

theorem reported_cons {p : Prop} {e' : ε} :
    Reported ((p, e') :: t) e ↔ p ∧ e' = e ∨ ¬ p ∧ Reported t e := by
  constructor
  · rintro (h | ⟨hp, h⟩)
    · exact .inl ⟨h, rfl⟩
    · exact .inr ⟨hp, h⟩
  · rintro (⟨h, rfl⟩ | ⟨hp, h⟩)
    · exact .here h
    · exact .later hp h

theorem not_reported_iff : (∀ e, ¬ Reported t e) ↔ ∀ q ∈ t, ¬ q.1 := by
  induction t with
  | nil => exact iff_of_true nofun nofun
  | cons q t ih =>
      rw [List.forall_mem_cons, ← ih]
      constructor
      · intro h
        have hq : ¬ q.1 := fun hq => h q.2 (.here hq)
        exact ⟨hq, fun e he => h e (.later hq he)⟩
      · rintro ⟨hq, h⟩ e (hq' | ⟨-, he⟩)
        · exact hq hq'
        · exact h e he

theorem reported_append : Reported (t ++ u) e ↔ Reported t e ∨ (∀ q ∈ t, ¬ q.1) ∧ Reported u e := by
  induction t with
  | nil => simp [show ¬ Reported [] e from nofun]
  | cons q t ih =>
      rw [List.cons_append, reported_cons, reported_cons, ih, List.forall_mem_cons]
      tauto

/-- A computation that fails where a condition of the table holds, with what stands beside the first one. -/
def Screens (t : List (Prop × ε)) (x : Except ε α) : Prop := ∀ e, x = .error e ↔ Reported t e

theorem Screens.succeeds_iff {x : Except ε α} (h : Screens t x) : (∃ a, x = .ok a) ↔ ∀ q ∈ t, ¬ q.1 := by
  rw [← not_reported_iff]
  cases x with
  | ok a => exact iff_of_true ⟨a, rfl⟩ fun e he => nomatch (h e).2 he
  | error e => exact iff_of_false nofun fun hnone => hnone e ((h e).1 rfl)

theorem screens_ok (a : α) : Screens ([] : List (Prop × ε)) (.ok a) := fun _ => iff_of_false nofun nofun

theorem Screens.check {p q : Prop} [Decidable q] {x : Except ε α} (hx : Screens t x) (hpq : p ↔ q) (e : ε) :
    Screens ((p, e) :: t) (if q then .error e else x) := by
  intro e'
  rw [reported_cons, ← hx e', hpq]
  by_cases hq : q
  · simp [hq]
  · simp [hq]

theorem Screens.bind {x : Except ε α} {f : α → Except ε β} (hx : Screens t x)
    (hf : ∀ a, x = .ok a → Screens u (f a)) : Screens (t ++ u) (x >>= f) := by
  intro e
  rw [bind_eq_error_iff, hx e, reported_append, ← hx.succeeds_iff]
  refine or_congr_right ?_
  constructor
  · rintro ⟨a, ha, he⟩
    exact ⟨⟨a, ha⟩, (hf a ha e).1 he⟩
  · rintro ⟨⟨a, ha⟩, he⟩
    exact ⟨a, ha, (hf a ha e).2 he⟩

theorem Screens.andReturn {x : Except ε α} (hx : Screens t x) (b : β) :
    Screens t (x >>= fun _ => pure b) := by
  have hreturn := hx.bind fun _ _ => screens_ok (ε := ε) b
  rwa [List.append_nil] at hreturn

end Conditions

/-- A number as it may be written: at least one digit, the highest first, behind a plus sign or none. There
may be zeros in front. -/
structure Numeral where
  signed : Bool
  digits : List (Fin 10)
  nonempty : digits ≠ []

namespace Numeral

def characters (ds : List (Fin 10)) : List Char := ds.map fun d => Nat.digitChar d.val

def text (w : Numeral) : List Char :=
  if w.signed then '+' :: characters w.digits else characters w.digits

def value (w : Numeral) : Nat := Nat.ofDigits 10 (w.digits.map Fin.val).reverse

theorem ofDigitChars_characters (ds : List (Fin 10)) :
    Nat.ofDigitChars 10 (characters ds) 0 = Nat.ofDigits 10 (ds.map Fin.val).reverse := by
  induction ds with
  | nil => rfl
  | cons d ds ih =>
      have hd : (Nat.digitChar d.val).toNat - '0'.toNat = d := by
        rw [Nat.toNat_digitChar_of_lt_ten d.isLt]
        exact Nat.add_sub_cancel_left 48 d
      rw [characters, List.map_cons, Nat.ofDigitChars_cons, Nat.ofDigitChars_eq_ofDigitChars_zero,
        ← characters, ih, hd, List.map_cons, Nat.ofDigits_reverse_cons, characters, List.length_map,
        List.length_map, Nat.mul_zero, Nat.zero_add, Nat.add_comm]

theorem isDigit_iff {c : Char} : c.isDigit = true ↔ ∃ d : Fin 10, c = Nat.digitChar d.val := by
  constructor
  · intro h
    obtain ⟨hlow, hhigh⟩ : 48 ≤ c.toNat ∧ c.toNat ≤ 57 := Char.isDigit_iff_toNat.1 h
    have hlt : c.toNat - 48 < 10 := by omega
    refine ⟨⟨c.toNat - 48, hlt⟩, Char.toNat_inj.1 ?_⟩
    rw [Nat.toNat_digitChar_of_lt_ten hlt]
    omega
  · rintro ⟨d, rfl⟩
    rw [Nat.isDigit_digitChar]
    exact decide_eq_true d.isLt

theorem all_isDigit_iff {s : List Char} : s.all Char.isDigit = true ↔ ∃ ds, s = characters ds := by
  induction s with
  | nil => exact iff_of_true rfl ⟨[], rfl⟩
  | cons c s ih =>
      rw [List.all_cons, Bool.and_eq_true, ih, isDigit_iff]
      constructor
      · rintro ⟨⟨d, rfl⟩, ds, rfl⟩
        exact ⟨d :: ds, rfl⟩
      · rintro ⟨ds, hs⟩
        cases ds with
        | nil => cases hs
        | cons d ds =>
            obtain ⟨rfl, rfl⟩ := List.cons.inj hs
            exact ⟨⟨d, rfl⟩, ds, rfl⟩

theorem characters_ne_plus {ds : List (Fin 10)} {s : List Char} : characters ds ≠ '+' :: s := by
  intro h
  have hall := all_isDigit_iff.2 ⟨ds, rfl⟩
  rw [h, List.all_cons, Bool.and_eq_true] at hall
  exact absurd hall.1 (by decide)

end Numeral

namespace Settings

def readDigits? (cs : List Char) : Option Nat :=
  if cs ≠ [] ∧ cs.all Char.isDigit = true ∧ Nat.ofDigitChars 10 cs 0 < 2 ^ 64 then
    some (Nat.ofDigitChars 10 cs 0)
  else none

theorem readSeconds?_plus {s : String} {rest : List Char} (h : s.toList = '+' :: rest) :
    readSeconds? s = readDigits? rest := by
  rw [readSeconds?, readDigits?, h]
  by_cases hne : rest = [] <;> simp [hne, ite_and]

theorem readSeconds?_plain {s : String} (h : ∀ rest, s.toList ≠ '+' :: rest) :
    readSeconds? s = readDigits? s.toList := by
  rw [readSeconds?, readDigits?]
  split
  · next rest heq => exact absurd heq (h rest)
  · by_cases hne : s.toList = [] <;> simp [hne, ite_and]

theorem readDigits?_eq_some_iff {cs : List Char} {n : Nat} : readDigits? cs = some n ↔
    ∃ ds, ds ≠ [] ∧ cs = Numeral.characters ds ∧ Nat.ofDigits 10 (ds.map Fin.val).reverse = n ∧
      n < 2 ^ 64 := by
  rw [readDigits?, Option.ite_none_right_eq_some, Option.some_inj]
  constructor
  · rintro ⟨⟨hne, hall, hlt⟩, rfl⟩
    obtain ⟨ds, rfl⟩ := Numeral.all_isDigit_iff.1 hall
    refine ⟨ds, mt (congrArg Numeral.characters) hne, rfl, ?_, hlt⟩
    exact (Numeral.ofDigitChars_characters ds).symm
  · rintro ⟨ds, hne, rfl, rfl, hlt⟩
    rw [Numeral.ofDigitChars_characters]
    exact ⟨⟨mt List.map_eq_nil_iff.1 hne, Numeral.all_isDigit_iff.2 ⟨ds, rfl⟩, hlt⟩, rfl⟩

theorem readSeconds?_eq_some_iff {s : String} {n : Nat} : readSeconds? s = some n ↔
    ∃ w : Numeral, s.toList = w.text ∧ w.value = n ∧ n < 2 ^ 64 := by
  constructor
  · intro h
    by_cases hplus : ∃ rest, s.toList = '+' :: rest
    · obtain ⟨rest, hs⟩ := hplus
      rw [readSeconds?_plus hs, readDigits?_eq_some_iff] at h
      obtain ⟨ds, hne, rfl, hvalue⟩ := h
      exact ⟨⟨true, ds, hne⟩, hs, hvalue⟩
    · rw [readSeconds?_plain (not_exists.1 hplus), readDigits?_eq_some_iff] at h
      obtain ⟨ds, hne, hs, hvalue⟩ := h
      exact ⟨⟨false, ds, hne⟩, hs, hvalue⟩
  · rintro ⟨⟨signed, ds, hne⟩, hs, hvalue⟩
    -- digits alone do not start with a plus sign, so the sign tells how the text is read
    cases signed with
    | true =>
        rw [readSeconds?_plus hs, readDigits?_eq_some_iff]
        exact ⟨ds, hne, rfl, hvalue⟩
    | false =>
        have hplain (rest : List Char) : s.toList ≠ '+' :: rest := hs ▸ Numeral.characters_ne_plus
        rw [readSeconds?_plain hplain, readDigits?_eq_some_iff]
        exact ⟨ds, hne, hs, hvalue⟩

theorem readSeconds?_text {s : String} {w : Numeral} (hs : s.toList = w.text) (hfits : w.value < 2 ^ 64) :
    readSeconds? s = some w.value := readSeconds?_eq_some_iff.2 ⟨w, hs, rfl, hfits⟩

theorem readSeconds?_eq_none_iff {s : String} :
    readSeconds? s = none ↔ ∀ w : Numeral, s.toList = w.text → 2 ^ 64 ≤ w.value := by
  simp only [Option.eq_none_iff_forall_ne_some, ne_eq, readSeconds?_eq_some_iff]
  constructor
  · intro h w hs
    exact Nat.not_lt.1 fun hfits => h w.value ⟨w, hs, rfl, hfits⟩
  · rintro h n ⟨w, hs, rfl, hfits⟩
    exact absurd hfits (Nat.not_lt.2 (h w hs))

/-- The duration that a variable gives: as many seconds as its text counts, or the default where it is not
set, is no number, or counts too many. -/
inductive Lasts (default : Duration) : Option String → Duration → Prop
  | counted {s : String} (w : Numeral) (hs : s.toList = w.text) (hfits : w.value < 2 ^ 64) :
      Lasts default (some s) (.ofSeconds w.value)
  | unset : Lasts default none default
  | unread {s : String} (h : ∀ w : Numeral, s.toList = w.text → 2 ^ 64 ≤ w.value) :
      Lasts default (some s) default

def SpellsZero (text : Option String) : Prop :=
  ∃ s, text = some s ∧ ∃ w : Numeral, s.toList = w.text ∧ w.value = 0

section Lasts

variable {default d : Duration} {text : Option String}

theorem Lasts.eq_durationOr (h : Lasts default text d) : d = durationOr default text := by
  cases h with
  | counted w hs hfits =>
      rw [durationOr, Option.bind_some, readSeconds?_text hs hfits]
      rfl
  | unset => rfl
  | unread h =>
      rw [durationOr, Option.bind_some, readSeconds?_eq_none_iff.2 h]
      rfl

theorem lasts_durationOr (default : Duration) (text : Option String) :
    Lasts default text (durationOr default text) := by
  cases text with
  | none => exact .unset
  | some s =>
      rw [durationOr, Option.bind_some]
      cases hn : readSeconds? s with
      | none => exact .unread (readSeconds?_eq_none_iff.1 hn)
      | some n =>
          obtain ⟨w, hs, rfl, hfits⟩ := readSeconds?_eq_some_iff.1 hn
          exact .counted w hs hfits

theorem Lasts.eq_zero_iff (h : Lasts default text d) (hdefault : default.nanos ≠ 0) :
    d.nanos = 0 ↔ SpellsZero text := by
  cases h with
  | counted w hs hfits =>
      have hzero : (Duration.ofSeconds w.value).nanos = 0 ↔ w.value = 0 :=
        Nat.mul_eq_zero.trans (or_iff_left (by decide))
      rw [hzero]
      constructor
      · exact fun hw => ⟨_, rfl, w, hs, hw⟩
      · rintro ⟨s', heq, w', hs', hw'⟩
        cases heq
        have hread := readSeconds?_text hs' (hw' ▸ Nat.two_pow_pos 64)
        rwa [readSeconds?_text hs hfits, hw', Option.some_inj] at hread
  | unset => exact iff_of_false hdefault nofun
  | unread h =>
      refine iff_of_false hdefault ?_
      rintro ⟨s', heq, w, hs, hw⟩
      cases heq
      exact absurd (h w hs) (hw ▸ by decide)

end Lasts

/-- The settings say what the variables say. -/
structure Holds (lookup : String → Option String) (s : Settings) : Prop where
  endpoint : lookup "QUARRY_ENDPOINT" = some s.endpoint
  storageEndpoint : lookup "QUARRY_STORAGE_ENDPOINT" = some s.storageEndpoint
  pollInterval : Lasts (.ofSeconds 5) (lookup "QUARRY_POLL_INTERVAL") s.pollInterval
  requestTimeout : Lasts (.ofSeconds 30) (lookup "QUARRY_REQUEST_TIMEOUT") s.requestTimeout

theorem ofLookup_eq_ok_iff {lookup : String → Option String} {s : Settings} :
    ofLookup lookup = .ok s ↔ Holds lookup s := by
  rw [ofLookup]
  constructor
  · intro h
    split at h
    · cases h
    · cases h
    · next hservice hstore =>
        cases h
        exact ⟨hservice, hstore, lasts_durationOr _ _, lasts_durationOr _ _⟩
  · rintro ⟨hservice, hstore, hpoll, htimeout⟩
    rw [hservice, hstore]
    obtain ⟨endpoint, storageEndpoint, pollInterval, requestTimeout⟩ := s
    obtain rfl := hpoll.eq_durationOr
    obtain rfl := htimeout.eq_durationOr
    rfl

def StartsAsWeb (url : String) : Prop := ∃ rest, url = "http://" ++ rest ∨ url = "https://" ++ rest

theorem isWebAddress_iff_startsAsWeb {url : String} : isWebAddress url = true ↔ StartsAsWeb url := by
  have hstart (start : String) : start.toList <+: url.toList ↔ ∃ rest, url = start ++ rest := by
    constructor
    · rintro ⟨rest, hrest⟩
      refine ⟨String.ofList rest, String.toList_inj.1 ?_⟩
      rw [String.toList_append, String.toList_ofList, hrest]
    · rintro ⟨rest, rfl⟩
      exact ⟨rest.toList, String.toList_append.symm⟩
  rw [isWebAddress_iff, hstart, hstart, ← exists_or, StartsAsWeb]

def load (lookup : String → Option String) : Except SettingsError Settings := do
  let s ← ofLookup lookup
  s.validate
  return s

/-- What can be wrong with the variables, in the order it is looked for, and how it is reported. -/
def complaints (lookup : String → Option String) : List (Prop × SettingsError) := [
  (lookup "QUARRY_ENDPOINT" = none, .unset "QUARRY_ENDPOINT"),
  (lookup "QUARRY_STORAGE_ENDPOINT" = none, .unset "QUARRY_STORAGE_ENDPOINT"),
  (lookup "QUARRY_ENDPOINT" = some "", .empty "endpoint"),
  (∃ url, lookup "QUARRY_ENDPOINT" = some url ∧ ¬ StartsAsWeb url, .wrongScheme "endpoint"),
  (lookup "QUARRY_STORAGE_ENDPOINT" = some "", .empty "storage_endpoint"),
  (∃ url, lookup "QUARRY_STORAGE_ENDPOINT" = some url ∧ ¬ StartsAsWeb url, .wrongScheme "storage_endpoint"),
  (SpellsZero (lookup "QUARRY_POLL_INTERVAL"), .zero "poll_interval"),
  (SpellsZero (lookup "QUARRY_REQUEST_TIMEOUT"), .zero "request_timeout")]

theorem ofLookup_screens (lookup : String → Option String) :
    Screens [(lookup "QUARRY_ENDPOINT" = none, .unset "QUARRY_ENDPOINT"),
      (lookup "QUARRY_STORAGE_ENDPOINT" = none, .unset "QUARRY_STORAGE_ENDPOINT")] (ofLookup lookup) := by
  intro e
  rw [reported_cons, reported_cons, ofLookup]
  cases lookup "QUARRY_ENDPOINT" with
  | none => simp
  | some endpoint => cases lookup "QUARRY_STORAGE_ENDPOINT" <;> simp [show ¬ Reported [] e from nofun]

section Checks

variable {text : Option String}

theorem checkEndpoint_screens {url : String} (h : text = some url) (setting : String) :
    Screens [(text = some "", .empty setting), (∃ u, text = some u ∧ ¬ StartsAsWeb u, .wrongScheme setting)]
      (checkEndpoint setting url) := by
  have hempty : text = some "" ↔ url = "" := by rw [h, Option.some_inj]
  have hscheme : (∃ u, text = some u ∧ ¬ StartsAsWeb u) ↔ ¬ isWebAddress url = true := by
    simp [h, isWebAddress_iff_startsAsWeb]
  rw [checkEndpoint, ← ite_not (p := isWebAddress url = true)]
  exact ((screens_ok ()).check hscheme _).check hempty _

theorem checkPositive_screens {default d : Duration} (h : Lasts default text d)
    (hdefault : default.nanos ≠ 0) (setting : String) :
    Screens [(SpellsZero text, .zero setting)] (checkPositive setting d) :=
  (screens_ok ()).check (h.eq_zero_iff hdefault).symm _

end Checks

theorem load_screens (lookup : String → Option String) : Screens (complaints lookup) (load lookup) := by
  refine (ofLookup_screens lookup).bind fun s hs => Screens.andReturn ?_ s
  -- what is checked of the settings is what the variables say
  have h := ofLookup_eq_ok_iff.1 hs
  refine (checkEndpoint_screens h.endpoint "endpoint").bind fun _ _ => ?_
  refine (checkEndpoint_screens h.storageEndpoint "storage_endpoint").bind fun _ _ => ?_
  refine (checkPositive_screens h.pollInterval (by decide) "poll_interval").bind fun _ _ => ?_
  exact checkPositive_screens h.requestTimeout (by decide) "request_timeout"

/-- Variables that settings can be made of. -/
@[mk_iff]
structure AreUsable (lookup : String → Option String) : Prop where
  endpoint : ∃ url, lookup "QUARRY_ENDPOINT" = some url ∧ StartsAsWeb url
  storageEndpoint : ∃ url, lookup "QUARRY_STORAGE_ENDPOINT" = some url ∧ StartsAsWeb url
  pollInterval : ¬ SpellsZero (lookup "QUARRY_POLL_INTERVAL")
  requestTimeout : ¬ SpellsZero (lookup "QUARRY_REQUEST_TIMEOUT")

theorem not_startsAsWeb_empty : ¬ StartsAsWeb "" := by
  rw [← isWebAddress_iff_startsAsWeb]
  decide

theorem endpoint_usable_iff {text : Option String} : (∃ url, text = some url ∧ StartsAsWeb url) ↔
    text ≠ none ∧ text ≠ some "" ∧ ¬ ∃ url, text = some url ∧ ¬ StartsAsWeb url := by
  cases text with
  | none => simp
  | some url =>
      by_cases hempty : url = ""
      · simp [hempty, not_startsAsWeb_empty]
      · simp [hempty]

theorem areUsable_iff_uncomplained {lookup : String → Option String} :
    AreUsable lookup ↔ ∀ q ∈ complaints lookup, ¬ q.1 := by
  rw [areUsable_iff, endpoint_usable_iff, endpoint_usable_iff]
  simp only [complaints, List.forall_mem_cons, List.not_mem_nil, false_implies, implies_true]
  tauto

theorem load_eq_ok_iff {lookup : String → Option String} {s : Settings} :
    load lookup = .ok s ↔ AreUsable lookup ∧ Holds lookup s := by
  have hread {s : Settings} (h : load lookup = .ok s) : ofLookup lookup = .ok s := by
    obtain ⟨s', hs', h⟩ := bind_eq_ok_iff.1 h
    obtain ⟨-, -, h⟩ := bind_eq_ok_iff.1 h
    rwa [Except.ok.inj h] at hs'
  rw [areUsable_iff_uncomplained, ← (load_screens lookup).succeeds_iff, ← ofLookup_eq_ok_iff]
  constructor
  · exact fun h => ⟨⟨s, h⟩, hread h⟩
  · rintro ⟨⟨s', hs'⟩, hs⟩
    rwa [Except.ok.inj ((hread hs').symm.trans hs)] at hs'

/-- Reading settings and checking them succeeds exactly if both endpoints are set and start as web addresses
do and neither interval spells zero. Each interval is what its own variable counts, or its default. What is
reported otherwise is the first condition that is violated, and its message tells which one that was. -/
theorem settings_load_or_report (lookup : String → Option String) :
    (∀ s, ofLookup lookup = .ok s ↔ Holds lookup s) ∧
    ((∃ s, load lookup = .ok s) ↔ AreUsable lookup) ∧
    (∀ s, load lookup = .ok s ↔ AreUsable lookup ∧ Holds lookup s) ∧
    (∀ e, load lookup = .error e ↔ Reported (complaints lookup) e) ∧
    ((complaints lookup).map fun q => q.2.message).Nodup := by
  refine ⟨fun s => ofLookup_eq_ok_iff, ?_, fun s => load_eq_ok_iff, load_screens lookup, ?_⟩
  · rw [areUsable_iff_uncomplained, (load_screens lookup).succeeds_iff]
  · simp [complaints, SettingsError.message]

example : load (fun
    | "QUARRY_ENDPOINT" => some "http://svc.test"
    | "QUARRY_STORAGE_ENDPOINT" => some "ftp://store.test"
    | "QUARRY_POLL_INTERVAL" => some "+00"
    | _ => none) = .error (.wrongScheme "storage_endpoint") := by decide

end Settings

end Dispatch
