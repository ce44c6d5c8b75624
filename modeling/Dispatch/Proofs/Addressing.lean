import Dispatch.Proofs.Endpoints
import Dispatch.Proofs.JobAddress
import Dispatch.Proofs.ObjectAddress

namespace Dispatch.Http

open Text Url

/-- Letters of ASCII, digits and hyphens. -/
def IsPlainWord (s : List Char) : Prop := ∀ c ∈ s, c.isAlphanum = true ∨ c = '-'

instance (s : List Char) : Decidable (IsPlainWord s) :=
  decidable_of_iff (s.all fun c => c.isAlphanum || c == '-') (by simp [IsPlainWord])

namespace IsPlainWord

variable {s : List Char}

theorem forall_mem (h : IsPlainWord s) {P : Char → Prop}
    (hP : ∀ n < 128, ((Char.ofNat n).isAlphanum = true ∨ Char.ofNat n = '-') → P (Char.ofNat n)) :
    ∀ c ∈ s, P c := by
  intro c hc
  have hlt : c.toNat < 128 := by
    rcases h c hc with hword | rfl
    · have hval : c.toNat = c.val.toNat := rfl
      have hranges : ((decide (65 ≤ c.val ∧ c.val ≤ 90) || 97 ≤ c.val && c.val ≤ 122) ||
          48 ≤ c.val && c.val ≤ 57) = true := hword
      simp only [Bool.or_eq_true, Bool.and_eq_true, decide_eq_true_eq, UInt32.le_iff_toNat_le,
        UInt32.reduceToNat] at hranges
      omega
    · decide
  have hn := hP c.toNat hlt
  rw [Char.ofNat_toNat] at hn
  exact hn (h c hc)

theorem not_mem (h : IsPlainWord s) {c : Char} (hc : ¬ (c.isAlphanum = true ∨ c = '-')) : c ∉ s :=
  fun hmem => hc (h c hmem)

theorem encode_eq_self (h : IsPlainWord s) : Percent.encode Percent.escapesPath s = s := by
  have hkept := h.forall_mem (P := fun c => Percent.escapesPath c = false) (by decide)
  induction s with
  | nil => rfl
  | cons c s ih =>
      obtain ⟨hc, hs⟩ := List.forall_mem_cons.1 hkept
      rw [Percent.encode, List.flatMap_cons, ← Percent.encode,
        ih (fun x hx => h x (List.mem_cons_of_mem _ hx)) hs, Percent.encodeChar, hc]
      rfl

theorem isWord (h : IsPlainWord s) : JobRequest.IsWord s where
  tidied := by
    have hvisible : ∀ c ∈ s, isFaint c = false := h.forall_mem (by decide)
    rw [tidy_of_endsVisibly fun c hc => hvisible c (List.mem_of_getLast? hc)]
    exact withoutIgnored_eq_self fun c hc => isIgnored_eq_false (hvisible c hc)
  read := by
    rw [readPieces_of_whole (h.not_mem (by decide)) (h.not_mem (by decide)), h.encode_eq_self]
  undotted := by
    have hbytes := Percent.decode_of_no_percent (h.not_mem (c := '%') (by decide))
    have hdot : '.' ∉ s := h.not_mem (by decide)
    refine ⟨Bool.eq_false_iff.2 fun hd => ?_, Bool.eq_false_iff.2 fun hs => ?_⟩
    · rw [decode_of_isDoubleDot hd] at hbytes
      rw [← Utf8.encode_injective hbytes] at hdot
      simp at hdot
    · rw [decode_of_isSingleDot hs] at hbytes
      rw [← Utf8.encode_injective hbytes] at hdot
      simp at hdot
  unescaped := h.not_mem (by decide)
  uncut := ⟨h.not_mem (by decide), h.not_mem (by decide)⟩

end IsPlainWord

section Words

variable {w : List Char} {ws : List (List Char)}

theorem tidy_words (h : ∀ x ∈ w :: ws, JobRequest.IsWord x) :
    tidy (w ++ (Path.segments ws).write) = w ++ (Path.segments ws).write := by
  induction ws generalizing w with
  | nil =>
      rw [Path.write, List.flatMap_nil, List.append_nil]
      exact (h w List.mem_cons_self).tidied
  | cons x ws ih =>
      obtain ⟨hw, hws⟩ := List.forall_mem_cons.1 h
      have hkept : withoutIgnored w = w := by
        apply withoutIgnored_eq_self
        intro c hc
        rw [← hw.tidied] at hc
        exact not_isIgnored_of_mem_tidy hc
      have hrest : tidy (x ++ ws.flatMap ('/' :: ·)) = x ++ ws.flatMap ('/' :: ·) := ih hws
      rw [Path.write_cons, tidy_append, hkept, hrest]

theorem readPieces_words (h : ∀ x ∈ w :: ws, JobRequest.IsWord x) :
    readPieces (w ++ (Path.segments ws).write) = w :: ws := by
  induction ws generalizing w with
  | nil =>
      rw [Path.write, List.flatMap_nil, List.append_nil]
      exact (h w List.mem_cons_self).read
  | cons x ws ih =>
      obtain ⟨hw, hws⟩ := List.forall_mem_cons.1 h
      have hrest : readPieces (x ++ ws.flatMap ('/' :: ·)) = x :: ws := ih hws
      rw [Path.write_cons, readPieces_append, hw.read, hrest]
      rfl

theorem not_mem_words {c : Char} (hc : c ≠ '/') (h : ∀ x ∈ w :: ws, c ∉ x) :
    c ∉ w ++ (Path.segments ws).write := by
  obtain ⟨hw, hws⟩ := List.forall_mem_cons.1 h
  simp only [Path.write, List.mem_append, List.mem_flatMap, List.mem_cons, not_or, not_exists, not_and]
  exact ⟨hw, fun x hx => ⟨hc, hws x hx⟩⟩

theorem JobRequest.Leads.url_words {c : Client} {b : Url} {dir : List (List Char)}
    (hl : JobRequest.Leads c b dir) (h : ∀ x ∈ w :: ws, JobRequest.IsWord x) :
    ∃ u, c.url (Path.segments (w :: ws)).write = .ok u ∧ u.scheme = b.scheme ∧
      u.path = .segments (dir ++ w :: ws) := by
  have hcut : cutTail (w ++ (Path.segments ws).write) = (w ++ (Path.segments ws).write, none, none) :=
    cutTail_eq_self (not_mem_words (by decide) fun x hx => (h x hx).uncut.1)
      (not_mem_words (by decide) fun x hx => (h x hx).uncut.2)
  have hdots := resolveDots_of_plain (fun x hx => (h x hx).undotted) dir
  have hurl := hl (w ++ (Path.segments ws).write)
  refine ⟨_, hurl, rfl, ?_⟩
  rw [complete_path, tidy_words h, hcut, readPieces_words h, hdots]

end Words

inductive ClientRequest
  | create (r : Request)
  | bucket
  | about (k : JobRequest) (job : String)

namespace ClientRequest

def words : ClientRequest → List (List Char)
  | create _ => [JobRequest.jobsSegment]
  | bucket => ["storage".toList, "default-bucket".toList]
  | about k job => JobRequest.jobsSegment :: job.toList :: k.trail

def path (k : ClientRequest) : List Char := (Path.segments k.words).write

def message (u : Url) : ClientRequest → Message
  | create r => { method := .post, url := u, contentType := some "application/json",
                  body := Utf8.encode r.toJson.print }
  | bucket => { method := .get, url := u }
  | about k _ => k.message u

section Requests

variable {τ : Type} (t : Transport τ) {c : Client} {k : ClientRequest} {u : Url}

def perform (c : Client) : ClientRequest → StateM (Link τ) Unit
  | create r => discard (c.create t r).run
  | bucket => discard (c.defaultBucket t).run
  | about k job => k.perform t c job

theorem perform_sends (h : c.url k.path = .ok u) (l : Link τ) :
    (k.perform t c l).2 = (send t (k.message u) l).2 := by
  cases k with
  | create r =>
      have hpath : (create r).path = Client.jobsPath := by
        change (Path.segments [JobRequest.jobsSegment]).write = _
        decide
      rw [hpath] at h
      change (c.create t r l).2 = _
      rw [Client.create, JobRequest.request_eq_send t h]
      exact JobRequest.link_of_bind _ (fun _ _ => rfl) l
  | bucket =>
      have hpath : bucket.path = "/storage/default-bucket".toList := by decide
      rw [hpath] at h
      change (c.defaultBucket t l).2 = _
      rw [Client.defaultBucket, JobRequest.request_eq_send t h]
      exact JobRequest.link_of_bind _ (fun _ _ => rfl) l
  | about k job =>
      have hpath : (about k job).path = k.path job := by
        have hjobs : Client.jobsPath = '/' :: JobRequest.jobsSegment := by decide
        rw [JobRequest.path, Client.jobPath, hjobs]
        simp [path, words, Path.write, JobRequest.trailText]
      rw [hpath] at h
      exact JobRequest.perform_sends t h l

theorem message_url (u : Url) (k : ClientRequest) :
    (k.message u).url = { u with query := (k.message u).url.query } := by
  match k with
  | create _ | bucket | about .describe _ | about .stop _ | about (.logs none) _
  | about (.logs (some _)) _ => rfl

end Requests

/-- If the request is about a job, its name is a word. -/
def IsPlain : ClientRequest → Prop
  | about _ job => IsPlainWord job.toList
  | _ => True

instance : (k : ClientRequest) → Decidable k.IsPlain
  | about _ job => inferInstanceAs (Decidable (IsPlainWord job.toList))
  | create _ | bucket => isTrue trivial

/-- The request is sent, and its path ends as it is meant to. -/
def IsAddressed (c : Client) (k : ClientRequest) : Prop :=
  ∃ u, c.url k.path = .ok u ∧ (k.message u).url.isWeb = true ∧
    k.path <:+ (k.message u).url.path.write ∧
    ∀ {τ : Type} (t : Transport τ) (l : Link τ), (k.perform t c l).2 = (send t (k.message u) l).2

variable {c : Client} {k : ClientRequest}

theorem IsPlain.words (h : k.IsPlain) : ∀ x ∈ k.words, JobRequest.IsWord x := by
  cases k with
  | create r => exact List.forall_mem_singleton.2 JobRequest.isWord_jobsSegment
  | bucket =>
      have hstorage : IsPlainWord "storage".toList := by decide
      have hbucket : IsPlainWord "default-bucket".toList := by decide
      exact List.forall_mem_cons.2 ⟨hstorage.isWord, List.forall_mem_singleton.2 hbucket.isWord⟩
  | about k job =>
      have hname : IsPlainWord job.toList := h
      refine List.forall_mem_cons.2 ⟨JobRequest.isWord_jobsSegment, List.forall_mem_cons.2 ⟨hname.isWord, ?_⟩⟩
      intro x hx
      rcases k.trail_cases with ⟨htrail, -⟩ | ⟨s, hs, htrail, -⟩
      · rw [htrail] at hx
        cases hx
      · rw [htrail] at hx
        rwa [List.mem_singleton.1 hx]

theorem words_ne_nil (k : ClientRequest) : k.words ≠ [] := by
  cases k <;> exact List.cons_ne_nil _ _

/-- Behind a place on the web all requests are addressed. -/
theorem IsPlain.isAddressed {b : Url} {dir : List (List Char)} (h : k.IsPlain) (hb : IsWebScheme b.scheme)
    (hl : JobRequest.Leads c b dir) : k.IsAddressed c := by
  obtain ⟨w, ws, hwords⟩ := List.exists_cons_of_ne_nil k.words_ne_nil
  have hplain := h.words
  rw [hwords] at hplain
  obtain ⟨u, hu, hscheme, hpath⟩ := hl.url_words hplain
  rw [← hwords] at hu hpath
  refine ⟨u, hu, ?_, ?_, fun t l => perform_sends t hu l⟩
  · rw [isWeb_iff, message_url, hscheme]
    exact hb
  · rw [message_url, hpath, Path.write_append]
    exact List.suffix_append _ _

end ClientRequest

section Endpoint

variable {c : Client}

theorem leads_of_hosted {scheme left : List Char} {host : Option Host} {port : Option Nat}
    (hq : '?' ∉ left) (hf : '#' ∉ left) (h : ∀ v, Url.parse (c.base ++ '/' :: v) =
      .ok (complete scheme host port (readPath true) (left ++ '/' :: tidy v))) :
    ∃ dir, JobRequest.Leads c { scheme, host, port, path := .segments [] } dir := by
  obtain ⟨dir, -, hgo⟩ := readPath_append left
  refine ⟨dir, fun v => ?_⟩
  rw [h]
  simp only [complete, cutTail_append_slash hq hf, hgo]

theorem place_iff_of_hosted {scheme left : List Char} {host : Option Host} {port : Option Nat}
    (h : ∀ v, Url.parse (c.base ++ '/' :: v) =
      .ok (complete scheme host port (readPath true) (left ++ '/' :: tidy v))) :
    (∃ b, Url.parse (c.base ++ ['/']) = .ok b ∧ b.query = none ∧ b.fragment = none) ↔
      '?' ∉ left ∧ '#' ∉ left := by
  have hslash := h []
  constructor
  · rintro ⟨b, hb, hquery, hfragment⟩
    cases hslash.symm.trans hb
    obtain ⟨hq, hf⟩ := cutTail_whole (Option.map_eq_none_iff.1 hquery) (Option.map_eq_none_iff.1 hfragment)
    exact ⟨fun hmem => hq (List.mem_append_left _ hmem), fun hmem => hf (List.mem_append_left _ hmem)⟩
  · rintro ⟨hq, hf⟩
    have hcut := cutTail_append_slash hq hf (tidy [])
    refine ⟨_, hslash, ?_, ?_⟩
    · simp only [complete, hcut]
      rfl
    · simp only [complete, hcut]
      rfl

/-- Behind a question mark or a hash two jobs would have to share their paths. -/
theorem not_all_addressed {scheme left : List Char} {host : Option Host} {port : Option Nat}
    (hcut : '?' ∈ left ∨ '#' ∈ left) (h : ∀ v, Url.parse (c.base ++ '/' :: v) =
      .ok (complete scheme host port (readPath true) (left ++ '/' :: tidy v))) :
    ¬ ∀ k : ClientRequest, k.IsPlain → k.IsAddressed c := by
  intro hall
  have hends (job : String) (hjob : IsPlainWord job.toList) :
      (ClientRequest.about .describe job).path <:+ (readPath true (cutTail left).1).write := by
    obtain ⟨u, hu, -, hpath, -⟩ := hall (.about .describe job) hjob
    have hurl := h (JobRequest.jobsSegment ++ '/' :: job.toList)
    have htext : (ClientRequest.about .describe job).path =
        '/' :: (JobRequest.jobsSegment ++ '/' :: job.toList) := by
      simp [ClientRequest.path, ClientRequest.words, Path.write, JobRequest.trail]
    rw [Client.url, htext, hurl] at hu
    rw [ClientRequest.message_url, ← Except.ok.inj hu, complete_path, cutTail_append_path hcut] at hpath
    exact hpath
  -- both texts are as long, and both end the one path there is
  have hsame := List.suffix_of_suffix_length_le (hends "a" (by decide)) (hends "b" (by decide)) (by decide)
  exact absurd hsame (by decide)

theorem not_addressed_of_unhosted {scheme : List Char} (hscheme : IsWebScheme scheme)
    (h : ∀ v, Url.parse (c.base ++ '/' :: v) = readHosted scheme ((tidy v).dropWhile (isSlash true))) :
    ¬ (ClientRequest.about .describe "a").IsAddressed c := by
  rintro ⟨u, hu, -, hpath, -⟩
  have hurl : Url.parse (c.base ++ (ClientRequest.about .describe "a").path) = _ :=
    h (JobRequest.jobsSegment ++ ['/', 'a'])
  rw [Client.url, hurl] at hu
  rw [ClientRequest.message_url] at hpath
  rcases hscheme with rfl | rfl
  · cases hu
    revert hpath
    decide
  · cases hu
    revert hpath
    decide

theorem all_addressed_iff (h : Behind c.base) : (∀ k : ClientRequest, k.IsPlain → k.IsAddressed c) ↔
    ∃ b, Url.parse (c.base ++ ['/']) = .ok b ∧ b.query = none ∧ b.fragment = none := by
  cases h with
  | unhosted hscheme h =>
      refine iff_of_false (fun hall => ?_) ?_
      · exact not_addressed_of_unhosted hscheme h (hall (.about .describe "a") (by decide))
      · rintro ⟨b, hb, -⟩
        exact readHosted_nil hscheme.special b ((h []).symm.trans hb)
  | unreadable e h =>
      refine iff_of_false (fun hall => ?_) ?_
      · obtain ⟨u, hu, -⟩ := hall .bucket trivial
        cases (h _).symm.trans hu
      · rintro ⟨b, hb, -⟩
        cases (h []).symm.trans hb
  | hosted hscheme host port left h =>
      rw [place_iff_of_hosted h]
      by_cases hplace : '?' ∉ left ∧ '#' ∉ left
      · obtain ⟨dir, hl⟩ := leads_of_hosted hplace.1 hplace.2 h
        exact iff_of_true (fun k hk => hk.isAddressed hscheme hl) hplace
      · refine iff_of_false (not_all_addressed ?_ h) hplace
        exact (Decidable.not_and_iff_or_not.1 hplace).imp Decidable.of_not_not Decidable.of_not_not

theorem objectUrl_eq_ok_iff {endpoint : String} (h : Settings.isWebAddress endpoint = true)
    (bucket key : String) : (∃ u, (ObjectStore.ofEndpoint endpoint).objectUrl bucket key = .ok u) ↔
      ∃ b, Url.parse (trimEnd '/' endpoint.toList) = .ok b := by
  constructor
  · rintro ⟨u, hu⟩
    rw [ObjectStore.objectUrl] at hu
    split at hu
    · cases hu
    · next b hb => exact ⟨b, hb⟩
  · rintro ⟨b, hb⟩
    obtain ⟨scheme, rest, hscheme, htext⟩ := webAddress_trimEnd h
    have hweb := hscheme.parse_isWeb (htext ▸ hb)
    obtain ⟨ss, hss, -⟩ := parse_slashless hb hweb
    exact ⟨_, ObjectStore.objectUrl_eq hb hweb hss⟩

end Endpoint

/-- With valid settings, requests about plain names are sent and have the paths they are meant to have if the
endpoint, with one slash for those at its end, is a URL without query and fragment, and only then; and objects
have URLs if the endpoint of the store is one without the slashes at its end, and only then. -/
theorem requests_go_where_configured {s : Settings} (h : s.validate = .ok ()) :
    ((∀ k : ClientRequest, k.IsPlain → k.IsAddressed (.ofEndpoint s.endpoint)) ↔
      ∃ b, Url.parse (trimEnd '/' s.endpoint.toList ++ ['/']) = .ok b ∧ b.query = none ∧
        b.fragment = none) ∧
    ∀ bucket key, (∃ u, (ObjectStore.ofEndpoint s.storageEndpoint).objectUrl bucket key = .ok u) ↔
      ∃ b, Url.parse (trimEnd '/' s.storageEndpoint.toList) = .ok b := by
  obtain ⟨hservice, hstore, -⟩ := Settings.validate_eq_ok_iff.1 h
  exact ⟨all_addressed_iff (webAddress_behind hservice), objectUrl_eq_ok_iff hstore⟩

def below : Settings where
  endpoint := "http://svc.test/team//"
  storageEndpoint := "https://store.test/shelf?sig=1/"

theorem requests_go_below : below.validate = .ok () ∧
    (ClientRequest.about (.logs (some "a&b")) "job-1").IsAddressed (.ofEndpoint below.endpoint) ∧
    ∃ u, (ObjectStore.ofEndpoint below.storageEndpoint).objectUrl "bucket" "key" = .ok u := by
  have hvalid : below.validate = .ok () := rfl
  obtain ⟨hrequests, hobjects⟩ := requests_go_where_configured hvalid
  exact ⟨hvalid, hrequests.2 ⟨_, rfl, rfl, rfl⟩ _ (by decide), (hobjects "bucket" "key").2 ⟨_, rfl⟩⟩

def astray : Settings where
  endpoint := "http://svc.test?team=a"
  storageEndpoint := "http://svc.test:port"

def astrayUrl : Url where
  scheme := "http".toList
  host := some (.name "svc.test".toList)
  path := .segments [[]]
  query := some "team=a/processing-jobs/job/stop".toList

/-- Settings can be valid although a request misses its path and an object has no URL. -/
theorem valid_settings_lead_astray : astray.validate = .ok () ∧ (ClientRequest.about .stop "job").IsPlain ∧
    ¬ (ClientRequest.about .stop "job").IsAddressed (.ofEndpoint astray.endpoint) ∧
    (ObjectStore.ofEndpoint astray.storageEndpoint).objectUrl "bucket" "key" =
      .error (.invalidRequest (.badEndpoint "http://svc.test:port" .invalidPort)) := by
  refine ⟨rfl, by decide, ?_, rfl⟩
  rintro ⟨u, hu, -, hpath, -⟩
  have hurl : (Client.ofEndpoint astray.endpoint).url (ClientRequest.about .stop "job").path =
      .ok astrayUrl := rfl
  cases hurl.symm.trans hu
  revert hpath
  decide

end Dispatch.Http
