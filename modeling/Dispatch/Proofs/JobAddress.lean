import Dispatch.Http.Client
import Dispatch.Proofs.Address
import Dispatch.Proofs.Escapes

namespace Dispatch.Http

open Text Url

inductive JobRequest
  | describe
  | stop
  | logs (token : Option String)

namespace JobRequest

section Requests

variable {τ : Type} (t : Transport τ) (c : Client) (job : String)

/-- What follows the name of the job in the path. -/
def trail : JobRequest → List (List Char)
  | describe => []
  | stop => ["stop".toList]
  | logs _ => ["logs".toList]

def trailText (k : JobRequest) : List Char := k.trail.flatMap ('/' :: ·)

def path (k : JobRequest) : List Char := Client.jobPath job ++ k.trailText

def message (u : Url) : JobRequest → Message
  | describe => { method := .get, url := u }
  | stop => { method := .post, url := u }
  | logs token => Client.withToken token { method := .get, url := u }

def perform : JobRequest → StateM (Link τ) Unit
  | describe => discard (c.describe t job).run
  | stop => discard (c.stop t job).run
  | logs token => discard (c.logs t job token).run

variable {c} {job}

theorem request_eq_send {method : Method} {path : List Char} {u : Url} (h : c.url path = .ok u)
    (finish : Message → Message) :
    c.request t method path finish = send t (finish { method, url := u }) := by
  rw [Client.request, h]

theorem link_of_bind {α β : Type} (x : Exchange τ α) {f : α → Exchange τ β}
    (hf : ∀ a l, (f a l).2 = l) (l : Link τ) : ((x >>= f) l).2 = (x l).2 := by
  simp only [bind, ExceptT.bind, ExceptT.mk, StateT.bind]
  rcases x l with ⟨e | a, l'⟩
  · rfl
  · exact hf a l'

theorem perform_sends {k : JobRequest} {u : Url} (h : c.url (k.path job) = .ok u) (l : Link τ) :
    (k.perform t c job l).2 = (send t (k.message u) l).2 := by
  cases k with
  | describe =>
      have hpath : describe.path job = Client.jobPath job := List.append_nil _
      rw [hpath] at h
      change (c.describe t job l).2 = _
      rw [Client.describe, request_eq_send t h]
      exact link_of_bind _ (fun _ _ => rfl) l
  | stop =>
      change c.url (Client.jobPath job ++ "/stop".toList) = .ok u at h
      change (c.stop t job l).2 = _
      rw [Client.stop, request_eq_send t h]
      exact link_of_bind _ (fun _ _ => rfl) l
  | logs token =>
      change c.url (Client.jobPath job ++ "/logs".toList) = .ok u at h
      change (c.logs t job token l).2 = _
      rw [Client.logs, request_eq_send t h]
      exact link_of_bind _ (fun _ _ => rfl) l

end Requests

def jobsSegment : List Char := "processing-jobs".toList

/-- In the path of the request the name stands for itself. Where it ends the text, that takes a last
character that counts. -/
structure Plain (k : JobRequest) (n : List Char) : Prop where
  uncut : '/' ∉ n ∧ '\\' ∉ n ∧ '?' ∉ n ∧ '#' ∉ n
  kept : ∀ c ∈ n, isIgnored c = false
  unescaped : Percent.decode n = Utf8.encode n
  undotted : n ≠ ['.'] ∧ n ≠ ['.', '.']
  ends : k.trail = [] → EndsVisibly n

/-- The path, cut at its slashes and with its escapes resolved, is that of the request. -/
def Reaches (k : JobRequest) (dir : List (List Char)) (job : String) (u : Url) : Prop :=
  ∃ ss, u.path = .segments ss ∧ ss.map Percent.decode =
    dir.map Percent.decode ++ (jobsSegment :: job.toList :: k.trail).map Utf8.encode

def tail (k : JobRequest) (job : String) : List Char := tidy (job.toList ++ k.trailText)

structure IsWord (s : List Char) : Prop where
  tidied : tidy s = s
  read : readPieces s = [s]
  undotted : isDoubleDot s = false ∧ isSingleDot s = false
  unescaped : '%' ∉ s
  uncut : '?' ∉ s ∧ '#' ∉ s

theorem isWord_jobsSegment : IsWord jobsSegment := by
  constructor <;> decide

theorem isWord_stop : IsWord "stop".toList := by
  constructor <;> decide

theorem isWord_logs : IsWord "logs".toList := by
  constructor <;> decide

theorem trail_cases (k : JobRequest) : (k.trail = [] ∧ k.trailText = []) ∨
    ∃ s, IsWord s ∧ k.trail = [s] ∧ k.trailText = '/' :: s := by
  cases k with
  | describe => exact .inl ⟨rfl, rfl⟩
  | stop => exact .inr ⟨_, isWord_stop, rfl, rfl⟩
  | logs token => exact .inr ⟨_, isWord_logs, rfl, rfl⟩

section Reading

variable {c : Client} {k : JobRequest} {job : String} {dir : List (List Char)} {b : Url}

theorem url_path : c.url (k.path job) =
    Url.parse (c.base ++ '/' :: (jobsSegment ++ '/' :: (job.toList ++ k.trailText))) := by
  have hjobs : Client.jobsPath = '/' :: jobsSegment := by decide
  rw [Client.url, path, Client.jobPath, hjobs]
  simp

theorem read_jobs (s : List Char) :
    Url.complete b.scheme b.host b.port (fun s => .segments (resolveDots dir (readPieces s)))
        (tidy (jobsSegment ++ '/' :: s)) =
      Url.complete b.scheme b.host b.port
        (fun s => .segments (resolveDots (dir ++ [jobsSegment]) (readPieces s))) (tidy s) := by
  have hword := isWord_jobsSegment
  have hkept : withoutIgnored jobsSegment = jobsSegment := by decide
  have htail : cutTail (tidy (jobsSegment ++ '/' :: s)) =
      (jobsSegment ++ '/' :: (cutTail (tidy s)).1, (cutTail (tidy s)).2) := by
    rw [tidy_append, hkept, cutTail_append_slash hword.uncut.1 hword.uncut.2]
  have hdots (t : List Char) : resolveDots dir (readPieces (jobsSegment ++ '/' :: t)) =
      resolveDots (dir ++ [jobsSegment]) (readPieces t) := by
    rw [readPieces_append, hword.read, resolveDots_append (readPieces_ne_nil t), descend, descend,
      hword.undotted.1, hword.undotted.2]
    rfl
  simp only [Url.complete, htail, hdots]

def Leads (c : Client) (b : Url) (dir : List (List Char)) : Prop :=
  ∀ v, Url.parse (c.base ++ '/' :: v) = .ok (Url.complete b.scheme b.host b.port
    (fun s => .segments (resolveDots dir (readPieces s))) (tidy v))

theorem Leads.url (h : Leads c b dir) : c.url (k.path job) =
    .ok (Url.complete b.scheme b.host b.port
      (fun s => .segments (resolveDots (dir ++ [jobsSegment]) (readPieces s))) (k.tail job)) := by
  rw [url_path, h, read_jobs]
  rfl

theorem Plain.not_dots (h : k.Plain job.toList) :
    isDoubleDot (Percent.encode Percent.escapesPath job.toList) = false ∧
      isSingleDot (Percent.encode Percent.escapesPath job.toList) = false := by
  have hbytes : Percent.decode (Percent.encode Percent.escapesPath job.toList) =
      Utf8.encode job.toList := by
    rw [Percent.decode_encode Percent.escapesPath_sparesEscapes, h.unescaped]
  refine ⟨Bool.eq_false_iff.2 fun hd => ?_, Bool.eq_false_iff.2 fun hs => ?_⟩
  · rw [decode_of_isDoubleDot hd] at hbytes
    exact h.undotted.2 (Utf8.encode_injective hbytes).symm
  · rw [decode_of_isSingleDot hs] at hbytes
    exact h.undotted.1 (Utf8.encode_injective hbytes).symm

theorem Plain.tail (h : k.Plain job.toList) : k.tail job = job.toList ++ k.trailText := by
  have hkept := withoutIgnored_eq_self h.kept
  rw [JobRequest.tail]
  rcases k.trail_cases with ⟨hnil, htext⟩ | ⟨s, hs, -, htext⟩
  · rw [htext, List.append_nil, tidy_of_endsVisibly (h.ends hnil), hkept]
  · rw [htext, tidy_append, hkept, hs.tidied]

theorem Plain.cutTail (h : k.Plain job.toList) :
    Url.cutTail (k.tail job) = (job.toList ++ k.trailText, none, none) := by
  rw [h.tail]
  rcases k.trail_cases with ⟨-, htext⟩ | ⟨s, hs, -, htext⟩
  · rw [htext, List.append_nil]
    exact cutTail_eq_self h.uncut.2.2.1 h.uncut.2.2.2
  · rw [htext]
    exact cutTail_eq_self (by simp [h.uncut, hs.uncut]) (by simp [h.uncut, hs.uncut])

theorem Plain.read (h : k.Plain job.toList) : readPieces (job.toList ++ k.trailText) =
    Percent.encode Percent.escapesPath job.toList :: k.trail := by
  have hname := readPieces_of_whole h.uncut.1 h.uncut.2.1
  rcases k.trail_cases with ⟨htrail, htext⟩ | ⟨s, hs, htrail, htext⟩
  · rw [htext, htrail, List.append_nil, hname]
  · rw [htext, htrail, readPieces_append, hname, hs.read]
    rfl

theorem Plain.url (h : k.Plain job.toList) (hb : b.IsPlace) (hl : Leads c b dir) :
    c.url (k.path job) = .ok { b with
      path := .segments
        (dir ++ jobsSegment :: Percent.encode Percent.escapesPath job.toList :: k.trail) } := by
  have hdots : ∀ x ∈ Percent.encode Percent.escapesPath job.toList :: k.trail,
      isDoubleDot x = false ∧ isSingleDot x = false := by
    refine List.forall_mem_cons.2 ⟨h.not_dots, ?_⟩
    intro x hx
    rcases k.trail_cases with ⟨htrail, -⟩ | ⟨s, hs, htrail, -⟩
    · rw [htrail] at hx
      cases hx
    · rw [htrail] at hx
      rw [List.mem_singleton.1 hx]
      exact hs.undotted
  rw [hl.url]
  simp only [Url.complete, h.cutTail, h.read, resolveDots_of_plain hdots]
  rw [List.append_assoc, List.singleton_append]
  cases b with
  | mk scheme host port path query fragment =>
      obtain rfl : query = none := hb.query
      obtain rfl : fragment = none := hb.fragment
      rfl

theorem Plain.decode_path (h : k.Plain job.toList) :
    (dir ++ jobsSegment :: Percent.encode Percent.escapesPath job.toList :: k.trail).map Percent.decode =
      dir.map Percent.decode ++ (jobsSegment :: job.toList :: k.trail).map Utf8.encode := by
  have hjobs := Percent.decode_of_no_percent isWord_jobsSegment.unescaped
  have htrail : k.trail.map Percent.decode = k.trail.map Utf8.encode := by
    rcases k.trail_cases with ⟨htrail, -⟩ | ⟨s, hs, htrail, -⟩
    · rw [htrail]
      rfl
    · rw [htrail, List.map_singleton, List.map_singleton,
        Percent.decode_of_no_percent hs.unescaped]
  simp only [List.map_append, List.map_cons, hjobs, htrail,
    Percent.decode_encode Percent.escapesPath_sparesEscapes, h.unescaped]

theorem mem_readPieces_tail {x : List Char} (h : x ∈ readPieces (Url.cutTail (k.tail job)).1) :
    ∃ y, x = Percent.encode Percent.escapesPath y ∧ y.Sublist (Url.cutTail (k.tail job)).1 ∧
      '/' ∉ y ∧ '\\' ∉ y ∧ (y.Sublist job.toList ∨ '%' ∉ y) := by
  obtain ⟨y, rfl, hy, hslash, hback⟩ := mem_readPieces h
  refine ⟨y, rfl, hy.sublist, hslash, hback, ?_⟩
  have htail := hy.trans (cutTail_path (k.tail job)).1.isInfix
  rw [JobRequest.tail] at htail
  rcases k.trail_cases with ⟨-, htext⟩ | ⟨s, hs, -, htext⟩
  · rw [htext, List.append_nil] at htail
    exact .inl (htail.sublist.trans (tidy_sublist _))
  · rw [htext, tidy_append, hs.tidied] at htail
    rcases infix_or_infix_of_not_mem htail hslash with h | h
    · exact .inl (h.sublist.trans List.filter_sublist)
    · exact .inr fun hmem => hs.unescaped (h.subset hmem)

/-- A name that is still whole where it is read as a segment stands for itself. -/
theorem plain_of_whole (hwhole : job.toList.Sublist (Url.cutTail (k.tail job)).1)
    (hslash : '/' ∉ job.toList) (hback : '\\' ∉ job.toList)
    (hbytes : Percent.decode job.toList = Utf8.encode job.toList)
    (hdots : isDoubleDot (Percent.encode Percent.escapesPath job.toList) = false ∧
      isSingleDot (Percent.encode Percent.escapesPath job.toList) = false) : k.Plain job.toList := by
  obtain ⟨hcut, hquery, hfragment⟩ := cutTail_path (k.tail job)
  have htail := hwhole.trans hcut.sublist
  refine ⟨⟨hslash, hback, fun h => hquery (hwhole.subset h), fun h => hfragment (hwhole.subset h)⟩,
    fun c hc => not_isIgnored_of_mem_tidy (htail.subset hc), hbytes, ?_, ?_⟩
  · constructor
    · intro h
      rw [h] at hdots
      exact absurd hdots.2 (by decide)
    · intro h
      rw [h] at hdots
      exact absurd hdots.1 (by decide)
  · intro htrail
    have htext : k.trailText = [] := by simp [trailText, htrail]
    rw [JobRequest.tail, htext, List.append_nil] at htail
    exact endsVisibly_of_tidy ((tidy_sublist _).eq_of_length_le htail.length_le)

theorem Leads.plain (hl : Leads c b dir) {u : Url} (hu : c.url (k.path job) = .ok u)
    (hr : k.Reaches dir job u) : k.Plain job.toList := by
  obtain ⟨ss, hss, hdecode⟩ := hr
  rw [hl.url] at hu
  rw [← Except.ok.inj hu, complete_path] at hss
  have hsegments := Path.segments.inj hss
  have hplace : (ss.map Percent.decode)[dir.length + 1]? = some (Utf8.encode job.toList) := by
    rw [hdecode, List.getElem?_append_right (by simp)]
    simp
  rw [← hsegments, List.getElem?_map, Option.map_eq_some_iff] at hplace
  obtain ⟨x, hx, hbytes⟩ := hplace
  rcases resolveDots_getElem? hx with h | rfl | ⟨hmem, hdots⟩
  · simp at h
  · -- an empty segment stands for the empty name only
    have hnil : job.toList = [] := Utf8.encode_injective (t := []) hbytes.symm
    rw [hnil]
    exact ⟨by simp, by simp, rfl, by simp, fun _ => by simp [EndsVisibly]⟩
  · obtain ⟨y, rfl, hpath, hslash, hback, hy⟩ := mem_readPieces_tail hmem
    rw [Percent.decode_encode Percent.escapesPath_sparesEscapes] at hbytes
    have hsame : y = job.toList := by
      rcases hy with hsub | hpercent
      · exact Percent.eq_of_decode hsub hbytes
      · rw [Percent.decode_of_no_percent hpercent] at hbytes
        exact Utf8.encode_injective hbytes
    subst hsame
    exact plain_of_whole hpath hslash hback hbytes hdots

theorem Reaches.injective {k' : JobRequest} {job' : String} {u u' : Url} (h : k.Reaches dir job u)
    (h' : k'.Reaches dir job' u') (hu : u.path = u'.path) : job = job' ∧ k.trail = k'.trail := by
  obtain ⟨ss, hss, hd⟩ := h
  obtain ⟨ss', hss', hd'⟩ := h'
  rw [hss, hss'] at hu
  cases hu
  rw [hd, List.append_cancel_left_eq, List.map_cons, List.map_cons, List.map_cons, List.map_cons] at hd'
  obtain ⟨hname, htrail⟩ := List.cons.inj (List.cons.inj hd').2
  refine ⟨String.toList_injective (Utf8.encode_injective hname), ?_⟩
  exact (List.map_inj_right fun _ _ => Utf8.encode_injective).1 htrail

end Reading

/-- The requests of a client, seen from the directory its endpoint leads to. -/
structure Serves {τ : Type} (t : Transport τ) (c : Client) (b : Url) (dir : List (List Char)) : Prop where
  directory : b.path = .segments dir ∨ b.path = .segments (dir ++ [[]])
  /-- One message is sent, to the endpoint's own site. It is to the job exactly if the name is plain. -/
  sent : ∀ (k : JobRequest) (job : String), ∃ u, c.url (k.path job) = .ok u ∧
    (∀ l, (k.perform t c job l).2 = (send t (k.message u) l).2) ∧
    u.scheme = b.scheme ∧ u.host = b.host ∧ u.port = b.port ∧
    (k.Reaches dir job u ↔ k.Plain job.toList)
  plain : ∀ (k : JobRequest) (job : String), k.Plain job.toList → c.url (k.path job) = .ok { b with
    path := .segments (dir ++ jobsSegment :: Percent.encode Percent.escapesPath job.toList :: k.trail) }
  apart : ∀ (k k' : JobRequest) (job job' : String) (u u' : Url),
    k.Plain job.toList → k'.Plain job'.toList → c.url (k.path job) = .ok u →
    c.url (k'.path job') = .ok u' → u.path = u'.path → job = job' ∧ k.trail = k'.trail

theorem Leads.serves {τ : Type} (t : Transport τ) {c : Client} {b : Url} {dir : List (List Char)}
    (hb : b.IsPlace) (hl : Leads c b dir)
    (hdir : b.path = .segments dir ∨ b.path = .segments (dir ++ [[]])) : Serves t c b dir := by
  have hreaches {k : JobRequest} {job : String} {u : Url} (hu : c.url (k.path job) = .ok u)
      (hn : k.Plain job.toList) : k.Reaches dir job u := by
    rw [hn.url hb hl] at hu
    cases hu
    exact ⟨_, rfl, hn.decode_path⟩
  refine ⟨hdir, ?_, fun k job hn => hn.url hb hl, ?_⟩
  · intro k job
    have hu : c.url (k.path job) = _ := hl.url
    obtain ⟨hscheme, hhost, hport⟩ := complete_site b.scheme b.host b.port
      (fun s => .segments (resolveDots (dir ++ [jobsSegment]) (readPieces s))) (k.tail job)
    exact ⟨_, hu, perform_sends t hu, hscheme, hhost, hport, hl.plain hu, hreaches hu⟩
  · intro k k' job job' u u' hn hn' hu hu' hpath
    exact (hreaches hu hn).injective (hreaches hu' hn') hpath

/-- Behind an endpoint that is only an address, requests with plain names reach their own jobs, and no
others do. -/
theorem requests_reach_jobs {τ : Type} (t : Transport τ) {c : Client} {b : Url}
    (h : Url.parse c.base = .ok b) (hb : b.IsPlace) (hend : EndsVisibly c.base) :
    ∃ dir, Serves t c b dir := by
  obtain ⟨dir, hdir, hl⟩ := parse_append h hb hend
  exact ⟨dir, Leads.serves t hb hl hdir⟩

def gateway : Client := .ofEndpoint "http://svc.test"

def gatewayUrl : Url where
  scheme := "http".toList
  host := some (.name "svc.test".toList)
  path := .segments [[]]

theorem gateway_reaches_jobs : Url.parse gateway.base = .ok gatewayUrl ∧
    ∃ dir, Serves Transport.unreachable gateway gatewayUrl dir :=
  ⟨rfl, requests_reach_jobs _ rfl ⟨by decide, rfl, rfl⟩ (by decide)⟩

/-- A name with dots in it has another job stopped. -/
theorem stop_reaches_another_job : "a/../b" ≠ "b" ∧ ∃ u,
    gateway.url (stop.path "a/../b") = .ok u ∧ gateway.url (stop.path "b") = .ok u ∧
    ¬ stop.Reaches [] "a/../b" u := by
  refine ⟨by decide, _, rfl, rfl, ?_⟩
  rintro ⟨ss, hss, h⟩
  cases hss
  revert h
  decide

end JobRequest

end Dispatch.Http
