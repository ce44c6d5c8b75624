import Dispatch.Http.Collaborators
import Dispatch.Proofs.JobAddress
import Dispatch.Proofs.Queries
import Dispatch.Proofs.Watch

namespace Dispatch.Http

open Text Url Activity

def Client.logsUrl (c : Client) (job : String) : Except Url.Error Url :=
  c.url (jobPath job ++ "/logs".toList)

def tokenName : List Char := "next_token".toList

/-- The pair that a token is sent as. -/
def tokenPairs (token : Option String) : List Form.Pair :=
  token.toList.map fun s => (tokenName, s.toList)

section Request

variable {τ : Type} (t : Transport τ) {c : Client} {job : String} {u : Url}

theorem logs_sends (h : c.logsUrl job = .ok u) (token : Option String) (l : Link τ) :
    (c.logs t job token l).2 = (send t ((JobRequest.logs token).message u) l).2 :=
  JobRequest.perform_sends t (k := .logs token) h l

theorem message_pairs (u : Url) (token : Option String) :
    ((JobRequest.logs token).message u).url.pairs = u.pairs ++ tokenPairs token := by
  cases token with
  | none => exact (List.append_nil _).symm
  | some s => exact Form.decode_append u.query (tokenName, s.toList)

/-- A name without slashes cannot be spelled across the parts of the text that the URL is read from. -/
theorem logsUrl_spells (h : c.logsUrl job = .ok u) {p : Form.Pair} (hp : p ∈ u.pairs) (hslash : '/' ∉ p.1) :
    Form.Spells (withoutIgnored c.base) p.1 ∨ Form.Spells (withoutIgnored job.toList) p.1 := by
  have hkept : isIgnored '/' = false := by decide
  have htext : parse (c.base ++ '/' ::
      (JobRequest.jobsSegment ++ '/' :: (job.toList ++ '/' :: "logs".toList))) = .ok u := by
    rw [← h]
    exact (JobRequest.url_path (k := .logs none)).symm
  have hspells := spells_of_mem_pairs htext hp
  rw [withoutIgnored_append, withoutIgnored_cons hkept, withoutIgnored_append, withoutIgnored_cons hkept,
    withoutIgnored_append, withoutIgnored_cons hkept] at hspells
  rcases hspells.split hslash with hbase | hspells
  · exact .inl hbase
  · rcases hspells.split hslash with hjobs | hspells
    · exact (Form.not_spells_of_unmarked (by decide) hjobs).elim
    · rcases hspells.split hslash with hjob | hlogs
      · exact .inr hjob
      · exact (Form.not_spells_of_unmarked (by decide) hlogs).elim

theorem send_sent (m : Message) (l : Link τ) :
    (send t m l).2.sent = l.sent ∨ (send t m l).2.sent = l.sent ++ [m] := by
  rw [send]
  split
  · split
    · exact .inr rfl
    · exact .inl rfl
  · exact .inl rfl

theorem send_ok {m : Message} {l l' : Link τ} {r : Response} (h : send t m l = (.ok r, l')) :
    l'.sent = l.sent ++ [m] := by
  rw [send] at h
  split at h
  · split at h
    · cases h
      rfl
    · cases h
  · cases h

theorem logs_ok (h : c.logsUrl job = .ok u) {token : Option String} {l : Link τ} {page : LogPage}
    (hok : (c.logs t job token l).1 = .ok page) :
    (c.logs t job token l).2.sent = l.sent ++ [(JobRequest.logs token).message u] := by
  have hlogs : c.logs t job token = send t ((JobRequest.logs token).message u) >>= fun r =>
      (readBody LogPage.ofJson? r : Except ClientError LogPage) := by
    rw [Client.logs, JobRequest.request_eq_send t h]
    rfl
  rcases hsend : send t ((JobRequest.logs token).message u) l with ⟨e | r, l'⟩
  · rw [hlogs, bind_error _ hsend] at hok
    cases hok
  · rw [logs_sends t h, hsend]
    exact send_ok t hsend

end Request

def pagesOf (events : List Event) : List LogPage :=
  events.filterMap fun
    | .called (.logs _ _) (.ok page) => some page
    | _ => none

/-- The tokens that pages are asked for with, if each request has the latest token there was. -/
def askedWith (token : Option String) (pages : List LogPage) : List (Option String) :=
  pages.scanl (fun token page => page.nextToken.or token) token

theorem askedWith_nil (token : Option String) : askedWith token [] = [token] := List.scanl_nil

theorem askedWith_cons (token : Option String) (page : LogPage) (pages : List LogPage) :
    askedWith token (page :: pages) = token :: askedWith (page.nextToken.or token) pages := List.scanl_cons

theorem pagesOf_page {job : String} {token : Option String} (page : LogPage) (events : List Event) :
    pagesOf (.called (.logs job token) (.ok page) :: page.events.map (.logged job) ++ events) =
      page :: pagesOf events := by
  have hlogged : pagesOf (page.events.map (.logged job)) = [] := by simp [pagesOf]
  rw [pagesOf, List.cons_append, List.filterMap_cons, List.filterMap_append, ← pagesOf, ← pagesOf, hlogged]
  rfl

variable {τ : Type}

/-- Pages come from a service behind HTTP, whatever becomes of other calls. -/
def ReadsLogs (cs : Collaborators (World τ)) (t : Transport τ) (c : Client) : Prop :=
  ∀ job token w, cs.answer (.logs job token) w = World.carry (c.logs t job token) w

/-- The requests in `ms` were sent one by one for the pages of a drain. The last of them may not have been
answered. -/
structure Fetches (u : Url) (token : Option String) (pages : List LogPage) (ms : List Message) : Prop where
  each : ms <+: (askedWith token pages).map fun token => (JobRequest.logs token).message u
  all : pages.length ≤ ms.length

theorem Fetches.cons {u : Url} {token : Option String} {page : LogPage} {pages : List LogPage}
    {ms : List Message} (h : Fetches u (page.nextToken.or token) pages ms) :
    Fetches u token (page :: pages) ((JobRequest.logs token).message u :: ms) where
  each := by
    rw [askedWith_cons, List.map_cons]
    exact List.cons_prefix_cons.2 ⟨rfl, h.each⟩
  all := Nat.succ_le_succ h.all

theorem Fetches.pairs {u : Url} {token : Option String} {pages : List LogPage} {ms : List Message}
    (h : Fetches u token pages ms) : ms.map (·.url.pairs) <+:
      (askedWith token pages).map fun token => u.pairs ++ tokenPairs token := by
  have hpairs := h.each.map (·.url.pairs)
  rw [List.map_map] at hpairs
  simpa only [Function.comp_def, message_pairs] using hpairs

section Drain

variable {t : Transport τ} {c : Client} {cs : Collaborators (World τ)} {job : String} {u : Url}

theorem ReadsLogs.link (hcs : ReadsLogs cs t c) (job : String) (token : Option String) (w : World τ) :
    (cs.answer (.logs job token) w).2.link = (c.logs t job token w.link).2 := by
  rw [hcs]
  rfl

theorem ReadsLogs.page (hcs : ReadsLogs cs t c) (h : c.logsUrl job = .ok u) {token : Option String}
    {w : World τ} {page : LogPage} (ha : .ok page = (cs.answer (.logs job token) w).1) :
    (cs.answer (.logs job token) w).2.link.sent =
      w.link.sent ++ [(JobRequest.logs token).message u] := by
  rw [hcs.link]
  rw [hcs] at ha
  exact logs_ok t h ha.symm

theorem ReadsLogs.refused (hcs : ReadsLogs cs t c) (h : c.logsUrl job = .ok u) (token : Option String)
    (w : World τ) : ∃ ms, (cs.answer (.logs job token) w).2.link.sent = w.link.sent ++ ms ∧
      Fetches u token [] ms := by
  rw [hcs.link, logs_sends t h]
  rcases send_sent t ((JobRequest.logs token).message u) w.link with hsent | hsent
  · exact ⟨[], by rw [hsent, List.append_nil], List.nil_prefix, Nat.zero_le _⟩
  · refine ⟨_, hsent, ?_, Nat.zero_le _⟩
    rw [askedWith_nil]
    exact List.prefix_refl _

theorem Drains.fetches {token : Option String} {events : List Event} {r : Except Halt (Option String)}
    (hD : Drains job token events r) (hcs : ReadsLogs cs t c) (h : c.logsUrl job = .ok u) {w : World τ}
    (hA : cs.Answers w events) : ∃ ms, (cs.replay w events).link.sent = w.link.sent ++ ms ∧
      Fetches u token (pagesOf events) ms := by
  induction hD generalizing w with
  | cut token => exact ⟨[], (List.append_nil _).symm, List.nil_prefix, Nat.le_refl _⟩
  | refused token e => exact hcs.refused h token w
  | last token page hl =>
      refine ⟨[(JobRequest.logs token).message u], ?_, ?_⟩
      · rw [Collaborators.replay, cs.replay_logged]
        exact hcs.page h hA.1
      · rw [← List.append_nil (_ :: _), pagesOf_page]
        exact .cons ⟨List.nil_prefix, Nat.le_refl _⟩
  | more token page hl rest ih =>
      -- what is logged sends nothing, so the next request starts from the state after the page
      obtain ⟨hpage, hA⟩ := (cs.answers_append w _ _).1 hA
      obtain ⟨ms, hsent, hf⟩ := ih hA
      rw [Collaborators.replay, cs.replay_logged] at hsent
      refine ⟨(JobRequest.logs token).message u :: ms, ?_, ?_⟩
      · rw [cs.replay_append, Collaborators.replay, cs.replay_logged, hsent, hcs.page h hpage.1,
          List.append_assoc]
        rfl
      · rw [pagesOf_page]
        exact hf.cons

end Drain

/-- A token comes back to the service as the last pair of the query, and nothing else about the request has
changed; without one the request has no such pair but those that the endpoint or the name of the job spell.
The requests of a drain are sent one after another, each with the latest token that the service issued. -/
theorem tokens_come_back (t : Transport τ) {c : Client} {job : Job} {u : Url}
    (h : c.logsUrl job.name = .ok u) :
    (∀ token, ∃ v, u.Gains (tokenName, token.toList) v ∧ ∀ l,
      (c.logs t job.name (some token) l).2 = (send t { method := .get, url := v } l).2) ∧
    (∀ l, (c.logs t job.name none l).2 = (send t { method := .get, url := u } l).2) ∧
    (∀ p ∈ u.pairs, p.1 = tokenName →
      Form.Spells (withoutIgnored c.base) tokenName ∨
        Form.Spells (withoutIgnored job.name.toList) tokenName) ∧
    ∀ cs, ReadsLogs cs t c → ∀ rounds token s, ∃ events ms,
      Effect cs s events (job.drain cs rounds token s).2 ∧
      (job.drain cs rounds token s).2.world.link.sent = s.world.link.sent ++ ms ∧
      (pagesOf events).length ≤ ms.length ∧
      ms.map (·.url.pairs) <+: (askedWith token (pagesOf events)).map fun token =>
        u.pairs ++ tokenPairs token := by
  refine ⟨fun token => ?_, fun l => logs_sends t h none l, fun p hp hname => ?_, ?_⟩
  · exact ⟨_, addPair_gains (hash_not_mem_query h) _, fun l => logs_sends t h (some token) l⟩
  · have hspells := logsUrl_spells h hp (by rw [hname]; decide)
    rwa [hname] at hspells
  · intro cs hcs rounds token s
    obtain ⟨events, he, hD⟩ := job.drain_drains cs rounds token s
    obtain ⟨ms, hsent, hf⟩ := Drains.fetches hD hcs h he.answers
    rw [← he.world] at hsent
    exact ⟨events, ms, he, hsent, hf.all, hf.pairs⟩

def nothingStored : File.System := ⟨.directory [], []⟩

def serviceAt (c : Client) : Collaborators (World (List Response)) where
  clock w := (w.time, w)
  answer := answer .scripted c (.ofEndpoint "http://store.test") nothingStored

def querying : Job where
  name := "x?next_token=5&b c"
  inputs := []
  outputs := []

def queryingUrl : Url where
  scheme := "http".toList
  host := some (.name "svc.test".toList)
  path := .segments ["processing-jobs".toList, "x".toList]
  query := some "next_token=5&b%20c/logs".toList

theorem first_pair_mem {token : String} (rest : List Char) {u : Url}
    (hq : u.query = some (Form.encodePair (tokenName, token.toList) ++ '&' :: rest)) :
    (tokenName, token.toList) ∈ u.pairs := by
  rw [pairs, hq, Option.elim_some, Form.decode, pieces_append, Form.pieces_encodePair, List.filter_append,
    List.map_append]
  apply List.mem_append_left
  have hne : Form.encodePair (tokenName, token.toList) ≠ [] := by simp [Form.encodePair]
  simp [hne, Form.decodePair_encodePair]

def nothingSent : Shared (World (List Response)) := { world := ⟨default, ⟨[], []⟩⟩ }

theorem tokens_come_back_behind_others :
    JobRequest.gateway.logsUrl querying.name = .ok queryingUrl ∧
    (tokenName, "5".toList) ∈ queryingUrl.pairs ∧
    Form.Spells (withoutIgnored querying.name.toList) tokenName ∧
    (∃ v, queryingUrl.Gains (tokenName, "é&=+% #".toList) v) ∧
    ∃ (events : List Event) (ms : List Message),
      Effect (serviceAt JobRequest.gateway) nothingSent events
        (querying.drain (serviceAt JobRequest.gateway) 2 (some "a&b") nothingSent).2 ∧
      (pagesOf events).length ≤ ms.length ∧
      ms.map (·.url.pairs) <+: (askedWith (some "a&b") (pagesOf events)).map fun token =>
        queryingUrl.pairs ++ tokenPairs token := by
  have hurl : JobRequest.gateway.logsUrl querying.name = .ok queryingUrl := rfl
  have hmem : (tokenName, "5".toList) ∈ queryingUrl.pairs := first_pair_mem "b%20c/logs".toList rfl
  obtain ⟨hgains, -, hspells, hdrain⟩ := @tokens_come_back _ Transport.scripted _ querying _ hurl
  have hbase : ¬ Form.Spells (withoutIgnored JobRequest.gateway.base) tokenName :=
    Form.not_spells_of_unmarked (by decide)
  obtain ⟨v, hv, -⟩ := hgains "é&=+% #"
  have hreads : ReadsLogs (serviceAt JobRequest.gateway) Transport.scripted JobRequest.gateway :=
    fun _ _ _ => rfl
  obtain ⟨events, ms, he, -, hall, hms⟩ := hdrain _ hreads 2 (some "a&b") nothingSent
  exact ⟨hurl, hmem, (hspells _ hmem rfl).resolve_left hbase, ⟨v, hv⟩, events, ms, he, hall, hms⟩

def tokenEndpoint : Client := .ofEndpoint "http://svc.test?next_token=a&to="

def tokenEndpointUrl : Url where
  scheme := "http".toList
  host := some (.name "svc.test".toList)
  path := .segments [[]]
  query := some "next_token=a&to=/processing-jobs/job/logs".toList

/-- A token that nobody asked with is sent if the endpoint has one. -/
theorem endpoint_spells_token : tokenEndpoint.logsUrl "job" = .ok tokenEndpointUrl ∧
    (tokenEndpoint.logs .scripted "job" none ⟨[], []⟩).2.sent =
      [{ method := .get, url := tokenEndpointUrl }] ∧
    (tokenName, "a".toList) ∈ tokenEndpointUrl.pairs ∧
    ¬ Form.Spells (withoutIgnored "job".toList) tokenName := by
  refine ⟨rfl, ?_, first_pair_mem "to=/processing-jobs/job/logs".toList rfl,
    Form.not_spells_of_unmarked (by decide)⟩
  rw [logs_sends .scripted (u := tokenEndpointUrl) rfl]
  rfl

end Dispatch.Http
