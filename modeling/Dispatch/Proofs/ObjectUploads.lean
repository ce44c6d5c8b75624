import Mathlib.Data.List.Forall2
import Dispatch.Proofs.Activity
import Dispatch.Proofs.ObjectAddress
import Dispatch.Proofs.Walks

namespace Dispatch.Http

theorem Response.checkStatus_ok {r : Response} (h : r.isSuccess = true) : checkStatus r = .ok () :=
  if_pos h

def Response.refusal (r : Response) : ClientError :=
  .api r.status (String.ofList (Text.Utf8.decodeLossy r.body))

theorem Response.checkStatus_error {r : Response} (h : r.isSuccess = false) :
    checkStatus r = .error r.refusal := if_neg (by simp [h])

namespace ObjectStore

open File Storage Url Activity

theorem objectKey_encode {leading : String} (h : leading ≠ "") (name : String) :
    objectKey leading [(name : Raw)] = leading ++ "/" ++ name := by
  rw [objectKey, if_neg h]
  simp [Text.joined, Text.Utf8.decodeLossy_encode]

variable {τ : Type} (t : Transport τ) (store : ObjectStore) (fs : System) (bucket leading : String)

/-- The message puts the file where it belongs, with the content it has. -/
structure IsPut (f : Listed) (m : Message) : Prop where
  content : fs.read f.path = .ok m.body
  address : store.objectUrl bucket (objectKey leading f.names) = .ok m.url
  bare : m = { method := .put, url := m.url, body := m.body }

/-- Every file is put, in order, and every message is answered with success. -/
inductive Stores : List Listed → τ → List Message → τ → Prop
  | nil {s : τ} : Stores [] s [] s
  | cons {f : Listed} {files : List Listed} {m : Message} {ms : List Message} {r : Response}
      {s s' s'' : τ}
      (put : IsPut store fs bucket leading f m) (answer : t.send m s = (some r, s'))
      (accepted : r.isSuccess = true) (later : Stores files s' ms s'') :
      Stores (f :: files) s (m :: ms) s''

/-- How putting files ends: with all of them put, or at the first that cannot be read, is refused, or does
not reach a server. Nothing is sent for the files behind it. -/
inductive Ends : List Listed → τ → List Message → τ → Except ClientError Unit → Prop
  | done {files : List Listed} {ms : List Message} {s s' : τ}
      (all : Stores t store fs bucket leading files s ms s') : Ends files s ms s' (.ok ())
  | unread {before rest : List Listed} {f : Listed} {ms : List Message} {s s' : τ} {e : File.Error}
      (stored : Stores t store fs bucket leading before s ms s') (content : fs.read f.path = .error e) :
      Ends (before ++ f :: rest) s ms s' (.error (.io f.path e))
  | refused {before rest : List Listed} {f : Listed} {m : Message} {ms : List Message} {r : Response}
      {s s' s'' : τ} (stored : Stores t store fs bucket leading before s ms s')
      (put : IsPut store fs bucket leading f m) (answer : t.send m s' = (some r, s''))
      (refusal : r.isSuccess = false) :
      Ends (before ++ f :: rest) s (ms ++ [m]) s'' (.error r.refusal)
  | unreached {before rest : List Listed} {f : Listed} {m : Message} {ms : List Message} {s s' s'' : τ}
      (stored : Stores t store fs bucket leading before s ms s')
      (put : IsPut store fs bucket leading f m) (answer : t.send m s' = (none, s'')) :
      Ends (before ++ f :: rest) s ms s'' (.error (.unreachable "error sending request"))

variable {t store fs bucket leading}

theorem Stores.puts {files : List Listed} {s s' : τ} {ms : List Message}
    (h : Stores t store fs bucket leading files s ms s') :
    List.Forall₂ (IsPut store fs bucket leading) files ms := by
  induction h with
  | nil => exact .nil
  | cons put answer accepted later ih => exact .cons put ih

theorem Ends.cons {f : Listed} {files : List Listed} {m : Message} {ms : List Message} {r : Response}
    {s s' s'' : τ} {q : Except ClientError Unit} (put : IsPut store fs bucket leading f m)
    (answer : t.send m s = (some r, s')) (accepted : r.isSuccess = true)
    (h : Ends t store fs bucket leading files s' ms s'' q) :
    Ends t store fs bucket leading (f :: files) s (m :: ms) s'' q := by
  cases h with
  | done all => exact .done (all.cons put answer accepted)
  | unread stored content => exact .unread (stored.cons put answer accepted) content
  | refused stored put' answer' refusal =>
      exact .refused (stored.cons put answer accepted) put' answer' refusal
  | unreached stored put' answer' => exact .unreached (stored.cons put answer accepted) put' answer'

theorem putFiles_unread {f : Listed} {e : File.Error} (h : fs.read f.path = .error e) (rest : List Listed)
    (l : Link τ) : store.putFiles t fs bucket leading (f :: rest) l = (.error (.io f.path e), l) := by
  rw [putFiles, h]
  rfl

theorem send_reached {m : Message} {l : Link τ} {r : Response} {s : τ} (hweb : m.url.isWeb = true)
    (h : t.send m l.state = (some r, s)) : send t m l = (.ok r, ⟨s, l.sent ++ [m]⟩) := by
  rw [send, if_pos hweb, h]

theorem send_unreached {m : Message} {l : Link τ} {s : τ} (hweb : m.url.isWeb = true)
    (h : t.send m l.state = (none, s)) :
    send t m l = (.error (.unreachable "error sending request"), ⟨s, l.sent⟩) := by
  rw [send, if_pos hweb, h]

section First

variable {f : Listed} {m : Message} {l l' : Link τ}

theorem IsPut.putObject (h : IsPut store fs bucket leading f m) :
    store.putObject t bucket (objectKey leading f.names) m.body =
      send t m >>= fun r => (checkStatus r : Except ClientError Unit) := by
  rw [ObjectStore.putObject, h.address]
  change send t { method := .put, url := m.url, body := m.body } >>= _ = _
  rw [← h.bare]

theorem IsPut.putFiles (h : IsPut store fs bucket leading f m) (rest : List Listed) :
    store.putFiles t fs bucket leading (f :: rest) =
      (send t m >>= fun r => (checkStatus r : Except ClientError Unit)) >>= fun _ =>
        store.putFiles t fs bucket leading rest := by
  rw [ObjectStore.putFiles, h.content, ← h.putObject]
  rfl

theorem IsPut.accepted {r : Response} (h : IsPut store fs bucket leading f m)
    (hsend : send t m l = (.ok r, l')) (hr : r.isSuccess = true) (rest : List Listed) :
    store.putFiles t fs bucket leading (f :: rest) l = store.putFiles t fs bucket leading rest l' := by
  have hcheck : (send t m >>= fun r => (checkStatus r : Except ClientError Unit)) l = (.ok (), l') := by
    rw [bind_ok _ hsend, r.checkStatus_ok hr]
    rfl
  rw [h.putFiles, bind_ok _ hcheck]

theorem IsPut.refused {r : Response} (h : IsPut store fs bucket leading f m)
    (hsend : send t m l = (.ok r, l')) (hr : r.isSuccess = false) (rest : List Listed) :
    store.putFiles t fs bucket leading (f :: rest) l = (.error r.refusal, l') := by
  have hcheck : (send t m >>= fun r => (checkStatus r : Except ClientError Unit)) l =
      (.error r.refusal, l') := by
    rw [bind_ok _ hsend, r.checkStatus_error hr]
    rfl
  rw [h.putFiles, bind_error _ hcheck]

theorem IsPut.unreached {e : ClientError} (h : IsPut store fs bucket leading f m)
    (hsend : send t m l = (.error e, l')) (rest : List Listed) :
    store.putFiles t fs bucket leading (f :: rest) l = (.error e, l') := by
  rw [h.putFiles, bind_error _ (bind_error _ hsend)]

end First

section Endpoint

variable {b : Url} (h : Url.parse store.base = .ok b) (hb : b.isWeb = true)

include h hb

theorem objectUrl_web (bucket key : String) :
    ∃ u, store.objectUrl bucket key = .ok u ∧ u.isWeb = true := by
  obtain ⟨ss, hss, -⟩ := parse_slashless h hb
  exact ⟨_, objectUrl_eq h hb hss, hb⟩

theorem IsPut.isWeb {f : Listed} {m : Message} (hm : IsPut store fs bucket leading f m) :
    m.url.isWeb = true := by
  obtain ⟨u, hu, hweb⟩ := objectUrl_web h hb bucket (objectKey leading f.names)
  rw [hm.address] at hu
  cases hu
  exact hweb

theorem exists_isPut {f : Listed} {content : List UInt8} (hf : fs.read f.path = .ok content) :
    ∃ m, IsPut store fs bucket leading f m := by
  obtain ⟨u, hu, -⟩ := objectUrl_web h hb bucket (objectKey leading f.names)
  exact ⟨{ method := .put, url := u, body := content }, hf, hu, rfl⟩

theorem Stores.putFiles {files : List Listed} {s s' : τ} {ms : List Message}
    (hs : Stores t store fs bucket leading files s ms s') (rest : List Listed) (sent : List Message) :
    store.putFiles t fs bucket leading (files ++ rest) ⟨s, sent⟩ =
      store.putFiles t fs bucket leading rest ⟨s', sent ++ ms⟩ := by
  induction hs generalizing sent with
  | nil => rw [List.nil_append, List.append_nil]
  | @cons f files m ms r s s' s'' put answer accepted later ih =>
      rw [List.cons_append, put.accepted (send_reached (put.isWeb h hb) answer) accepted, ih,
        List.append_assoc, List.singleton_append]

theorem Ends.putFiles {files : List Listed} {s s' : τ} {ms : List Message} {q : Except ClientError Unit}
    (he : Ends t store fs bucket leading files s ms s' q) (sent : List Message) :
    store.putFiles t fs bucket leading files ⟨s, sent⟩ = (q, ⟨s', sent ++ ms⟩) := by
  cases he with
  | done all =>
      have hall := all.putFiles h hb [] sent
      rwa [List.append_nil] at hall
  | unread stored content => rw [stored.putFiles h hb, putFiles_unread content]
  | refused stored put answer refusal =>
      rw [stored.putFiles h hb, put.refused (send_reached (put.isWeb h hb) answer) refusal,
        List.append_assoc]
  | unreached stored put answer =>
      rw [stored.putFiles h hb, put.unreached (send_unreached (put.isWeb h hb) answer)]

theorem exists_ends (files : List Listed) (s : τ) :
    ∃ ms s' q, Ends t store fs bucket leading files s ms s' q := by
  -- the first file ends it, or it is put and the others go on from the state that leaves
  induction files generalizing s with
  | nil => exact ⟨[], s, _, .done .nil⟩
  | cons f files ih =>
      cases hread : fs.read f.path with
      | error e =>
          have hends : Ends t store fs bucket leading ([] ++ f :: files) s [] s _ := .unread .nil hread
          exact ⟨[], s, _, hends⟩
      | ok content =>
          obtain ⟨m, put⟩ : ∃ m, IsPut store fs bucket leading f m := exists_isPut h hb hread
          rcases hsend : t.send m s with ⟨_ | r, s'⟩
          · have hends : Ends t store fs bucket leading ([] ++ f :: files) s [] s' _ :=
              .unreached .nil put hsend
            exact ⟨[], s', _, hends⟩
          · cases hr : r.isSuccess with
            | false =>
                have hends : Ends t store fs bucket leading ([] ++ f :: files) s ([] ++ [m]) s' _ :=
                  .refused .nil put hsend hr
                exact ⟨[m], s', _, hends⟩
            | true =>
                obtain ⟨ms, s'', q, hends⟩ := ih s'
                exact ⟨m :: ms, s'', q, hends.cons put hsend hr⟩

end Endpoint

variable (t store fs) in
/-- What an upload comes to: the messages that are carried, and the result. Four faults are found before
anything is sent, in this order. -/
inductive Uploads (path : Raw) (uri : String) : τ → List Message → τ → Except ClientError String → Prop
  | notRemote {s : τ} (address : splitRemote? uri = none) :
      Uploads path uri s [] s (.error (.invalidRequest (.notRemote uri)))
  | remoteSource {s : τ} {bucket leading : String} (address : splitRemote? uri = some (bucket, leading))
      (source : isRemote (shown path) = true) :
      Uploads path uri s [] s (.error (.invalidRequest (.remoteSource (shown path))))
  | missing {s : τ} {bucket leading : String} {e : File.Error}
      (address : splitRemote? uri = some (bucket, leading)) (source : isRemote (shown path) = false)
      (root : fs.lookup path = .error e) : Uploads path uri s [] s (.error (.io path e))
  | unlisted {s : τ} {bucket leading : String} {dir : Raw} {n : File.Node} {e : File.Error}
      (address : splitRemote? uri = some (bucket, leading)) (source : isRemote (shown path) = false)
      (root : fs.lookup path = .ok n) (listing : listFiles fs path = .error (.io dir e)) :
      Uploads path uri s [] s (.error (.io dir e))
  | put {s s' : τ} {bucket leading : String} {files : List Listed} {ms : List Message}
      {q : Except ClientError Unit} (address : splitRemote? uri = some (bucket, leading))
      (source : isRemote (shown path) = false) (root : listFiles fs path = .ok files)
      (ends : Ends t store fs bucket leading files s ms s' q) :
      Uploads path uri s ms s' (q.map fun _ => uri)

theorem upload_eq_putFiles {path : Raw} {uri bucket leading : String} {files : List Listed}
    (address : splitRemote? uri = some (bucket, leading)) (source : isRemote (shown path) = false)
    (root : listFiles fs path = .ok files) : store.upload t fs path uri =
      (store.putFiles t fs bucket leading files >>= fun _ => pure uri) := by
  rw [ObjectStore.upload, address]
  simp only [source, root]
  rfl

section Endpoint

variable {b : Url} {path : Raw} {uri : String}

theorem Uploads.upload (h : Url.parse store.base = .ok b) (hb : b.isWeb = true) {s s' : τ}
    {ms : List Message} {r : Except ClientError String} (hu : Uploads t store fs path uri s ms s' r)
    (sent : List Message) : store.upload t fs path uri ⟨s, sent⟩ = (r, ⟨s', sent ++ ms⟩) := by
  cases hu with
  | notRemote address =>
      rw [ObjectStore.upload, address, List.append_nil]
      rfl
  | remoteSource address source =>
      rw [ObjectStore.upload, address, List.append_nil]
      simp only [source, if_true]
      rfl
  | missing address source root =>
      rw [ObjectStore.upload, address, List.append_nil]
      simp only [source, listFiles, listFilesIn, root]
      rfl
  | unlisted address source root listing =>
      rw [ObjectStore.upload, address, List.append_nil]
      simp only [source, listing]
      rfl
  | @put _ bucket leading files _ q address source root ends =>
      have hputs := ends.putFiles h hb sent
      rw [upload_eq_putFiles address source root]
      cases q with
      | ok a => exact bind_ok _ hputs
      | error e => exact bind_error _ hputs

theorem exists_uploads (h : Url.parse store.base = .ok b) (hb : b.isWeb = true) (s : τ) :
    ∃ ms s' r, Uploads t store fs path uri s ms s' r := by
  cases address : splitRemote? uri with
  | none => exact ⟨[], s, _, .notRemote address⟩
  | some p =>
      cases source : isRemote (shown path) with
      | true => exact ⟨[], s, _, .remoteSource address source⟩
      | false =>
          cases root : fs.lookup path with
          | error e => exact ⟨[], s, _, .missing address source root⟩
          | ok n =>
              rcases listFiles_of_lookup root with ⟨files, hfiles⟩ | ⟨dir, e, hfiles⟩
              · obtain ⟨ms, s', q, ends⟩ := exists_ends h hb files s
                exact ⟨ms, s', _, .put address source hfiles ends⟩
              · exact ⟨[], s, _, .unlisted address source root hfiles⟩

theorem Ends.ok {bucket leading : String} {files : List Listed} {s s' : τ} {ms : List Message}
    (h : Ends t store fs bucket leading files s ms s' (.ok ())) :
    Stores t store fs bucket leading files s ms s' := by
  cases h with
  | done all => exact all

theorem Uploads.ok {v : String} {s s' : τ} {ms : List Message}
    (h : Uploads t store fs path uri s ms s' (.ok v)) : v = uri ∧ isRemote (shown path) = false ∧
      ∃ bucket leading files, splitRemote? uri = some (bucket, leading) ∧
        listFiles fs path = .ok files ∧ Stores t store fs bucket leading files s ms s' := by
  generalize hr : Except.ok v = r at h
  cases h with
  | notRemote | remoteSource | missing | unlisted => cases hr
  | @put _ bucket leading files _ q address source root ends =>
      cases q with
      | error e => cases hr
      | ok a =>
          cases hr
          exact ⟨rfl, source, bucket, leading, files, address, root, ends.ok⟩

theorem upload_eq_iff (h : Url.parse store.base = .ok b) (hb : b.isWeb = true)
    {r : Except ClientError String} {l l' : Link τ} : store.upload t fs path uri l = (r, l') ↔
      ∃ ms s, Uploads t store fs path uri l.state ms s r ∧ l' = ⟨s, l.sent ++ ms⟩ := by
  constructor
  · intro hup
    obtain ⟨ms, s, r', hu⟩ := exists_uploads (t := t) h hb l.state
    rw [hu.upload h hb l.sent] at hup
    cases hup
    exact ⟨ms, s, hu, rfl⟩
  · rintro ⟨ms, s, hu, rfl⟩
    exact hu.upload h hb l.sent

/-- Behind an endpoint on the web an upload puts the files that stand for the path, one message a file, and
stops at the first that cannot be read or is not accepted. It succeeds exactly if there is none. -/
theorem upload_puts_files (h : Url.parse store.base = .ok b) (hb : b.isWeb = true) (fs : System)
    (path : Raw) (uri : String) (l : Link τ) :
    (∀ r l', store.upload t fs path uri l = (r, l') ↔
      ∃ ms s, Uploads t store fs path uri l.state ms s r ∧ l' = ⟨s, l.sent ++ ms⟩) ∧
    ∀ v, (store.upload t fs path uri l).1 = .ok v ↔ v = uri ∧ isRemote (shown path) = false ∧
      ∃ bucket leading files ms s, splitRemote? uri = some (bucket, leading) ∧
        listFiles fs path = .ok files ∧ Stores t store fs bucket leading files l.state ms s := by
  refine ⟨fun r l' => upload_eq_iff h hb, fun v => ⟨fun hok => ?_, ?_⟩⟩
  · obtain ⟨ms, s, hu, -⟩ := (upload_eq_iff h hb).1 (Prod.ext hok rfl)
    obtain ⟨hv, hpath, bucket, leading, files, haddress, hfiles, hall⟩ := hu.ok
    exact ⟨hv, hpath, bucket, leading, files, ms, s, haddress, hfiles, hall⟩
  · rintro ⟨rfl, hpath, bucket, leading, files, ms, s, haddress, hfiles, hall⟩
    rw [(Uploads.put haddress hpath hfiles (.done hall)).upload h hb l.sent]
    rfl

end Endpoint

def box : Node := .directory [("a", .file [1]), ("b", .link "nowhere"), ("c", .file [3])]

def boxFiles : System := ⟨.directory [("d", box)], []⟩

theorem boxFiles_list : listFiles boxFiles "/d" =
    .ok [⟨["a"], "/d/a"⟩, ⟨["b"], "/d/b"⟩, ⟨["c"], "/d/c"⟩] := by
  have hlookup : boxFiles.lookup "/d" = .ok box :=
    @lookup_path boxFiles ["d"] box (by decide) (by decide) (by decide) rfl fun _ => nofun
  rw [listFiles_directory (by decide) hlookup rfl (by decide), listTree_of_pairwise "/d" (by decide)]
  rfl

theorem boxFiles_read : boxFiles.read "/d/a" = .ok [1] :=
  @read_path boxFiles ["d", "a"] [1] (by decide) (by decide) (by decide) rfl

theorem boxFiles_unread : boxFiles.read "/d/b" = .error .notFound := by
  have hway : System.names "/d/b" = ([[], "d", "b"] : Place) := by decide
  have hstart : System.start "/d/b" boxFiles.workingDirectory = [] := by decide
  have hbox : (boxFiles.root.at? []).bind (·.child? "d") = some box := rfl
  have hown : ∀ target, box ≠ .link target := by simp [box]
  have hlink : (boxFiles.root.at? ["d"]).bind (·.child? "b") = some (.link "nowhere") := rfl
  have hnone : (boxFiles.root.at? ["d"]).bind (·.child? "nowhere") = none := rfl
  have hresolve : boxFiles.resolve "/d/b" = .error .notFound := by
    rw [System.resolve, if_neg (by decide), if_neg (by decide), if_neg (by decide), hway, hstart,
      System.follow_stay rfl (.inl rfl),
      System.follow_child rfl (by decide) (by decide) hbox hown]
    refine (System.follow_link rfl (by decide) (by decide) hlink).trans ?_
    exact System.follow_missing rfl (by decide) (by decide) hnone
  rw [System.read, System.lookup, hresolve]
  rfl

theorem box_upload_stops : Url.parse (ofEndpoint shelf).base = .ok shelfUrl ∧ shelfUrl.isWeb = true ∧
    ∃ m, IsPut (ofEndpoint shelf) boxFiles "bucket" "key" ⟨["a"], "/d/a"⟩ m ∧
      (ofEndpoint shelf).upload Transport.scripted boxFiles "/d" "s3://bucket/key"
          ⟨[⟨204, []⟩, ⟨200, []⟩], []⟩ =
        (.error (.io "/d/b" .notFound), ⟨[⟨200, []⟩], [m]⟩) := by
  have haddress : splitRemote? "s3://bucket/key" = some ("bucket", "key") := by decide
  have hsource : isRemote (shown "/d") = false := by rw [shown_encode]; decide
  obtain ⟨m, put⟩ : ∃ m, IsPut (ofEndpoint shelf) boxFiles "bucket" "key" ⟨["a"], "/d/a"⟩ m :=
    exists_isPut shelf_parse shelfUrl_isWeb boxFiles_read
  have stored : Stores Transport.scripted (ofEndpoint shelf) boxFiles "bucket" "key"
      [⟨["a"], "/d/a"⟩] [⟨204, []⟩, ⟨200, []⟩] [m] [⟨200, []⟩] := .cons put rfl (by decide) .nil
  have hup : Uploads Transport.scripted (ofEndpoint shelf) boxFiles "/d" "s3://bucket/key" _ _ _ _ :=
    .put haddress hsource boxFiles_list (.unread stored boxFiles_unread)
  refine ⟨shelf_parse, shelfUrl_isWeb, m, put, ?_⟩
  exact ((upload_puts_files shelf_parse shelfUrl_isWeb boxFiles _ _ _).1 _ _).2 ⟨_, _, hup, rfl⟩

end ObjectStore

end Dispatch.Http
