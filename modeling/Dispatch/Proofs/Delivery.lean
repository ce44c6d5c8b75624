import Dispatch.Http.Collaborators
import Dispatch.Proofs.Contents
import Dispatch.Proofs.ObjectUploads
import Dispatch.Proofs.Payload
import Dispatch.Proofs.Scripts

namespace Dispatch

open Activity Storage File

namespace Http.ObjectStore

variable {τ : Type} {t : Transport τ} {store : ObjectStore} {fs : System} {path : Raw} {uri v : String}

theorem listFiles_file {name : Raw} (hfile : fs.isFile path = true)
    (hname : Path.fileName? path = some name) : listFiles fs path = .ok [⟨[name], path⟩] := by
  obtain ⟨content, hn⟩ := System.lookup_of_isFile hfile
  simp [listFiles, listFilesIn, hn, hname, Node.isDirectory]

theorem isWeb_of_send {m : Message} {r : Response} {l l' : Link τ} (h : send t m l = (.ok r, l')) :
    m.url.isWeb = true := by
  cases hweb : m.url.isWeb with
  | true => rfl
  | false =>
      rw [send, if_neg (by simp [hweb])] at h
      cases h

theorem objectUrl_ok {bucket key : String} {u : Url} (h : store.objectUrl bucket key = .ok u) :
    ∃ b, Url.parse store.base = .ok b ∧ b.isWeb = u.isWeb := by
  rw [objectUrl] at h
  cases hb : Url.parse store.base with
  | error e =>
      rw [hb] at h
      cases h
  | ok b =>
      refine ⟨b, rfl, ?_⟩
      cases hpath : b.path with
      | text s =>
          simp only [hb, Url.extend?, hpath] at h
          cases h
      | segments ss =>
          simp only [hb, Url.extend?, hpath] at h
          cases h
          rfl

theorem isWeb_of_putObject {bucket key : String} {content : List UInt8} {l l' : Link τ} {r : Unit}
    (h : store.putObject t bucket key content l = (.ok r, l')) :
    ∃ b, Url.parse store.base = .ok b ∧ b.isWeb = true := by
  rw [putObject] at h
  obtain ⟨u, l₁, hu, h⟩ := bind_eq_ok h
  obtain ⟨response, l₂, hsend, -⟩ := bind_eq_ok h
  cases hurl : store.objectUrl bucket key with
  | error e =>
      rw [hurl] at hu
      cases hu
  | ok u' =>
      rw [hurl] at hu
      cases hu
      obtain ⟨b, hb, hweb⟩ := objectUrl_ok hurl
      exact ⟨b, hb, hweb.trans (isWeb_of_send hsend)⟩

theorem isWeb_of_upload {f : Listed} {files : List Listed} {l l' : Link τ}
    (hlist : listFiles fs path = .ok (f :: files)) (h : store.upload t fs path uri l = (.ok v, l')) :
    ∃ b, Url.parse store.base = .ok b ∧ b.isWeb = true := by
  cases haddress : splitRemote? uri with
  | none =>
      rw [ObjectStore.upload, haddress] at h
      cases h
  | some p =>
      obtain ⟨bucket, leading⟩ := p
      cases hr : isRemote (shown path) with
      | true =>
          rw [ObjectStore.upload, haddress] at h
          simp only [hr, if_true] at h
          cases h
      | false =>
          rw [upload_eq_putFiles haddress hr hlist] at h
          obtain ⟨_, l₁, hputs, -⟩ := bind_eq_ok h
          rw [ObjectStore.putFiles] at hputs
          obtain ⟨content, l₂, -, hputs⟩ := bind_eq_ok hputs
          obtain ⟨_, l₃, hput, -⟩ := bind_eq_ok hputs
          exact isWeb_of_putObject hput

theorem upload_file {f : Listed} {l l' : Link τ} (hlist : listFiles fs path = .ok [f])
    (h : store.upload t fs path uri l = (.ok v, l')) :
    v = uri ∧ ∃ b bucket leading m, Url.parse store.base = .ok b ∧ b.isWeb = true ∧
      splitRemote? uri = some (bucket, leading) ∧ IsPut store fs bucket leading f m ∧
      l'.sent = l.sent ++ [m] := by
  obtain ⟨b, hb, hweb⟩ := isWeb_of_upload hlist h
  obtain ⟨ms, s, hu, rfl⟩ := (upload_eq_iff hb hweb).1 h
  obtain ⟨hv, -, bucket, leading, files, haddress, hfiles, hall⟩ := hu.ok
  obtain rfl : [f] = files := Except.ok.inj (hlist.symm.trans hfiles)
  cases hall.puts with
  | cons put rest =>
      cases rest
      exact ⟨hv, b, bucket, leading, _, hb, hweb, haddress, put, rfl⟩

end Http.ObjectStore

/-- A script that is a file of its own is run under the name of the file. -/
theorem Program.resolve_file {fs : System} {s : ScriptSource} {program : Program}
    (hr : isRemote s.source = false) (hfile : fs.isFile s.source = true)
    (hp : Program.resolve fs s = .ok program) : ∃ interpreter,
      Path.fileName? s.source = some (program.script : Raw) ∧
      Program.interpreter program.script s.tag = .ok interpreter ∧
      program.entrypoint = [interpreter, Program.mountPoint ++ "/" ++ program.script] := by
  obtain ⟨i, hname, hrun, hentry⟩ := Program.resolve_eq_ok_iff.1 hp
  obtain ⟨source, given, tag⟩ := s
  cases hname with
  | given_remote hr' => simp [hr] at hr'
  | given_directory _ hd => simp [System.not_isDirectory_of_isFile hfile] at hd
  | file _ _ _ hn => exact ⟨i, Path.fileName?_encode_iff.2 ⟨_, rfl, hn⟩, hrun.interpreter, hentry⟩
  | address hr' => simp [hr] at hr'

theorem Stows.ships {source : ScriptSource} {job : String} {known : Option String} {t : List Event}
    {x : Except Halt String} (hr : isRemote source.source = false)
    (h : Stows source.source [job, Program.channelName] known t x) : Ships job source known t x := by
  cases h with
  | unlocated hb => exact .unlocated hr hb
  | uploaded hb reply =>
      cases reply with
      | error e => exact .refused hr hb e
      | ok address => exact .uploaded hr hb address

theorem Adjusts.ships {source : ScriptSource} {fs : System} {program : Program} {plan : Plan}
    {known : Option String} {t : List Event} {r : Except Halt Plan}
    (hp : Program.resolve fs source = .ok program) (hr : isRemote source.source = false)
    (h : Adjusts (source.adjustment fs) plan known t r) : ∃ x, Ships plan.jobName source known t x ∧
      r = x.map fun address => { plan with
        inputs := plan.inputs ++ [.descriptor (ScriptSource.channel address)]
        entrypoint := some program.entrypoint } := by
  simp only [ScriptSource.adjustment, hp, hr, Bool.false_eq_true, if_false] at h
  cases h with
  | consult h =>
      cases h with
      | @ship _ _ _ _ _ t x u r hs h =>
          cases x with
          | error e =>
              cases h
              rw [List.append_nil]
              exact ⟨_, hs.ships hr, rfl⟩
          | ok address =>
              cases h with
              | edit h =>
                  cases h
                  rw [List.append_nil]
                  exact ⟨_, hs.ships hr, rfl⟩

section Shipping

variable {source : ScriptSource} {fs : System} {program : Program} {o : RunOptions} {name : String}
  {known : Option String} {t : List Event} {r : Except Halt Job}
  (hp : Program.resolve fs source = .ok program) (hr : isRemote source.source = false)

include hp hr

theorem Starts.ships {c : Configuration} (h : Starts c o (source.adjustment fs) name known t r) :
    (t = [] ∧ ∃ e, r = .error e) ∨ ∃ u v x, t = u ++ v ∧ Ships name source known u x ∧
      ∀ e, x = .error e → v = [] ∧ ∃ e, r = .error e := by
  cases h with
  | constrained hc => exact .inl ⟨rfl, _, rfl⟩
  | unadjusted ho ha =>
      obtain ⟨x, hS, -⟩ := ha.ships hp hr
      exact .inr ⟨t, [], x, (List.append_nil t).symm, hS, fun _ _ => ⟨rfl, _, rfl⟩⟩
  | launched ho ha hl =>
      obtain ⟨x, hS, hx⟩ := ha.ships hp hr
      refine .inr ⟨_, _, x, rfl, hS, ?_⟩
      rintro e rfl
      cases hx

/-- A run does nothing before it ships its script, and nothing more if that fails. -/
theorem Runs.ships {p p' : Processor} (h : Runs p o (source.adjustment fs) name known t r p') :
    t = [] ∨ ∃ u v x, t = u ++ v ∧ Ships name source known u x ∧ ∀ e, x = .error e → v = [] := by
  cases h with
  | unstarted hs | left hs hw =>
      rcases hs.ships hp hr with ⟨ht, -⟩ | ⟨u, v, x, ht, hS, hx⟩
      · exact .inl ht
      · exact .inr ⟨u, v, x, ht, hS, fun e he => (hx e he).1⟩
  | followed hs hw hf =>
      rcases hs.ships hp hr with ⟨-, e, he⟩ | ⟨u, v, x, rfl, hS, hx⟩
      · cases he
      · refine .inr ⟨u, _, x, List.append_assoc .., hS, fun e he => ?_⟩
        obtain ⟨-, e, he⟩ := hx e he
        cases he

end Shipping

theorem Settles.getLast? {job name : String} {known : Option String} {n : Nat}
    {ds ds' : List InputDescriptor} {d : InputDescriptor} {t : List Event}
    (h : Settles job known n (ds ++ [d]) t (.ok ds')) (hname : d.name = some name)
    (hr : isRemote d.source = true) : ds'.getLast? = some d := by
  have hwholes {xs : List Sourced} (hxs : xs.map Sourced.input = ds ++ [d]) :
      (wholes n xs).getLast? = some d := by
    obtain ⟨front, back, rfl, -, hback⟩ := List.map_eq_append_iff.1 hxs
    obtain ⟨x, rfl, rfl⟩ := List.map_eq_singleton_iff.1 hback
    have hwhole (k : Nat) : x.whole k = x.input := by
      rw [Sourced.whole, InputDescriptor.finalName, hname, x.own hr, Option.getD_some, ← hname]
    rw [wholes, List.zipIdx_append, List.map_append]
    simp [hwhole]
  cases h with
  | unasked xs hxs hr => exact hwholes hxs
  | uploaded xs hxs hl hb => exact hwholes hxs

theorem Completes.last_input {plan : Plan} {known : Option String} {t : List Event}
    {job : NormalizedJob} {inputs : List (Channel InputDescriptor)} {d : InputDescriptor} {name : String}
    (h : Completes plan known t (.ok job)) (hplan : plan.inputs = inputs ++ [.descriptor d])
    (hname : d.name = some name) (hr : isRemote d.source = true) : job.inputs.getLast? = some d := by
  cases h with
  | @whole ds t settled u outputs hds hi ho =>
      obtain ⟨front, back, rfl, -, hback⟩ := List.map_eq_append_iff.1 (hds.symm.trans hplan)
      obtain ⟨x, rfl, hx⟩ := List.map_eq_singleton_iff.1 hback
      cases hx
      exact hi.getLast? hname hr

theorem Completes.entrypoint {plan : Plan} {known : Option String} {t : List Event} {job : NormalizedJob}
    (h : Completes plan known t (.ok job)) : job.entrypoint = plan.entrypoint := by
  cases h with
  | whole hds hi ho => rfl

/-- Where a job is created, the script was uploaded first, and the address it went to is mounted last. -/
theorem Runs.mounts {source : ScriptSource} {fs : System} {program : Program} {p p' : Processor}
    {o : RunOptions} {name : String} {known : Option String} {t : List Event} {r : Except Halt Job}
    {q : Request} {reply : (Call.create q).Reply}
    (h : Runs p o (source.adjustment fs) name known t r p') (hq : .called (.create q) reply ∈ t)
    (hp : Program.resolve fs source = .ok program) (hr : isRemote source.source = false)
    (haddress : ∀ earlier uri v later,
      t = earlier ++ .called (.upload source.source uri) (.ok v) :: later → destinations earlier = [] →
        v = uri) :
    ∃ earlier uri later mount, t = earlier ++ .called (.upload source.source uri) (.ok uri) :: later ∧
      destinations earlier = [] ∧ q.inputs.getLast? = some mount ∧
      mount.descriptor = ScriptSource.channel uri ∧
      q.application.entrypoint = some program.entrypoint := by
  obtain ⟨before, after, htrace, hC⟩ := h.creation hq
  cases hC with
  | @built t₁ plan u₁ job ha hc hb =>
      obtain ⟨x, hS, hx⟩ := ha.ships hp hr
      cases hS with
      | remote hr' => exact absurd hr' (by simp [hr])
      | unlocated | refused => cases hx
      | @uploaded earlier b hr' hl address =>
          cases hx
          have hnone := hl.destinations_nil
          simp only [List.append_assoc, List.singleton_append] at htrace
          obtain rfl := haddress _ _ _ _ htrace hnone
          have hlast := hc.last_input rfl rfl (isRemote_remoteUri b _)
          have hq := Request.holds_of_build hb
          rw [hq.inputs, List.getLast?_map] at hlast
          obtain ⟨mount, hmount, hd⟩ := Option.map_eq_some_iff.1 hlast
          refine ⟨earlier, _, _, mount, htrace, hnone, hmount, hd, ?_⟩
          rw [← hq.entrypoint, hc.entrypoint]
          rfl

theorem first_upload_unique {t u v w : List Event} {path path' uri uri' : String}
    {reply : (Call.upload path uri).Reply} {reply' : (Call.upload path' uri').Reply}
    (h : t ++ .called (.upload path uri) reply :: v = u ++ .called (.upload path' uri') reply' :: w)
    (ht : destinations t = []) (hu : destinations u = []) :
    t = u ∧ Event.called (.upload path uri) reply = .called (.upload path' uri') reply' := by
  have htail {e : Event} {t : List Event} (h : destinations (e :: t) = []) : destinations t = [] :=
    (List.append_eq_nil_iff.1 (destinations_append [e] t ▸ h)).2
  -- along the first trace: an upload on one side before the other would be among its destinations
  induction t generalizing u with
  | nil =>
      cases u with
      | nil => exact ⟨rfl, (List.cons.inj h).1⟩
      | cons e u =>
          obtain ⟨rfl, -⟩ := List.cons.inj h
          simp [destinations] at hu
  | cons e t ih =>
      cases u with
      | nil =>
          obtain ⟨rfl, -⟩ := List.cons.inj h
          simp [destinations] at ht
      | cons e' u =>
          obtain ⟨rfl, hrest⟩ := List.cons.inj h
          obtain ⟨rfl, heq⟩ := ih hrest (htail ht) (htail hu)
          exact ⟨rfl, heq⟩

theorem Ships.first_upload {job path uri a : String} {source : ScriptSource} {known : Option String}
    {t u earlier later : List Event} {x : Except Halt String} (h : Ships job source known t x)
    (hr : isRemote source.source = false) (hx : ∀ e, x = .error e → u = [])
    (heq : t ++ u = earlier ++ .called (.upload path uri) (.ok a) :: later)
    (hnone : destinations earlier = []) : ∃ b, uri = remoteUri b [job, Program.channelName] := by
  cases h with
  | remote hr' => exact absurd hr' (by simp [hr])
  | unlocated hr hb =>
      rw [hx _ rfl, List.append_nil] at heq
      have hdestinations := hb.destinations_nil
      rw [heq, destinations_append] at hdestinations
      simp [destinations] at hdestinations
  | refused hr hb e =>
      rw [List.append_assoc, List.singleton_append] at heq
      obtain ⟨-, hevent⟩ := first_upload_unique heq hb.destinations_nil hnone
      cases hevent
  | @uploaded _ b hr hb address =>
      rw [List.append_assoc, List.singleton_append] at heq
      obtain ⟨-, hevent⟩ := first_upload_unique heq hb.destinations_nil hnone
      cases hevent
      exact ⟨_, rfl⟩

namespace Http

open ObjectStore

variable {τ : Type}

/-- Uploads go to an object store, whatever becomes of other calls. -/
def UploadsTo (cs : Collaborators (World τ)) (t : Transport τ) (store : ObjectStore) (fs : System) : Prop :=
  ∀ path uri w, cs.answer (.upload path uri) w = World.carry (store.upload t fs path uri) w

/-- The message puts the file at `path` under the URL of an object. -/
structure ObjectStore.Writes (store : ObjectStore) (fs : System) (path : Raw) (bucket key : String)
    (m : Message) : Prop where
  method : m.method = .put
  content : fs.read path = .ok m.body
  address : store.objectUrl bucket key = .ok m.url

/-- The upload that follows `earlier` sends one message, which puts the file at `path` under the URL of the
object called `name`, below the key that the address has. The URL says just the bucket and that key if
nothing of them is dropped on the way, and only then. -/
def Stored (cs : Collaborators (World τ)) (store : ObjectStore) (fs : System) (w : World τ)
    (earlier : List Event) (path uri name : String) : Prop :=
  ∃ b bucket leading m, Url.parse store.base = .ok b ∧ splitRemote? uri = some (bucket, leading) ∧
    store.Writes fs path bucket (leading ++ "/" ++ name) m ∧
    (cs.replay w (earlier ++ [.called (.upload path uri) (.ok uri)])).link.sent =
      (cs.replay w earlier).link.sent ++ [m] ∧
    (IsAddress b bucket (leading ++ "/" ++ name) m.url ↔ Addressable bucket (leading ++ "/" ++ name))

theorem ObjectStore.IsPut.writes {store : ObjectStore} {fs : System} {path : Raw}
    {bucket leading name : String} {m : Message} (hleading : leading ≠ "")
    (put : IsPut store fs bucket leading ⟨[(name : Raw)], path⟩ m) :
    store.Writes fs path bucket (leading ++ "/" ++ name) m := by
  have haddress := put.address
  rw [objectKey_encode hleading] at haddress
  exact ⟨by rw [put.bare], put.content, haddress⟩

variable {t : Transport τ} {store : ObjectStore} {fs : System} {cs : Collaborators (World τ)}

theorem UploadsTo.stored (hcs : UploadsTo cs t store fs) {w : World τ} {earlier later : List Event}
    {path uri v name : String} (hlist : listFiles fs path = .ok [⟨[(name : Raw)], path⟩])
    (hkey : ∀ bucket leading, splitRemote? uri = some (bucket, leading) → leading ≠ "")
    (hanswers : cs.Answers w (earlier ++ .called (.upload path uri) (.ok v) :: later)) :
    v = uri ∧ Stored cs store fs w earlier path uri name := by
  obtain ⟨-, hreply, -⟩ := (cs.answers_append _ _ _).1 hanswers
  have hcall := hcs path uri (cs.replay w earlier)
  rw [World.carry] at hcall
  rcases hup : store.upload t fs path uri (cs.replay w earlier).link with ⟨r, l⟩
  rw [hup] at hcall
  rw [hcall] at hreply
  cases hreply
  obtain ⟨rfl, b, bucket, leading, m, hb, hweb, haddress, put, hsent⟩ := upload_file hlist hup
  have hw := put.writes (hkey _ _ haddress)
  have hplace := isAddress_iff hb hweb (splitRemote?_bucket haddress) hw.address
  refine ⟨rfl, b, bucket, leading, m, hb, haddress, hw, ?_, hplace⟩
  rw [cs.replay_append, ← hsent]
  exact congrArg (·.2.link.sent) hcall

/-- A script that is a file of its own is uploaded first, as one object under its own name; where a job is
created, that name below the mount is what the container runs, and what is mounted is the address the
script was uploaded to. That is where the object is exactly if its name and key are such that nothing of
them is dropped in a URL. -/
theorem script_runs_where_it_is_stored (hcs : UploadsTo cs t store fs) {source : String}
    (hr : isRemote source = false) (hfile : fs.isFile source = true) {p : ScriptProcessor}
    {given : Option String} {program : Program}
    (hp : Program.resolve fs { source, scriptName := given, tag := p.tag } = .ok program) (rounds : Nat)
    (o : RunOptions) (s : Shared (World τ)) :
    ∃ (name interpreter : String) (w : World τ) (trace : List Event),
      Path.fileName? source = some (name : Raw) ∧ Program.interpreter name p.tag = .ok interpreter ∧
      Effect cs { s with world := w } trace (p.run cs fs rounds source given o s).2 ∧
      (∀ earlier uri v later, trace = earlier ++ .called (.upload source uri) (.ok v) :: later →
        destinations earlier = [] → v = uri ∧ Stored cs store fs w earlier source uri name) ∧
      ∀ q reply, .called (.create q) reply ∈ trace → ∃ earlier later mount,
        trace = earlier ++ .called (.upload source mount.uri) (.ok mount.uri) :: later ∧
        destinations earlier = [] ∧ q.inputs.getLast? = some mount ∧
        mount.name = some Program.channelName ∧
        q.application.entrypoint = some [interpreter, mount.localPath ++ "/" ++ name] := by
  obtain ⟨interpreter, hname, hi, hentry⟩ :=
    Program.resolve_file (s := ⟨source, given, p.tag⟩) hr hfile hp
  obtain ⟨w, trace, p', he, -, hR⟩ := p.run_runs cs fs rounds source given o s
  have hlist := listFiles_file hfile hname
  have hstored : ∀ earlier uri v later,
      trace = earlier ++ .called (.upload source uri) (.ok v) :: later → destinations earlier = [] →
        v = uri ∧ Stored cs store fs w earlier source uri program.script := by
    rintro earlier uri v later rfl hnone
    apply hcs.stored hlist _ he.answers
    intro bucket leading haddress
    -- the first upload is that of the script, whose address ends in a name and so has a key
    rcases hR.ships hp hr with hnil | ⟨u, v, x, heq, hS, hx⟩
    · simp at hnil
    · obtain ⟨b, rfl⟩ := hS.first_upload hr hx heq.symm hnone
      exact @key_of_remoteUri b Program.channelName bucket leading [_] 's' (by decide) (by decide) haddress
  refine ⟨program.script, interpreter, w, trace, hname, hi, he, hstored, ?_⟩
  intro q reply hq
  obtain ⟨earlier, uri, later, mount, htrace, hnone, hmount, hd, hrun⟩ :=
    hR.mounts hq hp hr fun _ _ _ _ ht hnone => (hstored _ _ _ _ ht hnone).1
  obtain rfl : mount.uri = uri := congrArg (·.source) hd
  have hpath : mount.localPath = Program.mountPoint := congrArg (·.destination) hd
  exact ⟨earlier, later, mount, htrace, hnone, hmount, congrArg (·.name) hd, by rw [hrun, hentry, hpath]⟩

section Samples

def sampleFiles : System :=
  ⟨.directory [("run.py", .link "main.py"), ("main.py", .file [35]), ("a\tb.py", .file [36])], []⟩

def agreeable : Collaborators (World (List Response)) where
  clock w := (w.time, w)
  answer
    | .defaultBucket => fun w => (.ok "bucket", w)
    | .upload path uri => World.carry ((ofEndpoint shelf).upload Transport.scripted sampleFiles path uri)
    | .create _ => fun w => (.ok (), w)
    | .describe _ | .stop _ | .logs _ _ => fun w => (.error (.unreachable "no job"), w)

def waitless (job : String) : RunOptions := { jobName := some job, wait := false }

def beforeRun : Shared (World (List Response)) := { world := ⟨default, ⟨[⟨200, []⟩], []⟩⟩ }

def shippedRun (source uri : String) (m : Message) : Shared (World (List Response)) where
  world := ⟨default, ⟨[], [m]⟩⟩
  bucket := some "bucket"
  trace := [.called .defaultBucket (.ok "bucket"), .called (.upload source uri) (.ok uri)]

theorem sampleFiles_follow {links : Nat} {name : Raw} {content : List UInt8}
    (hname : name ≠ [] ∧ name ≠ [dot] ∧ name ≠ [dot, dot]) (hsize : name.length ≤ System.maxName)
    (hchild : sampleFiles.root.child? name = some (.file content)) :
    System.follow sampleFiles.root links [] [name] = .ok [name] := by
  have hroot : (sampleFiles.root.at? []).bind (·.child? name) = some (.file content) := hchild
  rw [System.follow_child rfl hname hsize hroot fun _ h => nomatch h]
  exact System.follow_nil ..

theorem run_lookup : sampleFiles.lookup "run.py" = .ok (.file [35]) := by
  have hway : System.names "run.py" = (["run.py"] : Place) := by decide
  have hlink : System.names "main.py" = (["main.py"] : Place) := by decide
  have hresolve : sampleFiles.resolve "run.py" = .ok (["main.py"] : Place) := by
    rw [System.resolve, if_neg (by decide), if_neg (by decide), if_neg (by decide), hway]
    refine (System.follow_link rfl (by decide) (by decide) rfl).trans ?_
    rw [hlink]
    exact sampleFiles_follow (by decide) (by decide) rfl
  rw [System.lookup, hresolve]
  rfl

theorem tab_lookup : sampleFiles.lookup "a\tb.py" = .ok (.file [36]) := by
  have hway : System.names "a\tb.py" = (["a\tb.py"] : Place) := by decide
  have hresolve : sampleFiles.resolve "a\tb.py" = .ok (["a\tb.py"] : Place) := by
    rw [System.resolve, if_neg (by decide), if_neg (by decide), if_neg (by decide), hway]
    exact sampleFiles_follow (by decide) (by decide) rfl
  rw [System.lookup, hresolve]
  rfl

theorem isFile_of_lookup {path : Raw} {content : List UInt8}
    (h : sampleFiles.lookup path = .ok (.file content)) : sampleFiles.isFile path = true := by
  rw [System.isFile, h]
  rfl

theorem along_shipped {source uri : String} {m : Message}
    (hreplay : agreeable.replay beforeRun.world (shippedRun source uri m).trace =
      (shippedRun source uri m).world) :
    beforeRun.along agreeable (shippedRun source uri m).trace = shippedRun source uri m := by
  rw [Shared.along, hreplay]
  rfl

section Run

variable {source name job uri bucket leading : String} {content : List UInt8} {program : Program}

theorem resolve_of_lookup {interpreter : String} (hsource : isRemote source = false)
    (hlookup : sampleFiles.lookup source = .ok (.file content))
    (hname : Path.fileName? source = some (name : Raw))
    (hrun : Program.interpreter name defaultTag = .ok interpreter) :
    Program.resolve sampleFiles { source, tag := defaultTag } =
      .ok { script := name, entrypoint := [interpreter, Program.mountPoint ++ "/" ++ name] } := by
  have hfile := isFile_of_lookup hlookup
  have hscript : Program.scriptName sampleFiles source none = .ok name := by
    simp [Program.scriptName, hsource, System.not_isDirectory_of_isFile hfile, hname, hfile, shown_encode]
  rw [Program.resolve, hscript]
  simp only [bind, Except.bind, hrun]
  rfl

variable (hsource : isRemote source = false) (hlookup : sampleFiles.lookup source = .ok (.file content))
  (hname : Path.fileName? source = some (name : Raw)) (haddress : splitRemote? uri = some (bucket, leading))

include hsource hlookup hname haddress

theorem sample_upload : ∃ m, IsPut (ofEndpoint shelf) sampleFiles bucket leading ⟨[(name : Raw)], source⟩ m ∧
    (ofEndpoint shelf).upload Transport.scripted sampleFiles source uri ⟨[⟨200, []⟩], []⟩ =
      (.ok uri, ⟨[], [m]⟩) := by
  have hread : sampleFiles.read source = .ok content := by
    rw [System.read, hlookup]
    rfl
  have hfile := isFile_of_lookup hlookup
  obtain ⟨m, put⟩ : ∃ m,
      IsPut (ofEndpoint shelf) sampleFiles bucket leading ⟨[(name : Raw)], source⟩ m :=
    exists_isPut shelf_parse shelfUrl_isWeb hread
  have hup : Uploads Transport.scripted (ofEndpoint shelf) sampleFiles source uri
      [⟨200, []⟩] [m] [] (.ok uri) :=
    .put haddress (by rwa [shown_encode]) (listFiles_file hfile hname)
      (.done (.cons put rfl (by decide) .nil))
  exact ⟨m, put, hup.upload shelf_parse shelfUrl_isWeb []⟩

theorem sample_ships (huri : remoteUri "bucket" [job, Program.channelName] = uri)
    (hp : Program.resolve sampleFiles { source, tag := defaultTag } = .ok program) :
    ∃ m, IsPut (ofEndpoint shelf) sampleFiles bucket leading ⟨[(name : Raw)], source⟩ m ∧
      sampleProcessor.run agreeable sampleFiles 0 source none (waitless job) beforeRun =
        sampleProcessor.adopt ((sampleProcessor.plain program).run agreeable 0
          ((waitless job).withInput (.descriptor (ScriptSource.channel uri))) (shippedRun source uri m)) := by
  obtain ⟨m, put, hup⟩ := sample_upload hsource hlookup hname haddress
  have hcall : agreeable.answer (.upload source uri) beforeRun.world = (.ok uri, ⟨default, ⟨[], [m]⟩⟩) := by
    have hlink : beforeRun.world.link = ⟨[⟨200, []⟩], []⟩ := rfl
    change World.carry ((ofEndpoint shelf).upload Transport.scripted sampleFiles source uri)
      beforeRun.world = _
    rw [World.carry, hlink, hup]
    rfl
  have hreply : (agreeable.answer (.upload source uri) beforeRun.world).1 = .ok uri := by rw [hcall]
  have hinputs : ∀ c ∈ (waitless job).inputs, c.isDescriptor = true := nofun
  obtain ⟨chosen, w, t, s', r, hchosen, ht, hS, -, hok⟩ :=
    sampleProcessor.run_shipped agreeable 0 (o := waitless job) hinputs hp hsource beforeRun
  cases hchosen
  obtain ⟨hanswers, hs⟩ := (effect_iff agreeable).1 ht
  subst huri
  cases hS with
  | remote hr => exact absurd hr (by simp [hsource])
  | unlocated hr hb =>
      cases hb
      cases hanswers.1
  | refused hr hb e =>
      cases hb
      obtain ⟨hbucket, hupload, -⟩ := hanswers
      cases hbucket
      cases hupload.trans hreply
  | uploaded hr hb address =>
      cases hb
      obtain ⟨hbucket, hupload, -⟩ := hanswers
      cases hbucket
      cases hupload.trans hreply
      have hworld : s' = shippedRun source (remoteUri "bucket" [job, Program.channelName]) m :=
        hs.trans (along_shipped (congrArg (·.2) hcall))
      refine ⟨m, put, ?_⟩
      rw [(hok _ rfl).2, hworld]
      rfl

end Run

theorem run_resolve : Program.resolve sampleFiles { source := "run.py", tag := defaultTag } =
    .ok sampleProgram :=
  resolve_of_lookup (by decide) run_lookup (by decide) (by decide)

/-- The run puts one object by `m`, and creates its job by `q`. -/
structure Delivers (source job uri : String) (q : Request) (m : Message) : Prop where
  trace : (sampleProcessor.run agreeable sampleFiles 0 source none (waitless job) beforeRun).2.trace =
    [.called .defaultBucket (.ok "bucket"), .called (.upload source uri) (.ok uri),
      .called (.create q) (.ok ())]
  sent : (sampleProcessor.run agreeable sampleFiles 0 source none (waitless job) beforeRun).2.world.link.sent =
    [m]

theorem linkedScript_delivers : ∃ q m, Delivers "run.py" "job" "s3://bucket/job/source" q m := by
  have haddress : splitRemote? "s3://bucket/job/source" = some ("bucket", "job/source") := by decide
  have hname : Path.fileName? "run.py" = some ("run.py" : Raw) := by decide
  have huri : remoteUri "bucket" ["job", Program.channelName] = "s3://bucket/job/source" := by decide
  obtain ⟨m, -, hrun⟩ := sample_ships (by decide) run_lookup hname haddress huri run_resolve
  exact ⟨_, m, (congrArg (·.2.trace) hrun).trans rfl, congrArg (·.2.world.link.sent) hrun⟩

theorem linkedScript_runs_where_it_is_stored :
    UploadsTo agreeable Transport.scripted (ofEndpoint shelf) sampleFiles ∧ isRemote "run.py" = false ∧
      sampleFiles.isFile "run.py" = true ∧
      Program.resolve sampleFiles { source := "run.py", tag := defaultTag } = .ok sampleProgram ∧
      ∃ w q m mount interpreter, Stored agreeable (ofEndpoint shelf) sampleFiles w
          [.called .defaultBucket (.ok "bucket")] "run.py" "s3://bucket/job/source" "run.py" ∧
        Delivers "run.py" "job" "s3://bucket/job/source" q m ∧ q.inputs.getLast? = some mount ∧
        q.application.entrypoint = some [interpreter, mount.localPath ++ "/" ++ "run.py"] ∧
        Addressable "bucket" ("job/source" ++ "/" ++ "run.py") := by
  have hcs : UploadsTo agreeable Transport.scripted (ofEndpoint shelf) sampleFiles := fun _ _ _ => rfl
  have hr : isRemote "run.py" = false := by decide
  have hfile := isFile_of_lookup run_lookup
  obtain ⟨name, interpreter, w, trace, hname, -, he, hstored, hcreated⟩ := script_runs_where_it_is_stored
    hcs hr hfile (p := sampleProcessor) run_resolve 0 (waitless "job") beforeRun
  obtain rfl : name = "run.py" := by
    rw [← String.toList_inj]
    exact Text.Utf8.encode_injective (Option.some.inj (hname.symm.trans (by decide)))
  obtain ⟨q, m, hq⟩ := linkedScript_delivers
  obtain rfl : trace = _ := he.trace.symm.trans hq.trace
  obtain ⟨earlier, later, mount, -, -, hlast, -, hentry⟩ := hcreated q (.ok ()) (by simp)
  exact ⟨hcs, hr, hfile, run_resolve, w, q, m, mount, interpreter, (hstored [_] _ _ [_] rfl rfl).2, hq,
    hlast, hentry, addressable_of_all (by decide) (by decide) (by decide)⟩

/-- The run succeeds, but what the container runs is not what was put. -/
def Misplaced (source job place : String) : Prop := ∃ uri q m mount bucket leading,
  Delivers source job uri q m ∧ q.inputs.getLast? = some mount ∧
    splitRemote? mount.uri = some (bucket, leading) ∧
    q.application.entrypoint = some ["python3", mount.localPath ++ "/" ++ source] ∧
    m.url.target = place.toList ∧ ¬ IsAddress shelfUrl bucket (leading ++ "/" ++ source) m.url

theorem put_elsewhere {path : Raw} {uri bucket leading name place : String} {m : Message}
    (haddress : splitRemote? uri = some (bucket, leading)) (hleading : leading ≠ "")
    (put : IsPut (ofEndpoint shelf) sampleFiles bucket leading ⟨[(name : Raw)], path⟩ m)
    (hplace : ((ofEndpoint shelf).objectUrl bucket (leading ++ "/" ++ name)).map (·.target) = .ok place.toList)
    (hdropped : ¬ Addressable bucket (leading ++ "/" ++ name)) :
    m.url.target = place.toList ∧ ¬ IsAddress shelfUrl bucket (leading ++ "/" ++ name) m.url := by
  have hu := (put.writes hleading).address
  rw [isAddress_iff shelf_parse shelfUrl_isWeb (splitRemote?_bucket haddress) hu]
  rw [hu] at hplace
  exact ⟨Except.ok.inj hplace, hdropped⟩

theorem tab_misplaced : Misplaced "a\tb.py" "job" "http://svc.test/shelf/bucket/job/source/ab.py?sig=1" := by
  have haddress : splitRemote? "s3://bucket/job/source" = some ("bucket", "job/source") := by decide
  have hname : Path.fileName? "a\tb.py" = some ("a\tb.py" : Raw) := by decide
  have huri : remoteUri "bucket" ["job", Program.channelName] = "s3://bucket/job/source" := by decide
  have hrun : Program.interpreter "a\tb.py" defaultTag = .ok "python3" := by decide
  obtain ⟨m, put, hships⟩ := sample_ships (by decide) tab_lookup hname haddress huri
    (resolve_of_lookup (by decide) tab_lookup hname hrun)
  have hdropped : ¬ Addressable "bucket" ("job/source" ++ "/" ++ "a\tb.py") := fun ha =>
    absurd (ha.kept '\t' (by decide)) (by decide)
  exact ⟨_, _, m, _, _, _, ⟨(congrArg (·.2.trace) hships).trans rfl, congrArg (·.2.world.link.sent) hships⟩,
    rfl, haddress, rfl, put_elsewhere haddress (by decide) put (by decide +kernel) hdropped⟩

theorem dots_misplaced : Misplaced "run.py" ".." "http://svc.test/shelf/bucket/source/run.py?sig=1" := by
  have haddress : splitRemote? "s3://bucket/../source" = some ("bucket", "../source") := by decide
  have hname : Path.fileName? "run.py" = some ("run.py" : Raw) := by decide
  have huri : remoteUri "bucket" ["..", Program.channelName] = "s3://bucket/../source" := by decide
  obtain ⟨m, put, hships⟩ := sample_ships (by decide) run_lookup hname haddress huri run_resolve
  have hdropped : ¬ Addressable "bucket" ("../source" ++ "/" ++ "run.py") := fun ha =>
    absurd (ha.undotted ['.', '.'] (by decide)) (by decide)
  exact ⟨_, _, m, _, _, _, ⟨(congrArg (·.2.trace) hships).trans rfl, congrArg (·.2.world.link.sent) hships⟩,
    rfl, haddress, rfl, put_elsewhere haddress (by decide) put (by decide +kernel) hdropped⟩

/-- A tab in the name of a script is dropped on the way into a URL, and so is a double dot that is the name of
a job. -/
theorem scripts_are_misplaced :
    Misplaced "a\tb.py" "job" "http://svc.test/shelf/bucket/job/source/ab.py?sig=1" ∧
      Misplaced "run.py" ".." "http://svc.test/shelf/bucket/source/run.py?sig=1" :=
  ⟨tab_misplaced, dots_misplaced⟩

end Samples

end Http

end Dispatch
