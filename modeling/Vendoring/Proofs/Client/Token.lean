import Vendoring.Proofs.Client.Wire
import Vendoring.Proofs.Synchronise

/-!
# The token is in the requests and nowhere else

A token that can be sent makes a header, and that is all it does (`synchronise_keeps_token_apart`).
The requests of a run are those of its calls, each with the headers that the token makes. With any
other such token **the run makes the same calls, is answered the same, and ends with the same result
and the same tree**; so neither a report, nor a failure, nor a file can tell one from another. A
token that cannot be sent ends the run before it begins.

The two runs go in lockstep, call by call: a listing or a content is answered by the URL alone, and
the disk does not know of the requests.
-/

set_option autoImplicit false

namespace Vendoring

/-! ## The headers for a token -/

/-- Without the white space around it, the token has no character that a header cannot hold. -/
def IsSendable (token : Option String) : Prop :=
  ∀ t ∈ token, ∀ c ∈ (Text.trim t).toList, Header.canSend c = true

/-- The header for a token, if it is not blank. -/
def credential : Option String → List Header
  | some t => if Text.trim t = "" then [] else [⟨"authorization", "Bearer " ++ Text.trim t, true⟩]
  | none => []

/-- What goes along with every request: the token, if there is one, and who asks. -/
def headersFor (token : Option String) : List Header :=
  credential token ++ [⟨"user-agent", "ghidra-sync/0.1.0", false⟩]

theorem ofToken_cases (token : Option String) :
    IsSendable token ∧ Header.ofToken token = .ok (headersFor token) ∨
      ¬ IsSendable token ∧ Header.ofToken token = .error .invalidToken := by
  cases token with
  | none => exact .inl ⟨nofun, rfl⟩
  | some t =>
    have hsendable : IsSendable (some t) ↔ (Text.trim t).toList.all Header.canSend = true := by
      simp [IsSendable]
    rw [hsendable, headersFor, credential, Header.ofToken, Header.effectiveToken?, Option.bind_some]
    by_cases hblank : Text.trim t = ""
    · exact .inl ⟨by rw [hblank]; rfl, by rw [if_pos hblank, hblank]; rfl⟩
    · rw [if_neg (mt String.isEmpty_iff.1 hblank), if_neg hblank]
      dsimp only
      by_cases hall : (Text.trim t).toList.all Header.canSend = true
      · exact .inl ⟨hall, if_pos hall⟩
      · exact .inr ⟨hall, if_neg hall⟩

/-- A blank token can be sent, and is none. -/
theorem isSendable_of_blank {token : Option String} (h : ∀ t ∈ token, Text.trim t = "") :
    IsSendable token ∧ headersFor token = headersFor none := by
  constructor
  · intro t ht c hc
    rw [h t ht] at hc
    cases hc
  · cases token with
    | none => rfl
    | some t => rw [headersFor, credential, if_pos (h t rfl)]; rfl

/-- The request without the token. -/
def Request.withoutToken (request : Request) : Request :=
  { request with headers := request.headers.filter (·.name ≠ "authorization") }

theorem headersFor_without_token (token : Option String) :
    (headersFor token).filter (·.name ≠ "authorization") = headersFor none := by
  have hcredential : (credential token).filter (·.name ≠ "authorization") = [] := by
    cases token with
    | none => rfl
    | some t =>
      rw [credential]
      split <;> simp
  rw [headersFor, List.filter_append, hcredential]
  rfl

/-! ## The requests of calls -/

/-- The request that a call makes. -/
def Event.request? (headers : List Header) : Event → Option Request
  | listed url _ => some ⟨url, some "application/vnd.github+json", headers⟩
  | fetched url _ => some ⟨url, none, headers⟩
  | madeDirs _ _ | touched _ _ | wrote _ _ _ => none

/-- The requests of calls in order, those that can be made. -/
def requestsOf (canAsk : String → Bool) (headers : List Header) (events : List Event) :
    List Request :=
  (events.filterMap (Event.request? headers)).filter fun request => canAsk request.url

theorem requestsOf_append (canAsk : String → Bool) (headers : List Header)
    (events more : List Event) : requestsOf canAsk headers (events ++ more) =
      requestsOf canAsk headers events ++ requestsOf canAsk headers more := by
  rw [requestsOf, List.filterMap_append, List.filter_append]
  rfl

theorem requestsOf_without_token (canAsk : String → Bool) (token : Option String)
    (events : List Event) : (requestsOf canAsk (headersFor token) events).map Request.withoutToken =
      requestsOf canAsk (headersFor none) events := by
  have hrequest : ∀ e : Event, (e.request? (headersFor token)).map Request.withoutToken =
      e.request? (headersFor none) := by
    intro e
    cases e with
    | listed | fetched =>
      rw [Event.request?, Event.request?, Option.map_some, Request.withoutToken,
        headersFor_without_token]
    | madeDirs | touched | wrote => rfl
  have hurl : (fun request : Request => canAsk request.url) =
      (fun request => canAsk request.url) ∘ Request.withoutToken := rfl
  rw [requestsOf, hurl, ← List.filter_map, List.map_filterMap]
  simp only [hrequest]
  rfl

/-! ## A run with a token -/

/-- A tree of files beside a wire to somebody who answers by the URL alone. -/
abbrev Site := FileTree × Wire Unit

/-- The way to somebody who answers by the URL alone, if it can be asked for. -/
def Transport.toward (canAsk : String → Bool) (answer : String → Option Response) :
    Transport Site :=
  ((answering answer).recorded canAsk).besideTree

section

variable (canAsk : String → Bool) (answer : String → Option Response)

theorem send_toward (request : Request) (s : Site) :
    (Transport.toward canAsk answer).send request s =
      (if canAsk request.url then answer request.url else none,
        (s.1, ⟨(), s.2.sent ++ if canAsk request.url then [request] else []⟩)) := by
  show ((if canAsk request.url then _ else (none, s.2) : Option Response × Wire Unit).1,
    (s.1, (if canAsk request.url then _ else (none, s.2) : Option Response × Wire Unit).2)) = _
  split
  · rfl
  · rw [List.append_nil]

/-- The client at a site. -/
def Client.at (headers : List Header) : Client Site := ⟨.toward canAsk answer, headers⟩

variable (headers headers' : List Header) (planned : List Store.PlannedFault)

theorem requestsOf_singleton (e : Event) {request : Request}
    (h : e.request? headers = some request) :
    requestsOf canAsk headers [e] = if canAsk request.url then [request] else [] := by
  rw [requestsOf, List.filterMap_cons_some h, List.filter_cons]
  rfl

/-- **A call puts its request on the wire**, and nothing else. -/
theorem perform_sent (c : Call) (s : Site) :
    let run := c.perform (Client.at canAsk answer headers).remote (Store.besideRemote planned) s
    run.2.2.sent = s.2.sent ++ requestsOf canAsk headers [c.event run.1] := by
  cases c with
  | list url =>
    show ((Client.list _ url s).2).2.sent = _
    rw [Client.list_run _ url s (send_toward canAsk answer _ s), requestsOf_singleton _ _ _ rfl]
    rfl
  | fetch url =>
    show ((Client.fetch _ url s).2).2.sent = _
    rw [Client.fetch_run _ url s (send_toward canAsk answer _ s), requestsOf_singleton _ _ _ rfl]
    rfl
  | makeDirs | touch | write => exact (List.append_nil _).symm

theorem Job.keeps_sent {α : Type} {job : Job Site α} {event : Except Fault α → Event}
    (h : ∀ s, (job s).2.2.sent = s.2.sent ++ requestsOf canAsk headers [event (job s).1]) :
    (job.heard event).Keeps fun s => s.world.2.sent = requestsOf canAsk headers s.events := by
  intro s hs
  show (job s.world).2.2.sent = requestsOf canAsk headers (s.events ++ [event (job s.world).1])
  rw [h, hs, requestsOf_append]

/-- What two calls answer, and what they make of the tree, is the same for the same tree. -/
def Job.Alike {α : Type} (job job' : Job Site α) : Prop :=
  ∀ s s' : Site, s'.1 = s.1 → (job' s').1 = (job s).1 ∧ (job' s').2.1 = (job s).2.1

theorem Job.within_alike {α : Type} (job : Job FileTree α) :
    Job.Alike (job.within Prod.fst fun t (s : Site) => (t, s.2))
      (job.within Prod.fst fun t s => (t, s.2)) := by
  intro s s' h
  show (job s'.1).1 = (job s.1).1 ∧ (job s'.1).2 = (job s.1).2
  rw [h]
  exact ⟨rfl, rfl⟩

/-- **No answer depends on the headers.** -/
theorem perform_alike (c : Call) :
    Job.Alike (c.perform (Client.at canAsk answer headers).remote (Store.besideRemote planned))
      (c.perform (Client.at canAsk answer headers').remote (Store.besideRemote planned)) := by
  cases c with
  | list url =>
    intro s s' h
    show (Client.list _ url s').1 = (Client.list _ url s).1 ∧
      ((Client.list _ url s').2).1 = ((Client.list _ url s).2).1
    rw [Client.list_run _ url s (send_toward canAsk answer _ s),
      Client.list_run _ url s' (send_toward canAsk answer _ s')]
    exact ⟨rfl, h⟩
  | fetch url =>
    intro s s' h
    show (Client.fetch _ url s').1 = (Client.fetch _ url s).1 ∧
      ((Client.fetch _ url s').2).1 = ((Client.fetch _ url s).2).1
    rw [Client.fetch_run _ url s (send_toward canAsk answer _ s),
      Client.fetch_run _ url s' (send_toward canAsk answer _ s')]
    exact ⟨rfl, h⟩
  | makeDirs | touch | write => exact Job.within_alike _

theorem Job.Alike.lockstep {α : Type} {job job' : Job Site α} (h : job.Alike job')
    (event : Except Fault α → Event) :
    Job.Lockstep (fun (s s' : Heard Site) => s'.events = s.events ∧ s'.world.1 = s.world.1)
      (fun _ => False) (job.heard event) (job'.heard event) where
  keeps _ hs := hs
  together := by
    rintro s s' ⟨hevents, htree⟩
    obtain ⟨hresult, htree'⟩ := h s.world s'.world htree
    refine .inr ⟨hresult, ?_, htree'⟩
    show s'.events ++ [event (job' s'.world).1] = s.events ++ [event (job s.world).1]
    rw [hevents, hresult]

/-- The tree before anything was asked for. -/
def freshAt (t : FileTree) : Heard Site := ⟨(t, ⟨(), []⟩), []⟩

/-- A client with the token is made and synchronises the tree, once. -/
def synchroniseWith (bound : Nat) (s : Settings) (mode : Mode) (t : FileTree)
    (token : Option String) : Except Fault (Option Report) × Heard Site :=
  match Client.withToken (.toward canAsk answer) token with
  | .ok client => synchronise (fun s => s.world.1) client.remote.heard
      (Store.besideRemote planned).heard bound s mode (freshAt t)
  | .error fault => (.error fault, freshAt t)

variable {bound : Nat} {s : Settings} {mode : Mode} {t : FileTree}

theorem synchroniseWith_run {token : Option String} {headers : List Header}
    (h : Header.ofToken token = .ok headers) :
    synchroniseWith canAsk answer planned bound s mode t token =
      match s.undertaking t mode with
      | .ok u => u.job bound _ (Client.at canAsk answer headers).remote.heard
          (Store.besideRemote planned).heard (freshAt t)
      | .error fault => (.error fault, freshAt t) := by
  rw [synchroniseWith, Client.withToken, h]
  exact synchronise_run (fun s : Heard Site => s.world.1) _ _ bound s mode _

theorem synchroniseWith_sent {token : Option String} {headers : List Header}
    (h : Header.ofToken token = .ok headers) :
    let run := synchroniseWith canAsk answer planned bound s mode t token
    run.2.world.2.sent = requestsOf canAsk headers run.2.events := by
  intro run
  have hrun : run = _ := synchroniseWith_run canAsk answer planned h
  rw [hrun]
  cases s.undertaking t mode with
  | error fault => rfl
  | ok u =>
    have hkeeps : ∀ c : Call, (c.perform (Client.at canAsk answer headers).remote.heard
        (Store.besideRemote planned).heard).Keeps
          fun s => s.world.2.sent = requestsOf canAsk headers s.events := by
      intro c
      rw [Call.perform_heard]
      exact Job.keeps_sent canAsk headers (perform_sent canAsk answer headers planned c)
    exact (u.planned bound).keeps hkeeps (freshAt t) rfl

theorem synchroniseWith_alike {token token' : Option String} {headers headers' : List Header}
    (h : Header.ofToken token = .ok headers) (h' : Header.ofToken token' = .ok headers') :
    let run := synchroniseWith canAsk answer planned bound s mode t
    (run token').1 = (run token).1 ∧ (run token').2.events = (run token).2.events ∧
      (run token').2.world.1 = (run token).2.world.1 := by
  intro run
  have hrun : run token = _ := synchroniseWith_run canAsk answer planned h
  have hrun' : run token' = _ := synchroniseWith_run canAsk answer planned h'
  rw [hrun, hrun']
  cases s.undertaking t mode with
  | error fault => exact ⟨rfl, rfl, rfl⟩
  | ok u =>
    have hcall : ∀ c : Call, Job.Lockstep
        (fun (s s' : Heard Site) => s'.events = s.events ∧ s'.world.1 = s.world.1) (fun _ => False)
        (c.perform (Client.at canAsk answer headers).remote.heard (Store.besideRemote planned).heard)
        (c.perform (Client.at canAsk answer headers').remote.heard
          (Store.besideRemote planned).heard) := by
      intro c
      rw [Call.perform_heard, Call.perform_heard]
      exact (perform_alike canAsk answer headers headers' planned c).lockstep c.event
    have htogether := ((u.planned bound).lockstep hcall).together (freshAt t) (freshAt t) ⟨rfl, rfl⟩
    exact htogether.resolve_left id

end

/-- **The token is in the requests and nowhere else.** For all settings, every tree, both modes and
everybody who answers by the URL alone: with a token that can be sent, the requests are those of the
calls, with the fixed name of who asks and, unless the token is blank, the token as a bearer
credential; a listing says in which form it is wanted, a content does not. With any two such tokens
the result, the calls and the tree are the same, and so are the requests but for the token. A token
that cannot be sent ends it all before the first request. -/
theorem synchronise_keeps_token_apart (canAsk : String → Bool) (answer : String → Option Response)
    (planned : List Store.PlannedFault) (bound : Nat) (s : Settings) (mode : Mode) (t : FileTree) :
    let run := synchroniseWith canAsk answer planned bound s mode t
    let sent := fun token => (run token).2.world.2.sent
    (∀ token, IsSendable token →
      sent token = requestsOf canAsk (headersFor token) (run token).2.events) ∧
    (∀ token token', IsSendable token → IsSendable token' →
      (run token').1 = (run token).1 ∧ (run token').2.events = (run token).2.events ∧
      (run token').2.world.1 = (run token).2.world.1 ∧
      (sent token').map Request.withoutToken = (sent token).map Request.withoutToken) ∧
    (∀ token, (∀ t ∈ token, Text.trim t = "") →
      IsSendable token ∧ headersFor token = headersFor none) ∧
    ∀ token, ¬ IsSendable token → run token = (.error .invalidToken, freshAt t) := by
  intro run sent
  have hheaders : ∀ {token}, IsSendable token → Header.ofToken token = .ok (headersFor token) :=
    fun h => ((ofToken_cases _).resolve_right fun hnot => hnot.1 h).2
  have hsent : ∀ token, IsSendable token →
      sent token = requestsOf canAsk (headersFor token) (run token).2.events :=
    fun token h => synchroniseWith_sent canAsk answer planned (hheaders h)
  refine ⟨hsent, ?_, ?_, ?_⟩
  · intro token token' h h'
    obtain ⟨hresult, hevents, htree⟩ :=
      synchroniseWith_alike canAsk answer planned (hheaders h) (hheaders h')
    refine ⟨hresult, hevents, htree, ?_⟩
    rw [hsent token h, hsent token' h', requestsOf_without_token, requestsOf_without_token]
    exact congrArg _ hevents
  · exact fun token => isSendable_of_blank
  · intro token h
    have hrefused := ((ofToken_cases token).resolve_left fun hall => h hall.1).2
    show synchroniseWith canAsk answer planned bound s mode t token = _
    rw [synchroniseWith, Client.withToken, hrefused]
    rfl

/-- Somebody who has one file. -/
def oneFile (url : String) : Option Response :=
  if url = "content" then some ⟨200, .whole "new".toUTF8⟩
  else some ⟨200, .whole ("[\x7b\"name\":\"a.cc\",\"path\":\"cpp/a.cc\",\"type\":\"file\"," ++
    "\"download_url\":\"content\",\"url\":\"\"\x7d]").toUTF8⟩

theorem synchronise_keeps_token_apart_secret :
    let settings := { Settings.default with processors := ⟨"cpp", ⟨"out"⟩, [], none⟩ }
    let run := synchroniseWith (fun _ => true) oneFile [] 2 settings .processors aliasedTree
    let secret := some " secret "
    IsSendable secret ∧ IsSendable none ∧ ¬ IsSendable (some "se\ncret") ∧
      headersFor secret =
        [⟨"authorization", "Bearer secret", true⟩, ⟨"user-agent", "ghidra-sync/0.1.0", false⟩] ∧
      (run secret).1.toOption = some (some ⟨[⟨"out/a.cc"⟩], 1, 0, 0⟩) ∧
      (run secret).2.world.2.sent.length = 2 ∧
      (run secret).2.world.2.sent =
        requestsOf (fun _ => true) (headersFor secret) (run secret).2.events ∧
      (run none).1 = (run secret).1 ∧
      run (some "se\ncret") = (.error .invalidToken, freshAt aliasedTree) := by
  intro settings run secret
  have hsecret : IsSendable (some " secret ") := by
    rintro _ ⟨⟩
    -- as one computation, since the characters are too many to be tried one by one
    exact List.all_eq_true.1 (by decide +kernel)
  have hbroken : ¬ IsSendable (some "se\ncret") := by
    intro h
    have hnewline := h _ rfl '\n' (by decide +kernel)
    revert hnewline
    decide +kernel
  obtain ⟨hreport, hlength⟩ : (run secret).1.toOption = some (some ⟨[⟨"out/a.cc"⟩], 1, 0, 0⟩) ∧
      (run secret).2.world.2.sent.length = 2 := by decide +kernel
  obtain ⟨hsent, halike, -, hrefused⟩ := synchronise_keeps_token_apart (fun _ => true) oneFile [] 2
    settings .processors aliasedTree
  exact ⟨hsecret, nofun, hbroken, by decide +kernel, hreport, hlength, hsent secret hsecret,
    (halike secret none hsecret nofun).1, hrefused _ hbroken⟩

end Vendoring
