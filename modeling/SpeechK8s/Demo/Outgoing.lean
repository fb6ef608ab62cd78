import SpeechK8s.Demo.Server

/-!
# What leaves the server

The server holds the key of the search provider, the address of the load balancer and the token
for it, and the access tokens of its visitors. Where each of them goes, and that what comes back
to a browser does not depend on them.
-/
namespace SpeechK8s.Demo.Server
open Handler
open Tts (strip)

section
variable {Visitor : Type} (py : Python) (cfg : Settings) (auth : Auth Visitor) (limiter : Limiter)
  (checks : List Char → Bool)

/-- The call and its data are those of a request with this route. -/
def Makes (req : Request Visitor) (k : Call) (sent : Sent) : Prop :=
  match req.route, k with
  | .search body, .serper query =>
      query = stripStr body.query ∧ ∃ key, key ≠ "" ∧
        (.text key = stripStr (body.key.getD "") ∨
          stripStr (body.key.getD "") = "" ∧ key = cfg.serperKey) ∧
        sent = .http serperUrl [("X-API-KEY", key), ("Content-Type", "application/json")]
  | .calls offer, .answer offer' =>
      offer' = offer ∧ cfg.speechToSpeechUrl ≠ "" ∧
        ∃ url, webrtcCallsUrl checks cfg.speechToSpeechUrl = some url ∧
          sent = .http url [("Content-Type", "application/sdp")]
  | .session, .allocate =>
      cfg.loadBalancerUrl ≠ "" ∧ sent = toLoadBalancer cfg auth req.visitor "/session"
  | .queueStatus queueId, .poll queueId' | .queueLeave queueId, .leave queueId' =>
      queueId' = queueId ∧ cfg.loadBalancerUrl ≠ "" ∧
        sent = toLoadBalancer cfg auth req.visitor ("/queue/" ++ queueId)
  | .queueEnd body, .leave queueId =>
      .text queueId = py.text (idOf "queueId" body) ∧ cfg.loadBalancerUrl ≠ "" ∧
        sent = toLoadBalancer cfg auth req.visitor ("/queue/" ++ queueId)
  | .me, .limiterRemaining keys tier | .session, .limiterRemaining keys tier
  | .queueStatus _, .limiterRemaining keys tier | .session, .limiterBegin _ keys tier
  | .queueStatus _, .limiterBegin _ keys tier =>
      keys = (auth.resolveIdentity req.visitor).keys ∧
        tier = (auth.resolveIdentity req.visitor).tier ∧ cfg.limiterEnabled = true ∧ sent = .within
  | .sessionHeartbeat body, .limiterHeartbeat sessionId
  | .sessionEnd body, .limiterEnd sessionId =>
      sessionId = idOf "sessionId" body ∧ truthy py.zero sessionId = true ∧
        cfg.limiterEnabled = true ∧ sent = .within
  | .mcpCall body, .tool body' =>
      body' = body ∧ cfg.mcpServerUrl ≠ "" ∧
        sent = .http cfg.mcpServerUrl [("Accept", "application/json, text/event-stream")]
  | _, _ => False

end

section
variable {Visitor : Type} {py : Python} {cfg : Settings} {auth : Auth Visitor} {limiter : Limiter}
  {checks : List Char → Bool} {P : Call → Sent → Prop} {v : Visitor} {who : Identity}

theorem all_fetched {α : Type} {unreachable : String} (f : Fetched α) :
    (fetched unreachable f).All P := by
  cases f <;> trivial

theorem all_limited {α : Type} (r : Option α) : (limited r).All P := by
  cases r <;> trivial

theorem all_issue {k : Call} {sent : Sent} (h : P k sent) : (issue k sent).All P :=
  all_ask h

theorem all_jsonDict (a : Answer) : (jsonDict a).All P := by
  unfold jsonDict
  split <;> trivial

theorem all_rendered (r : Response) : (rendered py r).All P :=
  all_ite (fun _ => all_pure _) fun _ => all_throw _

theorem all_refusal {α : Type} (resp : Answer) (detail : Str) :
    (refusal resp detail : Serve α).All P := by
  unfold refusal
  split <;> exact all_throw _

theorem all_remaining (h : P (.limiterRemaining who.keys who.tier) .within) :
    (remaining who).All P :=
  (all_issue h).bind all_limited

theorem all_outOfBudget (h : cfg.limiterEnabled = true →
      P (.limiterRemaining who.keys who.tier) .within) :
    (outOfBudget cfg limiter who).All P := by
  refine all_ite (fun htracked => ?_) fun _ => all_pure _
  exact (all_remaining (h (Bool.and_eq_true_iff.mp htracked).1)).bind fun _ => all_pure _

theorem all_finalizeGrant {data : Json.Fields} (h : cfg.limiterEnabled = true →
      P (.limiterRemaining who.keys who.tier) .within ∧
        ∀ sessionId, P (.limiterBegin sessionId who.keys who.tier) .within) :
    (finalizeGrant py cfg limiter data who).All P := by
  unfold finalizeGrant
  dsimp only
  refine all_ite (fun hlimited => ?_) fun _ => (all_pure _).bind fun _ => all_rendered _
  obtain ⟨hremaining, hbegin⟩ :=
    h (Bool.and_eq_true_iff.mp (Bool.and_eq_true_iff.mp hlimited).1).1
  exact (all_issue (hbegin _)).bind fun r => (all_limited r).bind fun _ =>
    (all_remaining hremaining).bind fun _ => all_rendered _

theorem all_sessionAnswered {lb : Answer} (h : cfg.limiterEnabled = true →
      P (.limiterRemaining who.keys who.tier) .within ∧
        ∀ sessionId, P (.limiterBegin sessionId who.keys who.tier) .within) :
    (sessionAnswered py cfg auth limiter lb who).All P := by
  refine all_ite (fun _ => all_pure _) fun _ => all_ite (fun _ => all_rendered _) fun _ =>
    all_ite (fun _ => all_refusal _ _) fun _ => (all_jsonDict lb).bind fun data => ?_
  exact all_ite (fun _ => all_rendered _) fun _ => all_finalizeGrant h

theorem all_queueAnswered {lb : Answer} (h : cfg.limiterEnabled = true →
      P (.limiterRemaining who.keys who.tier) .within ∧
        ∀ sessionId, P (.limiterBegin sessionId who.keys who.tier) .within) :
    (queueAnswered py cfg limiter lb who).All P := by
  refine all_ite (fun _ => all_pure _) fun _ => all_ite (fun _ => all_refusal _ _) fun _ =>
    (all_jsonDict lb).bind fun data => all_ite (fun _ => all_rendered _) fun _ => ?_
  refine (all_outOfBudget fun hlimiter => (h hlimiter).1).bind fun spent => ?_
  exact all_ite (fun _ => all_pure _) fun _ => all_finalizeGrant h

theorem all_lbLeave {queueId : String}
    (h : P (.leave queueId) (toLoadBalancer cfg auth v ("/queue/" ++ queueId))) :
    (lbLeave cfg auth queueId v).All P := by
  refine (all_issue h).bind fun r => ?_
  cases r with
  | requestError => exact all_pure _
  | raised => exact all_throw _
  | response a => exact all_ite (fun _ => all_throw _) fun _ => all_pure _

/-- A request makes the calls of its route and no others. -/
theorem serve_makes (req : Request Visitor) :
    (serve py cfg auth limiter checks req).All (Makes py cfg auth checks req) := by
  obtain ⟨route, v⟩ := req
  cases route with
  | config =>
      unfold serve config
      exact all_rendered _
  | me =>
      refine all_ite (fun _ => all_pure _) fun hlimiter => ?_
      have hremaining : (remaining (auth.resolveIdentity v)).All
          (Makes py cfg auth checks ⟨.me, v⟩) :=
        all_remaining ⟨rfl, rfl, by simpa using hlimiter, rfl⟩
      exact all_ite (fun _ => (all_pure _).bind fun _ => all_rendered _)
        fun _ => hremaining.bind fun _ => all_rendered _
  | search body =>
      refine all_ite (fun _ => all_throw _) fun _ => all_ite (fun _ => all_throw _) fun hkey => ?_
      split
      · exact all_throw _
      · rename_i key hchosen
        have hne : key ≠ "" := fun h => hkey (by rw [hchosen, h])
        have hmakes : Makes py cfg auth checks ⟨.search body, v⟩ (.serper (stripStr body.query))
            (.http serperUrl [("X-API-KEY", key), ("Content-Type", "application/json")]) := by
          refine ⟨rfl, key, hne, ?_, rfl⟩
          split at hchosen
          · exact .inl hchosen.symm
          · exact .inr ⟨not_not.mp ‹_›, (Str.text.inj hchosen).symm⟩
        refine All.bind (all_issue hmakes) fun r => (all_fetched r).bind fun resp => ?_
        refine all_ite (fun _ => all_refusal _ _) fun _ => ?_
        split
        · exact all_throw _
        · exact (all_ofExcept _).bind fun _ => all_rendered _
  | calls offer =>
      refine all_ite (fun _ => all_throw _) fun hurl => ?_
      split
      · exact all_throw _
      · rename_i url hcalls
        refine All.bind (all_issue ⟨rfl, hurl, url, hcalls, rfl⟩) fun r => ?_
        exact (all_fetched r).bind fun _ => all_pure _
  | session =>
      refine all_ite (fun _ => all_throw _) fun hlb => all_ite (fun _ => all_pure _) fun _ => ?_
      refine All.bind (all_outOfBudget fun hlimiter => ⟨rfl, rfl, hlimiter, rfl⟩) fun spent => ?_
      refine all_ite (fun _ => all_pure _) fun _ => All.bind (all_issue ⟨hlb, rfl⟩) fun r => ?_
      refine (all_fetched r).bind fun lb => all_sessionAnswered fun hlimiter => ?_
      exact ⟨⟨rfl, rfl, hlimiter, rfl⟩, fun _ => ⟨rfl, rfl, hlimiter, rfl⟩⟩
  | queueStatus queueId =>
      refine all_ite (fun _ => all_throw _) fun hlb => all_ite (fun _ => all_pure _) fun _ => ?_
      refine All.bind (all_issue ⟨rfl, hlb, rfl⟩) fun r => (all_fetched r).bind fun lb => ?_
      refine all_queueAnswered fun hlimiter => ?_
      exact ⟨⟨rfl, rfl, hlimiter, rfl⟩, fun _ => ⟨rfl, rfl, hlimiter, rfl⟩⟩
  | queueLeave queueId =>
      refine all_ite (fun _ => all_throw _) fun hlb => ?_
      exact (all_lbLeave ⟨rfl, hlb, rfl⟩).bind fun _ => all_pure _
  | queueEnd body =>
      refine all_ite (fun _ => all_throw _) fun hlb => ?_
      refine all_ite (fun _ => ?_) fun _ => (all_pure _).bind fun _ => all_pure _
      split
      · rename_i queueId hid
        exact (all_lbLeave ⟨hid.symm, hlb, rfl⟩).bind fun _ => all_pure _
      · exact (all_throw _).bind fun _ => all_pure _
  | sessionHeartbeat body =>
      refine all_ite (fun _ => all_throw _) fun hlimiter => ?_
      refine all_ite (fun hid => ?_) fun _ => (all_pure _).bind fun _ => all_pure _
      refine All.bind (all_issue ⟨rfl, hid, by simpa using hlimiter, rfl⟩) fun r => ?_
      exact (all_limited r).bind fun _ => all_pure _
  | sessionEnd body =>
      refine all_ite (fun _ => all_throw _) fun hlimiter => ?_
      refine all_ite (fun hid => ?_) fun _ => (all_pure _).bind fun _ => all_pure _
      refine All.bind (all_issue ⟨rfl, hid, by simpa using hlimiter, rfl⟩) fun r => ?_
      exact (all_limited r).bind fun _ => all_pure _
  | mcpCall body =>
      refine all_ite (fun _ => all_throw _) fun hurl => ?_
      refine All.bind (all_issue ⟨rfl, hurl, rfl⟩) fun r => ?_
      exact (all_ofExcept _).bind fun _ => all_rendered _

end

/-! ## What a browser can tell -/

section
variable {Visitor : Type} {py : Python} {cfg cfg' : Settings} {auth auth' : Auth Visitor}
  {limiter : Limiter} {checks : List Char → Bool}

/-- Two sets of settings that differ in their secrets only. -/
structure SamePublic (cfg cfg' : Settings) : Prop where
  serperKey : cfg.serperKey = "" ↔ cfg'.serperKey = ""
  loadBalancerUrl : cfg.loadBalancerUrl = "" ↔ cfg'.loadBalancerUrl = ""
  mcpServerUrl : cfg.mcpServerUrl = "" ↔ cfg'.mcpServerUrl = ""
  speechToSpeechUrl : cfg.speechToSpeechUrl = cfg'.speechToSpeechUrl
  limiterEnabled : cfg.limiterEnabled = cfg'.limiterEnabled
  rtcIceServers : cfg.rtcIceServers = cfg'.rtcIceServers
  startupGreeting : cfg.startupGreeting = cfg'.startupGreeting
  authEnabled : cfg.authEnabled = cfg'.authEnabled

/-- The visitors are the same but for their access tokens. -/
structure SameVisitors (auth auth' : Auth Visitor) : Prop where
  loginRequiredReason : auth.loginRequiredReason = auth'.loginRequiredReason
  resolveIdentity : auth.resolveIdentity = auth'.resolveIdentity
  userView : auth.userView = auth'.userView
  loginPath : auth.loginPath = auth'.loginPath
  logoutPath : auth.logoutPath = auth'.logoutPath

theorem SamePublic.tracked (h : SamePublic cfg cfg') :
    tracked cfg limiter = tracked cfg' limiter := by
  funext who
  simp only [Server.tracked, h.limiterEnabled]

theorem SamePublic.outOfBudget (h : SamePublic cfg cfg') :
    outOfBudget cfg limiter = outOfBudget cfg' limiter := by
  funext who
  simp only [Server.outOfBudget, h.tracked]

theorem SamePublic.finalizeGrant (h : SamePublic cfg cfg') :
    finalizeGrant py cfg limiter = finalizeGrant py cfg' limiter := by
  funext data who
  simp only [Server.finalizeGrant, grantResponse, h.tracked]

theorem SamePublic.queueAnswered (h : SamePublic cfg cfg') :
    queueAnswered py cfg limiter = queueAnswered py cfg' limiter := by
  funext lb who
  simp only [Server.queueAnswered, h.outOfBudget, h.finalizeGrant]

theorem SamePublic.authPath (h : SamePublic cfg cfg') : authPath cfg = authPath cfg' := by
  funext path
  simp only [Server.authPath, h.authEnabled]

theorem SamePublic.config (h : SamePublic cfg cfg') : config py cfg = config py cfg' := by
  simp only [Server.config, ne_eq, h.serperKey, h.loadBalancerUrl, h.speechToSpeechUrl,
    h.rtcIceServers, h.startupGreeting, h.authEnabled]

theorem SamePublic.loginRequiredResponse (h : SamePublic cfg cfg')
    (hauth : SameVisitors auth auth') :
    loginRequiredResponse cfg auth = loginRequiredResponse cfg' auth' := by
  funext reason cookie
  simp only [Server.loginRequiredResponse, h.authPath, hauth.loginPath]

theorem SamePublic.sessionAnswered (h : SamePublic cfg cfg') (hauth : SameVisitors auth auth') :
    sessionAnswered py cfg auth limiter = sessionAnswered py cfg' auth' limiter := by
  funext lb who
  simp only [Server.sessionAnswered, h.loginRequiredResponse hauth, h.finalizeGrant]

theorem SamePublic.me (h : SamePublic cfg cfg') (hauth : SameVisitors auth auth') :
    me py cfg auth limiter = me py cfg' auth' limiter := by
  funext v
  simp only [Server.me, h.limiterEnabled, hauth.resolveIdentity, hauth.userView, h.authEnabled,
    h.authPath, hauth.loginPath, hauth.logoutPath]

/-- The request to Serper with a key. -/
def toSerper (key : String) : Sent :=
  .http serperUrl [("X-API-KEY", key), ("Content-Type", "application/json")]

/-- The request to speech-mcp. -/
def toTools (url : String) : Sent := .http url [("Accept", "application/json, text/event-stream")]

/-- A path with a first segment that is not empty. -/
def BelowRoot (path : String) : Prop := ∃ c rest, path.toList = '/' :: c :: rest ∧ c ≠ '/'

/-- `f` shows the same of the requests that the one and the other server send. -/
structure SameSent {τ : Type} (f : Sent → τ) (cfg cfg' : Settings) (auth auth' : Auth Visitor) :
    Prop where
  serper : f (toSerper cfg.serperKey) = f (toSerper cfg'.serperKey)
  tools : f (toTools cfg.mcpServerUrl) = f (toTools cfg'.mcpServerUrl)
  loadBalancer : ∀ v path, BelowRoot path →
    f (toLoadBalancer cfg auth v path) = f (toLoadBalancer cfg' auth' v path)

theorem belowRoot_session : BelowRoot "/session" := ⟨'s', "ession".toList, rfl, by decide⟩

theorem belowRoot_queue (queueId : String) : BelowRoot ("/queue/" ++ queueId) :=
  ⟨'q', "ueue/".toList ++ queueId.toList, String.toList_append, by decide⟩

section
variable {τ : Type} {f : Sent → τ}

theorem relabel_session (h : SamePublic cfg cfg') (hauth : SameVisitors auth auth')
    (hsent : SameSent f cfg cfg' auth auth') (v : Visitor) :
    (session py cfg auth limiter v).relabel f = (session py cfg' auth' limiter v).relabel f := by
  simp only [session, h.loadBalancerUrl, hauth.loginRequiredReason, hauth.resolveIdentity,
    h.loginRequiredResponse hauth, h.sessionAnswered hauth, h.outOfBudget, relabel_ite,
    relabel_bind, issue, relabel_ask, hsent.loadBalancer v _ belowRoot_session]

theorem relabel_queueStatus (h : SamePublic cfg cfg') (hauth : SameVisitors auth auth')
    (hsent : SameSent f cfg cfg' auth auth') (queueId : String) (v : Visitor) :
    (queueStatus py cfg auth limiter queueId v).relabel f =
      (queueStatus py cfg' auth' limiter queueId v).relabel f := by
  simp only [queueStatus, h.loadBalancerUrl, hauth.loginRequiredReason, hauth.resolveIdentity,
    h.loginRequiredResponse hauth, h.queueAnswered, relabel_ite, relabel_bind, issue, relabel_ask,
    hsent.loadBalancer v _ (belowRoot_queue queueId)]

theorem relabel_lbLeave (hsent : SameSent f cfg cfg' auth auth') (queueId : String)
    (v : Visitor) :
    (lbLeave cfg auth queueId v).relabel f = (lbLeave cfg' auth' queueId v).relabel f := by
  simp only [lbLeave, relabel_bind, issue, relabel_ask,
    hsent.loadBalancer v _ (belowRoot_queue queueId)]

theorem relabel_queueEnd (h : SamePublic cfg cfg') (hsent : SameSent f cfg cfg' auth auth')
    (body : Option Json) (v : Visitor) :
    (queueEnd py cfg auth body v).relabel f = (queueEnd py cfg' auth' body v).relabel f := by
  simp only [queueEnd, h.loadBalancerUrl, relabel_ite]
  cases py.text (idOf "queueId" body) with
  | text queueId => simp only [relabel_bind, relabel_lbLeave hsent]
  | ill ps unpaired => rfl

theorem relabel_search (h : SamePublic cfg cfg') (hsent : SameSent f cfg cfg' auth auth')
    (body : SearchRequest) : (search py cfg body).relabel f = (search py cfg' body).relabel f := by
  unfold search
  by_cases hown : stripStr (body.key.getD "") = ""
  · have hserper := hsent.serper
    rw [toSerper, toSerper] at hserper
    simp only [hown, ne_eq, not_true_eq_false, if_false, Str.text.injEq, h.serperKey, relabel_ite,
      relabel_bind, issue, relabel_ask, hserper]
  · -- with a key of the visitor's own that of the server is not used
    simp only [hown, ne_eq, not_false_eq_true, if_true]

theorem mcpCall_url {url url' : String} (hurl : url ≠ "") (hurl' : url' ≠ "")
    (post : McpCallRequest → Upstream) (req : McpCallRequest) :
    mcpCall py url post req = mcpCall py url' post req := by
  simp only [mcpCall, hurl, hurl', if_false]

theorem relabel_mcpCall (h : SamePublic cfg cfg') (hsent : SameSent f cfg cfg' auth auth')
    (body : McpCallRequest) :
    (mcpCallRoute py cfg body).relabel f = (mcpCallRoute py cfg' body).relabel f := by
  unfold mcpCallRoute
  by_cases hurl : cfg.mcpServerUrl = ""
  · rw [if_pos hurl, if_pos (h.mcpServerUrl.mp hurl)]
  · have hurl' : cfg'.mcpServerUrl ≠ "" := fun he => hurl (h.mcpServerUrl.mpr he)
    have htools := hsent.tools
    rw [toTools, toTools] at htools
    rw [if_neg hurl, if_neg hurl']
    simp only [relabel_bind, issue, relabel_ask, mcpCall_url hurl hurl', htools]

theorem relabel_serve (h : SamePublic cfg cfg') (hauth : SameVisitors auth auth')
    (hsent : SameSent f cfg cfg' auth auth') (req : Request Visitor) :
    (serve py cfg auth limiter checks req).relabel f =
      (serve py cfg' auth' limiter checks req).relabel f := by
  obtain ⟨route, v⟩ := req
  cases route with
  | config => exact congrArg (relabel f) h.config
  | me => exact congrArg (relabel f) (congrFun (h.me hauth) v)
  | search body => exact relabel_search h hsent body
  | calls offer => simp only [serve, calls, h.speechToSpeechUrl]
  | session => exact relabel_session h hauth hsent v
  | queueStatus queueId => exact relabel_queueStatus h hauth hsent queueId v
  | queueLeave queueId =>
      simp only [serve, queueLeave, h.loadBalancerUrl, relabel_ite, relabel_bind]
      rw [relabel_lbLeave hsent]
  | queueEnd body => exact relabel_queueEnd h hsent body v
  | sessionHeartbeat body => simp only [serve, sessionHeartbeat, h.limiterEnabled]
  | sessionEnd body => simp only [serve, sessionEnd, h.limiterEnabled]
  | mcpCall body => exact relabel_mcpCall h hsent body

end

end

/-! ## Whole runs -/

section
variable {Visitor : Type} {py : Python} {cfg cfg' : Settings} {auth auth' : Auth Visitor}
  {limiter : Limiter} {checks : List Char → Bool}
  {s : Pool (Request Visitor) Call Reply Sent Failure Response}

/-- Whatever becomes of any number of requests, it is the same, response by response and call by
call, under other keys, tokens and addresses. -/
theorem secrets_do_not_show (h : SamePublic cfg cfg') (hauth : SameVisitors auth auth')
    (hs : Pool.Reachable (serve py cfg auth limiter checks) s) :
    ∃ s', Pool.Reachable (serve py cfg' auth' limiter checks) s' ∧ s'.erase = s.erase :=
  hs.alike (relabel_serve h hauth ⟨rfl, rfl, fun _ _ _ => rfl⟩)

/-- Where an outgoing request may go. -/
def Destination (cfg : Settings) (checks : List Char → Bool) (url : String) : Prop :=
  url = serperUrl ∨ url = cfg.mcpServerUrl ∨
    webrtcCallsUrl checks cfg.speechToSpeechUrl = some url ∨
    Url.origin url.toList = Url.origin cfg.loadBalancerUrl.toList

/-- What can be seen of the calls by one who sees no request to the URLs of `hidden`. -/
def seenWithout (hidden : String → Bool) : Sent → Option Sent
  | .within => some .within
  | .http url headers => if hidden url then none else some (.http url headers)

theorem seenWithout_hidden {hidden : String → Bool} {url : String} (h : hidden url = true)
    (headers : List (String × String)) : seenWithout hidden (.http url headers) = none := if_pos h

def isSerper (url : String) : Bool := url = serperUrl

/-- The URL has the scheme and the authority of the load balancer. -/
def atLoadBalancer (cfg : Settings) (url : String) : Bool :=
  Url.origin url.toList = Url.origin cfg.loadBalancerUrl.toList

theorem origin_loadBalancer (cfg : Settings) {path : String} (hpath : BelowRoot path) :
    Url.origin (String.ofList (cfg.loadBalancerUrl.toList.rdropWhile (· = '/')) ++ path).toList =
      Url.origin cfg.loadBalancerUrl.toList := by
  obtain ⟨c, rest, hpath, hc⟩ := hpath
  rw [String.toList_append, String.toList_ofList, hpath]
  exact Url.origin_path _ hc rest

theorem destination_loadBalancer {v : Visitor} {path url : String}
    {headers : List (String × String)} (hpath : BelowRoot path)
    (h : Sent.http url headers = toLoadBalancer cfg auth v path) : Destination cfg checks url := by
  obtain ⟨rfl, -⟩ := Sent.http.inj h
  exact .inr (.inr (.inr (origin_loadBalancer cfg hpath)))

theorem destination_of_makes {req : Request Visitor} {k : Call} {url : String}
    {headers : List (String × String)} (h : Makes py cfg auth checks req k (.http url headers)) :
    Destination cfg checks url := by
  unfold Makes at h
  split at h
  · obtain ⟨-, key, -, -, hsent⟩ := h
    exact .inl (Sent.http.inj hsent).1
  · obtain ⟨-, -, url', hurl, hsent⟩ := h
    obtain ⟨rfl, -⟩ := Sent.http.inj hsent
    exact .inr (.inr (.inl hurl))
  · exact destination_loadBalancer belowRoot_session h.2
  · exact destination_loadBalancer (belowRoot_queue _) h.2.2
  · exact destination_loadBalancer (belowRoot_queue _) h.2.2
  · exact destination_loadBalancer (belowRoot_queue _) h.2.2
  iterate 7
    -- a call of the limiter stays in the process
    · exact nomatch h.2.2.2
  · exact .inr (.inl (Sent.http.inj h.2.2).1)
  · exact h.elim

theorem SameVisitors.refl (auth : Auth Visitor) : SameVisitors auth auth :=
  ⟨rfl, rfl, rfl, rfl, rfl⟩

/-- Under another key for the search provider only the requests to the search provider differ. -/
theorem searchKey_confined {key : String} (hkey : cfg.serperKey = "" ↔ key = "")
    (hs : Pool.Reachable (serve py cfg auth limiter checks) s) :
    ∃ s', Pool.Reachable (serve py { cfg with serperKey := key } auth limiter checks) s' ∧
      s'.relabel (seenWithout isSerper) = s.relabel (seenWithout isSerper) := by
  have hpublic : SamePublic cfg { cfg with serperKey := key } :=
    ⟨hkey, Iff.rfl, Iff.rfl, rfl, rfl, rfl, rfl, rfl⟩
  refine hs.alike (relabel_serve hpublic (.refl auth) ⟨?_, rfl, fun _ _ _ => rfl⟩)
  have hserper : isSerper serperUrl = true := decide_eq_true rfl
  exact (seenWithout_hidden hserper _).trans (seenWithout_hidden hserper _).symm

/-- Under another token for the load balancer, and with other tokens of the visitors, only the
requests to the load balancer differ. -/
theorem tokens_confined (token : String) (hauth : SameVisitors auth auth')
    (hs : Pool.Reachable (serve py cfg auth limiter checks) s) :
    ∃ s', Pool.Reachable (serve py { cfg with lbHfToken := token } auth' limiter checks) s' ∧
      s'.relabel (seenWithout (atLoadBalancer cfg)) =
        s.relabel (seenWithout (atLoadBalancer cfg)) := by
  have hpublic : SamePublic cfg { cfg with lbHfToken := token } :=
    ⟨Iff.rfl, Iff.rfl, Iff.rfl, rfl, rfl, rfl, rfl, rfl⟩
  refine hs.alike (relabel_serve hpublic hauth ⟨rfl, rfl, fun v path hpath => ?_⟩)
  have hhidden : atLoadBalancer cfg
      (String.ofList (cfg.loadBalancerUrl.toList.rdropWhile (· = '/')) ++ path) = true :=
    decide_eq_true (origin_loadBalancer cfg hpath)
  exact (seenWithout_hidden hhidden _).trans (seenWithout_hidden hhidden _).symm

/-- Whatever the browsers send, the server contacts only the hosts it is set up with; the key of
the search provider matters to the search provider only, and tokens to the load balancer only. -/
theorem requests_confined (hs : Pool.Reachable (serve py cfg auth limiter checks) s) :
    (∀ (i : Nat) (e : Event Call Reply Sent) url headers, (i, e) ∈ s.log →
      e.sent = .http url headers → Destination cfg checks url) ∧
    (∀ key, (cfg.serperKey = "" ↔ key = "") →
      ∃ s', Pool.Reachable (serve py { cfg with serperKey := key } auth limiter checks) s' ∧
        s'.relabel (seenWithout isSerper) = s.relabel (seenWithout isSerper)) ∧
    ∀ token auth', SameVisitors auth auth' →
      ∃ s', Pool.Reachable (serve py { cfg with lbHfToken := token } auth' limiter checks) s' ∧
        s'.relabel (seenWithout (atLoadBalancer cfg)) =
          s.relabel (seenWithout (atLoadBalancer cfg)) := by
  refine ⟨fun i e url headers he hsent => ?_, fun key hkey => searchKey_confined hkey hs,
    fun token auth' hauth => tokens_confined token hauth hs⟩
  obtain ⟨req, p, -, hmakes⟩ := hs.all serve_makes he
  rw [hsent] at hmakes
  exact destination_of_makes hmakes

/-- What the environment has to be like for a call to be made: `SPEECH_TO_SPEECH_URL` switches off
everything about the load balancer, and only a Space has a limiter. -/
def Needs (env : Environ) : Call → Prop
  | .serper _ => True
  | .tool _ => environ env.mcpServerUrl "http://speech-mcp:8080/mcp" ≠ ""
  | .answer _ => environ env.speechToSpeechUrl "" ≠ ""
  | .allocate | .poll _ | .leave _ =>
      environ env.speechToSpeechUrl "" = "" ∧ environ env.loadBalancerUrl "" ≠ ""
  | .limiterRemaining _ _ | .limiterBegin _ _ _ | .limiterHeartbeat _ | .limiterEnd _ =>
      environ env.speechToSpeechUrl "" = "" ∧ environ env.loadBalancerUrl "" ≠ "" ∧
        environ env.spaceId "" ≠ ""

theorem settings_loadBalancerUrl {env : Environ} {attach : Bool}
    (h : (env.settings attach).loadBalancerUrl ≠ "") :
    environ env.speechToSpeechUrl "" = "" ∧ environ env.loadBalancerUrl "" ≠ "" := by
  simp only [Environ.settings] at h
  split at h
  · exact absurd rfl h
  · exact ⟨not_not.mp ‹_›, h⟩

theorem settings_limiterEnabled {env : Environ} {attach : Bool}
    (h : (env.settings attach).limiterEnabled = true) :
    environ env.speechToSpeechUrl "" = "" ∧ environ env.loadBalancerUrl "" ≠ "" ∧
      environ env.spaceId "" ≠ "" := by
  obtain ⟨hlb, hspace⟩ := Bool.and_eq_true_iff.mp h
  have hurl : (env.settings attach).loadBalancerUrl ≠ "" := of_decide_eq_true hlb
  obtain ⟨hs2s, hlb⟩ := settings_loadBalancerUrl hurl
  exact ⟨hs2s, hlb, of_decide_eq_true hspace⟩

/-- A server makes no call that its environment has switched off, whatever it is asked. -/
theorem calls_switched_on {env : Environ} {attach : Bool}
    (hs : Pool.Reachable (serve py (env.settings attach) auth limiter checks) s) {i : Nat}
    {e : Event Call Reply Sent} (he : (i, e) ∈ s.log) : Needs env e.call := by
  obtain ⟨⟨route, v⟩, p, -, hmakes⟩ := hs.all serve_makes he
  obtain ⟨k, sent, reply⟩ := e
  unfold Makes at hmakes
  dsimp only at hmakes ⊢
  split at hmakes
  · trivial
  · exact hmakes.2.1
  · exact settings_loadBalancerUrl hmakes.1
  · exact settings_loadBalancerUrl hmakes.2.1
  · exact settings_loadBalancerUrl hmakes.2.1
  · exact settings_loadBalancerUrl hmakes.2.1
  iterate 7
    · exact settings_limiterEnabled hmakes.2.2.1
  · exact hmakes.2.1
  · exact hmakes.elim

end

/-- The settings of a Space with a load balancer. -/
def spaceSettings : Settings where
  serperKey := "serper-key"
  loadBalancerUrl := "https://lb.example.org/"
  lbHfToken := "hf-token"
  speechToSpeechUrl := ""
  limiterEnabled := true
  mcpServerUrl := "http://speech-mcp:8080/mcp"
  rtcIceServers := []
  startupGreeting := defaultStartupGreeting
  authEnabled := true

def movedSettings : Settings :=
  { spaceSettings with loadBalancerUrl := "https://elsewhere.example.org", lbHfToken := "" }

/-- Visitors who have not signed in. -/
def anonymous : Auth Unit where
  loginRequiredReason _ := ""
  resolveIdentity _ := ⟨"anon", ["cookie"], ""⟩
  currentAccessToken _ := ""
  userView _ _ := []
  loginPath := "/login"
  logoutPath := "/logout"

def tenMinutes : Limiter := ⟨fun _ => some ⟨600, 0⟩, ⟨5, 0⟩⟩

def anyAuthority (_ : List Char) : Bool := true

def spaceServe : Request Unit → Serve Response :=
  serve plainPython spaceSettings anonymous tenMinutes anyAuthority

/-- A visitor leaves the queue. -/
def leaving : Request Unit := ⟨.queueLeave "7", ()⟩

def left : Event Call Reply Sent :=
  ⟨.leave "7", toLoadBalancer spaceSettings anonymous () ("/queue/" ++ "7"), .requestError⟩

theorem reachable_left : Pool.Reachable spaceServe
    ⟨[(leaving, .done (asJson 200 [("ok", .bool true)] ""))], [(0, left)]⟩ := by
  refine Pool.Reachable.alone (t := [left]) ?_
  have hlb : spaceSettings.loadBalancerUrl ≠ "" := by decide
  simp only [spaceServe, serve, leaving, queueLeave, hlb, if_false]
  exact Steps.call (ρ := Reply) (k := Call.leave "7") Fetched.requestError (.refl _)

theorem left_confined : Destination spaceSettings anyAuthority "https://lb.example.org/queue/7" ∧
    ∃ s' : Pool (Request Unit) Call Reply Sent Failure Response,
      Pool.Reachable (serve plainPython { spaceSettings with lbHfToken := "other-token" } anonymous
        tenMinutes anyAuthority) s' ∧
      s'.relabel (seenWithout (atLoadBalancer spaceSettings)) =
        Pool.relabel (seenWithout (atLoadBalancer spaceSettings))
          ⟨[(leaving, .done (asJson 200 [("ok", .bool true)] ""))], [(0, left)]⟩ :=
  ⟨(requests_confined reachable_left).1 0 left _
      (loadBalancerHeaders spaceSettings anonymous ()) List.mem_cons_self (by decide +kernel),
    (requests_confined reachable_left).2.2 "other-token" anonymous (.refl anonymous)⟩

theorem left_unseen : ∃ s' : Pool (Request Unit) Call Reply Sent Failure Response,
    Pool.Reachable (serve plainPython movedSettings anonymous tenMinutes anyAuthority) s' ∧
      s'.erase = (⟨[(leaving, .done (asJson 200 [("ok", .bool true)] ""))], [(0, left)]⟩ :
        Pool (Request Unit) Call Reply Sent Failure Response).erase := by
  have hpublic : SamePublic spaceSettings movedSettings :=
    ⟨by decide, by decide, Iff.rfl, rfl, rfl, rfl, rfl, rfl⟩
  exact secrets_do_not_show hpublic (.refl anonymous) reachable_left

/-- The environment of such a Space. -/
def spaceEnviron : Environ where
  serperApiKey := some "serper-key"
  loadBalancerUrl := some "https://lb.example.org/"
  lbHfToken := some "hf-token"
  speechToSpeechUrl := none
  spaceId := some "owner/space"
  mcpServerUrl := none
  rtcIceServers := none
  startupGreeting := none

theorem left_switched_on : environ spaceEnviron.speechToSpeechUrl "" = "" ∧
    environ spaceEnviron.loadBalancerUrl "" ≠ "" := by
  have hlb : (spaceEnviron.settings true).loadBalancerUrl ≠ "" := by decide +kernel
  have hsteps : Steps (serve plainPython (spaceEnviron.settings true) anonymous tenMinutes
      anyAuthority leaving)
      [⟨.leave "7", toLoadBalancer (spaceEnviron.settings true) anonymous () ("/queue/" ++ "7"),
        .requestError⟩] (.done (asJson 200 [("ok", .bool true)] "")) := by
    simp only [serve, leaving, queueLeave, hlb, if_false]
    exact Steps.call (ρ := Reply) (k := Call.leave "7") Fetched.requestError (.refl _)
  exact calls_switched_on (Pool.Reachable.alone hsteps) List.mem_cons_self

end SpeechK8s.Demo.Server
