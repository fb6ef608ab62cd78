import SpeechK8s.Lib.Handler
import SpeechK8s.Lib.UrlParts
import SpeechK8s.Tts.Voices
import SpeechK8s.Demo.Proxy

/-!
# demo/server.py: the routes

Each route is a handler that calls Serper, the speech service, the load balancer, speech-mcp or
the usage limiter. The modules `auth` and `limiter` are parameters. What is only logged is left
out.
-/
namespace SpeechK8s.Demo.Server
open Handler
open Tts (strip)

/-! ## Settings -/

/-- The environment variables that the server reads, `none` where one is not set. -/
structure Environ where
  serperApiKey : Option String
  loadBalancerUrl : Option String
  lbHfToken : Option String
  speechToSpeechUrl : Option String
  spaceId : Option String
  mcpServerUrl : Option String
  rtcIceServers : Option String
  startupGreeting : Option String

/-- `os.environ.get(name, default).strip()` -/
def environ (value : Option String) (default : String) : String := strip (value.getD default)

structure Settings where
  serperKey : String
  loadBalancerUrl : String
  lbHfToken : String
  speechToSpeechUrl : String
  limiterEnabled : Bool
  mcpServerUrl : String
  rtcIceServers : List Json
  startupGreeting : String
  authEnabled : Bool

def commaSeparated (raw : String) : List String :=
  ((raw.toList.splitOn ',').map fun u => strip (String.ofList u)).filter (· ≠ "")

/-- `_parse_ice_servers`. Python also reads `NaN` and the infinities, which are no JSON. -/
def parseIceServers (raw : String) : List Json :=
  let raw := strip raw
  if raw = "" then []
  else
    match Json.parse raw.toList with
    | some (.arr items) => items
    | some (.obj fields) => [.obj fields]
    | _ => (commaSeparated raw).map fun u : String => .obj [("urls", .str u)]

def defaultStartupGreeting : String :=
  "Start the conversation now with a brief, spontaneous greeting in character. " ++
  "Keep it to one sentence, invite the user in naturally, and vary the wording each time."

/-- The constants of the module; `attach` is what `auth.attach` returns. -/
def Environ.settings (env : Environ) (attach : Bool) : Settings :=
  let speechToSpeechUrl := environ env.speechToSpeechUrl ""
  let loadBalancerUrl :=
    if speechToSpeechUrl ≠ "" then "" else environ env.loadBalancerUrl ""
  let limiterEnabled := loadBalancerUrl ≠ "" && environ env.spaceId "" ≠ ""
  { serperKey := environ env.serperApiKey ""
    loadBalancerUrl := loadBalancerUrl
    lbHfToken := environ env.lbHfToken ""
    speechToSpeechUrl := speechToSpeechUrl
    limiterEnabled := limiterEnabled
    mcpServerUrl := environ env.mcpServerUrl "http://speech-mcp:8080/mcp"
    rtcIceServers := parseIceServers (env.rtcIceServers.getD "")
    startupGreeting := environ env.startupGreeting defaultStartupGreeting
    authEnabled := limiterEnabled && attach }

/-! ## The modules that the server imports -/

structure Identity where
  tier : String
  keys : List String
  setCookie : String

/-- What `auth` makes of a request. A reason, a cookie or a token that is not there is the empty
string. -/
structure Auth (Visitor : Type) where
  loginRequiredReason : Visitor → String
  resolveIdentity : Visitor → Identity
  currentAccessToken : Visitor → String
  userView : Visitor → String → Json.Fields
  loginPath : String
  logoutPath : String

/-- A number of seconds. -/
structure Secs where
  mantissa : Int
  exponent : Int
  deriving DecidableEq

def Secs.json (s : Secs) : Json := .num s.mantissa s.exponent

/-- `rem <= 0` -/
def Secs.spent (s : Secs) : Bool := s.mantissa ≤ 0

structure Limiter where
  budgetFor : String → Option Secs
  heartbeatSec : Secs

/-- `s.strip()` of a string that need not be text. -/
def stripStr (s : Str) : Str := s.strip Tts.isSpace

/-! ## Calls -/

inductive Call where
  | serper (query : Str)
  | answer (offer : List UInt8)
  | allocate
  | poll (queueId : String)
  | leave (queueId : String)
  | tool (req : McpCallRequest)
  | limiterRemaining (keys : List String) (tier : String)
  | limiterBegin (sessionId : Json) (keys : List String) (tier : String)
  | limiterHeartbeat (sessionId : Json)
  | limiterEnd (sessionId : Json)

/-- What a request to another server comes to: an `httpx.RequestError`, another exception of
the client, or a response. -/
inductive Fetched (α : Type) where
  | requestError
  | raised
  | response (a : α)

/-- A status, and the body as a text and as a value, `none` where `resp.text` or `resp.json()`
raises. -/
structure Answer where
  status : Nat
  text : Option String
  json : Option Json

structure SdpAnswer where
  status : Nat
  content : List UInt8
  contentType : Option String
  location : Option String

/-- A function of the limiter may raise. -/
abbrev Reply : Call → Type
  | .serper _ | .allocate | .poll _ | .leave _ | .tool _ => Fetched Answer
  | .answer _ => Fetched SdpAnswer
  | .limiterRemaining _ _ => Option (Option Secs)
  | .limiterBegin _ _ _ | .limiterEnd _ => Option Unit
  | .limiterHeartbeat _ => Option Bool

/-- Where a call goes and under which headers; a call of the limiter stays in the process. -/
inductive Sent where
  | within
  | http (url : String) (headers : List (String × String))
  deriving DecidableEq

abbrev Serve := Handler Call Reply Sent Failure

def issue (k : Call) (sent : Sent) : Serve (Reply k) := ask k sent

def notFound {α : Type} : Serve α := throw (.httpException 404 (.str "Not found."))

def fetched {α : Type} (unreachable : String) : Fetched α → Serve α
  | .requestError => throw (.httpException 502 (.str unreachable))
  | .raised => throw .unhandled
  | .response a => pure a

def limited {α : Type} : Option α → Serve α
  | none => throw .unhandled
  | some a => pure a

/-! ## Responses -/

inductive Body where
  | json (v : Json)
  | relayed (content : List UInt8) (mediaType : String) (location : Option String)

/-- `forgetsLogin`: the session cookie loses `oauth_info`. -/
structure Response where
  status : Nat
  body : Body
  cookie : String
  forgetsLogin : Bool

def asJson (status : Nat) (fields : Json.Fields) (cookie : String) : Response :=
  ⟨status, .json (.obj fields), cookie, false⟩

/-- The body of the response can be written. -/
def Response.renders (r : Response) (py : Python) : Bool :=
  match r.body with
  | .json v => v.renders py.finite
  | .relayed _ _ _ => true

/-- A response that is sent, unless its body cannot be written. -/
def rendered (py : Python) (r : Response) : Serve Response :=
  if r.renders py then pure r else throw .unhandled

/-- The error for a status that is not 200; the body is read for the log first. -/
def refusal {α : Type} (resp : Answer) (detail : Str) : Serve α :=
  match resp.text with
  | none => throw .unhandled
  | some _ => throw (.httpException 502 (.str detail))

/-- `d[key] = v` -/
def setField (d : Json.Fields) (key : Str) (v : Json) : Json.Fields :=
  if d.any (·.1 = key) then d.map fun f => if f.1 = key then (key, v) else f else d ++ [(key, v)]

/-- `d.update(fields)` -/
def update (d fields : Json.Fields) : Json.Fields :=
  fields.foldl (fun d f => setField d f.1 f.2) d

def isStr (s : String) : Option Json → Bool
  | some (.str t) => t = s
  | _ => false

/-- `_safe_json` -/
def safeJson (a : Answer) : Json.Fields :=
  match a.json with
  | some (.obj fields) => fields
  | _ => []

/-- `lb.json()`, of which the server goes on to ask the state. -/
def jsonDict (a : Answer) : Serve (Json.Fields) :=
  match a.json with
  | some (.obj fields) => pure fields
  | _ => throw .unhandled

/-- `_queue_id` and `_session_id`; `none` where `request.json()` raises. -/
def idOf (key : String) : Option Json → Json
  | some (.obj fields) => (Json.lookup fields key).getD (.str "")
  | _ => .str ""

structure SearchRequest where
  query : Str
  key : Option Str

/-! ## Routes -/

section
variable {Visitor : Type} (py : Python) (cfg : Settings) (auth : Auth Visitor) (limiter : Limiter)

/-- `/api/config` -/
def config : Serve Response :=
  rendered py (asJson 200
    [("search", .bool (cfg.serperKey ≠ "")), ("lb", .bool (cfg.loadBalancerUrl ≠ "")),
      ("allowDirect", .bool (cfg.loadBalancerUrl = "")), ("s2sUrl", .str cfg.speechToSpeechUrl),
      ("rtc", .bool (cfg.speechToSpeechUrl ≠ "")), ("iceServers", .arr cfg.rtcIceServers),
      ("startupGreeting", .str cfg.startupGreeting), ("auth", .bool cfg.authEnabled)] "")

def remaining (who : Identity) : Serve (Option Secs) := do
  limited (← (issue (.limiterRemaining who.keys who.tier) .within : Serve (Option (Option Secs))))

def secsJson (s : Option Secs) : Json := (s.map Secs.json).getD .null

def authPath (path : String) : Json := if cfg.authEnabled then .str path else .null

/-- `/api/me` -/
def me (v : Visitor) : Serve Response :=
  if !cfg.limiterEnabled then pure (asJson 200 [("enabled", .bool false)] "")
  else do
    let who := auth.resolveIdentity v
    let rem ← if (limiter.budgetFor who.tier).isNone then pure none else remaining who
    let out := update [("enabled", .bool true), ("auth", .bool cfg.authEnabled)]
      (auth.userView v who.tier)
    rendered py (asJson 200 (update out
      [("remainingSec", secsJson rem), ("limitSec", secsJson (limiter.budgetFor who.tier)),
        ("loginUrl", authPath cfg auth.loginPath), ("logoutUrl", authPath cfg auth.logoutPath)])
      who.setCookie)

def serperUrl : String := "https://google.serper.dev/search"

def maxResults : Nat := 5

/-- `x[:n]` -/
def firstItems (n : Nat) : Json → Except Failure (List Json)
  | .arr items => .ok (items.take n)
  | .str s => .ok ((s.points.take n).map fun p => .str (.ofPoints [p]))
  | _ => .error .unhandled

/-- `x or y` -/
def orElse (x : Option Json) (y : Json) : Json :=
  match x with
  | some x => if truthy py.zero x then x else y
  | none => y

/-- One of the results, from an item of `organic`. -/
def searchResult (item : Json) : Except Failure Json := do
  .ok (.obj [("title", (← get item "title").getD (.str "")),
    ("snippet", (← get item "snippet").getD (.str "")),
    ("url", (← get item "link").getD (.str ""))])

/-- What `/api/search` makes of a body that Serper sent with status 200. -/
def readSearch (query : Str) (data : Json) : Except Failure Json.Fields := do
  let items ← firstItems maxResults (orElse py (← get data "organic") (.arr []))
  let results ← items.mapM searchResult
  let box := orElse py (← get data "answerBox") (.obj [])
  let answer := orElse py (← get box "answer") (orElse py (← get box "snippet") .null)
  if truthy py.zero answer then
    .ok [("query", .str query), ("answer", answer), ("results", .arr results)]
  else
    let kg := orElse py (← get data "knowledgeGraph") (.obj [])
    .ok [("query", .str query), ("answer", orElse py (← get kg "description") .null),
      ("results", .arr results)]

/-- The detail for a status other than 200, with the message of Serper if it has one. -/
def searchError (resp : Answer) : Str :=
  let detail : Str := .text ("Search provider error (" ++ toString resp.status ++ ")")
  match Json.lookup (safeJson resp) "message" with
  | some msg => if truthy py.zero msg then detail ++ ": " ++ py.text msg else detail
  | none => detail

/-- `/api/search`. A key that is not text makes no header. -/
def search (req : SearchRequest) : Serve Response :=
  let query := stripStr req.query
  if query = "" then throw (.httpException 400 (.str "Empty query."))
  else
    let own := stripStr (req.key.getD "")
    let key : Str := if own ≠ "" then own else cfg.serperKey
    if key = "" then throw (.httpException 503 (.str "Search is not configured."))
    else
      match key with
      | .ill _ _ => throw .unhandled
      | .text key => do
          let headers := [("X-API-KEY", key), ("Content-Type", "application/json")]
          let resp ← fetched "Search provider unreachable."
            (← (issue (.serper query) (.http serperUrl headers) : Serve (Fetched Answer)))
          if resp.status ≠ 200 then refusal resp (searchError py resp)
          else
            match resp.json with
            | none => throw .unhandled
            | some data => do
                let fields ← ofExcept (readSearch py query data)
                rendered py (asJson 200 fields "")

/-- `_webrtc_calls_url`, `none` where `urlsplit` raises; `checks` are its tests of an authority. -/
def webrtcCallsUrl (checks : List Char → Bool) (s2sUrl : String) : Option String :=
  let s := (strip s2sUrl).toList
  let s := if ["ws://", "wss://", "http://", "https://"].any fun p => p.toList.isPrefixOf s then s
    else "http://".toList ++ s
  let parts := Url.split s
  if parts.netloc.contains '[' = parts.netloc.contains ']' && checks parts.netloc then
    let scheme :=
      if parts.scheme = ['w', 's'] then ['h', 't', 't', 'p']
      else if parts.scheme = ['w', 's', 's'] then ['h', 't', 't', 'p', 's']
      else parts.scheme
    let path := if parts.path = [] ∨ parts.path = ['/'] then "/v1/realtime".toList else parts.path
    some (String.ofList (Url.unsplit (fun _ => true)
      ⟨scheme, parts.netloc, path.rdropWhile (· = '/') ++ "/calls".toList, parts.query, []⟩))
  else none

/-- `/api/calls` -/
def calls (checks : List Char → Bool) (offer : List UInt8) : Serve Response :=
  if cfg.speechToSpeechUrl = "" then notFound
  else
    match webrtcCallsUrl checks cfg.speechToSpeechUrl with
    | none => throw .unhandled
    | some url => do
        let resp ← fetched "Speech service unreachable."
          (← (issue (.answer offer) (.http url [("Content-Type", "application/sdp")]) :
            Serve (Fetched SdpAnswer)))
        pure ⟨resp.status, .relayed resp.content (resp.contentType.getD "application/sdp")
          resp.location, "", false⟩

/-! ### The load balancer -/

/-- `_load_balancer_headers` -/
def loadBalancerHeaders (v : Visitor) : List (String × String) :=
  let userToken := auth.currentAccessToken v
  let gatewayToken := if cfg.lbHfToken ≠ "" then cfg.lbHfToken else userToken
  [("Content-Type", "application/json"), ("User-Agent", "speech-to-speech-demo")] ++
    (if gatewayToken ≠ "" then [("Authorization", "Bearer " ++ gatewayToken)] else []) ++
    (if userToken ≠ "" then [("X-Reachy-Mini-Authorization", "Bearer " ++ userToken)] else [])

/-- A request to `LOAD_BALANCER_URL.rstrip('/')` followed by a path. -/
def toLoadBalancer (v : Visitor) (path : String) : Sent :=
  .http (String.ofList (cfg.loadBalancerUrl.toList.rdropWhile (· = '/')) ++ path)
    (loadBalancerHeaders cfg auth v)

/-- `_login_required_response` -/
def loginRequiredResponse (reason : Json) (setCookie : String) : Response :=
  asJson 401 [("reason", reason), ("loginUrl", authPath cfg auth.loginPath)] setCookie

def tracked (who : Identity) : Bool :=
  cfg.limiterEnabled && (limiter.budgetFor who.tier).isSome

/-- Whether the day's budget of a tracked caller is gone. -/
def outOfBudget (who : Identity) : Serve Bool :=
  if tracked cfg limiter who then do
    let rem ← remaining who
    pure (rem.any Secs.spent)
  else pure false

def limitResponse (who : Identity) : Response :=
  asJson 402 [("tier", .str who.tier), ("reason", .str "limit"), ("remainingSec", .num 0 0)]
    who.setCookie

def queuedResponse (data : Json.Fields) (who : Identity) : Response :=
  asJson 200 (setField data "tier" (.str who.tier)) who.setCookie

/-- What `_finalize_grant` adds to the grant of the load balancer. -/
def grantResponse (data : Json.Fields) (who : Identity) (rem : Option Secs) : Response :=
  asJson 200 (update data [("tier", .str who.tier), ("limited", .bool (tracked cfg limiter who)),
    ("remainingSec", secsJson rem), ("heartbeatSec", limiter.heartbeatSec.json)]) who.setCookie

/-- `_finalize_grant` -/
def finalizeGrant (data : Json.Fields) (who : Identity) : Serve Response := do
  let sessionId := (Json.lookup data "session_id").getD .null
  let rem ←
    if tracked cfg limiter who && truthy py.zero sessionId then do
      limited (← (issue (.limiterBegin sessionId who.keys who.tier) .within : Serve (Option Unit)))
      remaining who
    else pure none
  rendered py (grantResponse cfg limiter data who rem)

/-- `/api/session` once the load balancer has answered. -/
def sessionAnswered (lb : Answer) (who : Identity) : Serve Response :=
  if lb.status = 503 ∧ isStr "at_capacity" (Json.lookup (safeJson lb) "state") then
    pure (asJson 503 [("state", .str "at_capacity")] who.setCookie)
  else if lb.status = 401 then
    let reason := (Json.lookup (safeJson lb) "reason").getD (.str "login_required")
    rendered py { loginRequiredResponse cfg auth reason who.setCookie with
      forgetsLogin := isStr "token_invalid" (some reason) }
  else if lb.status ≠ 200 then
    refusal lb s!"Session handshake failed ({lb.status})."
  else do
    let data ← jsonDict lb
    if isStr "queued" (Json.lookup data "state") then rendered py (queuedResponse data who)
    else finalizeGrant py cfg limiter data who

/-- `/api/session` -/
def session (v : Visitor) : Serve Response :=
  let who := auth.resolveIdentity v
  if cfg.loadBalancerUrl = "" then notFound
  else if auth.loginRequiredReason v ≠ "" then
    pure (loginRequiredResponse cfg auth (.str (auth.loginRequiredReason v)) "")
  else do
    if ← outOfBudget cfg limiter who then pure (limitResponse who)
    else
      let lb ← fetched "Speech service unreachable."
        (← (issue .allocate (toLoadBalancer cfg auth v "/session") : Serve (Fetched Answer)))
      sessionAnswered py cfg auth limiter lb who

/-- `/api/queue/{queue_id}` once the load balancer has answered. -/
def queueAnswered (lb : Answer) (who : Identity) : Serve Response :=
  if lb.status = 404 then pure (asJson 404 [("state", .str "expired")] who.setCookie)
  else if lb.status ≠ 200 then refusal lb s!"Queue poll failed ({lb.status})."
  else do
    let data ← jsonDict lb
    if isStr "queued" (Json.lookup data "state") then rendered py (queuedResponse data who)
    else do
      if ← outOfBudget cfg limiter who then pure (limitResponse who)
      else finalizeGrant py cfg limiter data who

/-- `GET /api/queue/{queue_id}` -/
def queueStatus (queueId : String) (v : Visitor) : Serve Response :=
  let who := auth.resolveIdentity v
  if cfg.loadBalancerUrl = "" then notFound
  else if auth.loginRequiredReason v ≠ "" then
    pure (loginRequiredResponse cfg auth (.str (auth.loginRequiredReason v)) "")
  else do
    let lb ← fetched "Speech service unreachable."
      (← (issue (.poll queueId) (toLoadBalancer cfg auth v ("/queue/" ++ queueId)) :
        Serve (Fetched Answer)))
    queueAnswered py cfg limiter lb who

/-- `_lb_leave` -/
def lbLeave (queueId : String) (v : Visitor) : Serve Unit := do
  match ← (issue (.leave queueId) (toLoadBalancer cfg auth v ("/queue/" ++ queueId)) :
      Serve (Fetched Answer)) with
  | .raised => throw .unhandled
  | .response a =>
      -- the body is read for the log
      if a.status ≠ 200 ∧ a.status ≠ 404 ∧ a.text = none then throw .unhandled else pure ()
  | .requestError => pure ()

/-- `DELETE /api/queue/{queue_id}` -/
def queueLeave (queueId : String) (v : Visitor) : Serve Response :=
  if cfg.loadBalancerUrl = "" then notFound
  else do
    lbLeave cfg auth queueId v
    pure (asJson 200 [("ok", .bool true)] "")

/-- `/api/queue/end`. An id that is not text makes no URL. -/
def queueEnd (body : Option Json) (v : Visitor) : Serve Response :=
  let queueId := idOf "queueId" body
  if cfg.loadBalancerUrl = "" then notFound
  else do
    if truthy py.zero queueId then
      match py.text queueId with
      | .text queueId => lbLeave cfg auth queueId v
      | .ill _ _ => throw .unhandled
    else pure ()
    pure (asJson 200 [("ok", .bool true)] "")

/-! ### The limiter and speech-mcp -/

/-- `/api/session/heartbeat` -/
def sessionHeartbeat (body : Option Json) : Serve Response :=
  let sessionId := idOf "sessionId" body
  if !cfg.limiterEnabled then notFound
  else do
    let alive ←
      if truthy py.zero sessionId then do
        limited (← (issue (.limiterHeartbeat sessionId) .within : Serve (Option Bool)))
      else pure false
    pure (asJson 200 [("expired", .bool (!alive))] "")

/-- `/api/session/end` -/
def sessionEnd (body : Option Json) : Serve Response :=
  let sessionId := idOf "sessionId" body
  if !cfg.limiterEnabled then notFound
  else do
    if truthy py.zero sessionId then do
      limited (← (issue (.limiterEnd sessionId) .within : Serve (Option Unit)))
    else pure ()
    pure (asJson 200 [("ok", .bool true)] "")

def asUpstream : Fetched Answer → Upstream
  | .requestError => .requestError
  | .raised => .raised
  | .response a => .response a.status a.text a.json

/-- `/api/mcp/call` -/
def mcpCallRoute (req : McpCallRequest) : Serve Response :=
  if cfg.mcpServerUrl = "" then
    throw (.httpException 503 (.str "Tool server is not configured."))
  else do
    let headers := [("Accept", "application/json, text/event-stream")]
    let reply ← (issue (.tool req) (.http cfg.mcpServerUrl headers) : Serve (Fetched Answer))
    let output ← ofExcept (mcpCall py cfg.mcpServerUrl (fun _ => asUpstream reply) req)
    rendered py (asJson 200 [("output", .str output)] "")

inductive Route where
  | config
  | me
  | search (req : SearchRequest)
  | calls (offer : List UInt8)
  | session
  | queueStatus (queueId : String)
  | queueLeave (queueId : String)
  | queueEnd (body : Option Json)
  | sessionHeartbeat (body : Option Json)
  | sessionEnd (body : Option Json)
  | mcpCall (req : McpCallRequest)

structure Request (Visitor : Type) where
  route : Route
  visitor : Visitor

def serve (checks : List Char → Bool) (req : Request Visitor) : Serve Response :=
  match req.route with
  | .config => config py cfg
  | .me => me py cfg auth limiter req.visitor
  | .search body => search py cfg body
  | .calls offer => calls cfg checks offer
  | .session => session py cfg auth limiter req.visitor
  | .queueStatus queueId => queueStatus py cfg auth limiter queueId req.visitor
  | .queueLeave queueId => queueLeave cfg auth queueId req.visitor
  | .queueEnd body => queueEnd py cfg auth body req.visitor
  | .sessionHeartbeat body => sessionHeartbeat py cfg body
  | .sessionEnd body => sessionEnd py cfg body
  | .mcpCall body => mcpCallRoute py cfg body

end

end SpeechK8s.Demo.Server
