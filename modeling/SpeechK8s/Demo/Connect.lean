import SpeechK8s.Demo.Relay
import SpeechK8s.Demo.Server

/-!
# demo/main.js: where the page connects to

The page learns from `/api/config` how it is deployed: behind a load balancer, with a server that
the deployment has pinned, or with none, so that the user enters one. It starts out as in the last
case and stays so if the configuration cannot be read.
-/
namespace SpeechK8s.Demo

/-! ## Configuration -/

/-- Whitespace and line terminators, which `String.prototype.trim` removes. -/
def isJsSpace (c : Char) : Bool :=
  let n := c.toNat
  (9 ≤ n && n ≤ 13) || n == 0x20 || n == 0xa0 || n == 0x1680 || (0x2000 ≤ n && n ≤ 0x200a) ||
    n == 0x2028 || n == 0x2029 || n == 0x202f || n == 0x205f || n == 0x3000 || n == 0xfeff

def jsTrim (s : String) : String :=
  String.ofList ((s.toList.dropWhile isJsSpace).rdropWhile isJsSpace)

/-- `s.trim()` of a string that need not be text. -/
def jsTrimStr (s : Str) : Str := s.strip isJsSpace

theorem jsTrimStr_text (s : String) : jsTrimStr s = jsTrim s := Str.strip_text isJsSpace s

structure PageConfig where
  serverSearchKey : Bool
  lbMode : Bool
  allowDirect : Bool
  pinnedUrl : Str
  rtcAvailable : Bool
  iceServers : List Json
  startupGreeting : Str
  limiterOn : Bool

def PageConfig.initial : PageConfig where
  serverSearchKey := false
  lbMode := false
  allowDirect := true
  pinnedUrl := ""
  rtcAvailable := false
  iceServers := []
  startupGreeting := ""
  limiterOn := false

section
variable (engine : Engine)

/-- `!!x` -/
def Engine.isSet : Option Json → Bool
  | none => false
  | some v => engine.truthy v

/-- `(x || "").trim()`, `none` where it throws. -/
def Engine.trimmed : Option Json → Option Str
  | some (.str s) => some (jsTrimStr s)
  | some v => if engine.truthy v then none else some ""
  | none => some ""

/-- The assignments of `fetchConfig`, up to the one that throws if one does. -/
def Engine.readConfig (c : PageConfig) (json : Json) : PageConfig :=
  match property (some json) "search", property (some json) "lb",
      property (some json) "allowDirect", property (some json) "s2sUrl",
      property (some json) "rtc", property (some json) "iceServers",
      property (some json) "startupGreeting" with
  | .ok search, .ok lb, .ok allowDirect, .ok s2sUrl, .ok rtc, .ok iceServers, .ok greeting =>
      let lbMode := engine.isSet lb
      let c := { c with
        serverSearchKey := engine.isSet search
        lbMode := lbMode
        allowDirect :=
          match allowDirect with
          | none | some .null => !lbMode
          | some v => engine.truthy v }
      match engine.trimmed s2sUrl with
      | none => c
      | some pinnedUrl =>
          { c with
            pinnedUrl := pinnedUrl
            rtcAvailable := engine.isSet rtc
            iceServers :=
              match iceServers with
              | some (.arr servers) => servers
              | _ => []
            startupGreeting :=
              match greeting with
              | some (.str s) => jsTrimStr s
              | _ => ""
            limiterOn := lbMode }
  | _, _, _, _, _, _, _ => c

/-- `fetchConfig`, for what `fetch("api/config")` comes to. -/
def Engine.fetchConfig (c : PageConfig) : Option HttpResponse → PageConfig
  | none => c
  | some res =>
      if res.ok then
        match res.json with
        | .ok json => engine.readConfig c json
        | .error _ => c
      else c

end

/-! ## Targets -/

inductive Transport where
  | ws
  | webrtc
  deriving DecidableEq, Repr

structure PageSettings where
  directUrl : String
  transport : Transport
  deriving DecidableEq, Repr

def lower : CodePoint → CodePoint
  | .char c => .char c.toLower
  | .surrogate n => .surrogate n

def beginsWith (starts : List String) (s : List CodePoint) : Bool :=
  starts.any fun start => (Str.text start).points.isPrefixOf (s.map lower)

/-- `/^(localhost|127\.0\.0\.1|\[::1\])(:|\/|$)/i` -/
def isLocal (s : List CodePoint) : Bool :=
  ["localhost", "127.0.0.1", "[::1]"].any fun host =>
    beginsWith [host] s &&
      match s.drop host.length with
      | [] => true
      | p :: _ => p = .char ':' || p = .char '/'

/-- `buildDirectWsUrl`; `normalise` is the `try` statement around `new URL`. -/
def buildDirectWsUrl (normalise : Str → Str) (raw : Str) : Str :=
  let s := (jsTrimStr raw).points
  if s = [] then ""
  else
    let s :=
      if beginsWith ["ws://", "wss://"] s then s
      else if beginsWith ["http://", "https://"] s then (Str.text "ws").points ++ s.drop 4
      else if isLocal s then (Str.text "ws://").points ++ s
      else (Str.text "wss://").points ++ s
    normalise (.ofPoints s)

inductive Target where
  | sessionUrl (url : String)
  | directUrl (url : Str)
  | callsUrl (url : String)
  deriving DecidableEq

section
variable (normalise : Str → Str) (c : PageConfig) (settings : PageSettings)

/-- `connectionTarget`, `none` where it throws. -/
def connectionTarget : Option Target :=
  if !c.allowDirect then some (.sessionUrl "api/session")
  else
    let directUrl := buildDirectWsUrl normalise
      (if c.pinnedUrl ≠ "" then c.pinnedUrl else .text settings.directUrl)
    if directUrl = "" then none else some (.directUrl directUrl)

def transportSelectable : Bool := c.allowDirect && c.pinnedUrl ≠ "" && c.rtcAvailable

def effectiveTransport : Transport :=
  if transportSelectable c && settings.transport = .webrtc then .webrtc else .ws

def missingServerUrl : Bool :=
  c.allowDirect && c.pinnedUrl = "" && buildDirectWsUrl normalise settings.directUrl = ""

/-- Where a conversation that starts now connects to. -/
def startTarget : Option Target :=
  match effectiveTransport c settings with
  | .webrtc => some (.callsUrl "api/calls")
  | .ws => connectionTarget normalise c settings

/-- `readSettingsFromForm`, with what the form shows. -/
def readSettingsFromForm (form : PageSettings) : PageSettings where
  directUrl :=
    if c.allowDirect && c.pinnedUrl = "" then jsTrim form.directUrl else settings.directUrl
  transport := if transportSelectable c then form.transport else settings.transport

end

end SpeechK8s.Demo
