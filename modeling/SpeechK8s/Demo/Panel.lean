import SpeechK8s.Lib.Machine
import SpeechK8s.Lib.Numeral
import SpeechK8s.Demo.Connect

/-!
# demo/main.js: the settings, the tools and the camera

What the user chooses in the panels of the page, what of it the page keeps in `localStorage`, and
the camera, which is asked for and given while other events happen. What the panels show is left
out, and so is what of the choices is passed on to a conversation that is under way.
-/
namespace SpeechK8s.Demo.Panel

/-! ## Storage -/

/-- `STORAGE_KEYS` -/
inductive Key where
  | directUrl
  | voice
  | instructions
  | tools
  | searchKey
  | noiseGate
  | transport
  | audioInputId
  | audioOutputId
  deriving DecidableEq, Repr

/-- `localStorage` -/
abbrev Storage := Key → Option String

def Storage.setItem (s : Storage) (k : Key) (value : String) : Storage :=
  Function.update s k (some value)

def Storage.removeItem (s : Storage) (k : Key) : Storage := Function.update s k none

@[simp] theorem setItem_same (s : Storage) (k : Key) (v : String) : s.setItem k v k = some v :=
  Function.update_self ..

theorem setItem_ne (s : Storage) {k l : Key} (h : l ≠ k) (v : String) : s.setItem k v l = s l :=
  Function.update_of_ne h ..

@[simp] theorem removeItem_same (s : Storage) (k : Key) : s.removeItem k k = none :=
  Function.update_self ..

theorem removeItem_ne (s : Storage) {k l : Key} (h : l ≠ k) : s.removeItem k l = s l :=
  Function.update_of_ne h ..

/-- `localStorage.getItem(key) || ""` -/
def Storage.text (s : Storage) (k : Key) : String := (s k).getD ""

/-! ## The noise gate -/

def gateOffDb : Int := -66

def gateMaxDb : Int := -3

/-- A threshold on the axis of the slider. -/
abbrev Gate := { db : Int // gateOffDb ≤ db ∧ db ≤ gateMaxDb }

/-- `Math.min(GATE_MAX_DB, Math.max(GATE_OFF_DB, db))` -/
def clampGate (db : Int) : Gate :=
  ⟨min gateMaxDb (max gateOffDb db), by unfold gateMaxDb gateOffDb; omega⟩

def gateDefaultDb : Gate := ⟨-50, by decide⟩

theorem clampGate_self (g : Gate) : clampGate g.val = g := by
  ext
  have hlow := g.property.1
  have hhigh := g.property.2
  simp only [clampGate]
  omega

/-- `Math.round(Number(text))`, `none` where it is not finite. -/
def rounded (text : String) : Option Int :=
  (Numeral.number (jsTrim text).toList).map Numeral.round

def loadGateThreshold (s : Storage) : Gate :=
  match s .noiseGate with
  | none => gateDefaultDb
  | some stored =>
      if stored = "" then gateDefaultDb
      else
        match rounded stored with
        | none => gateDefaultDb
        | some raw => clampGate raw

def readGateThreshold (value : String) : Gate :=
  match rounded value with
  | none => clampGate gateOffDb
  | some v => clampGate v

/-- `String(db)` -/
def Gate.text (g : Gate) : String := String.ofList (Json.printInt g.val)

/-! ## Settings -/

/-- A text that is not empty. -/
abbrev Filled := { s : String // s ≠ "" }

/-- `s || d` -/
def orElse (s : String) (d : Filled) : Filled := if h : s = "" then d else ⟨s, h⟩

theorem orElse_self (s d : Filled) : orElse s.val d = s := dif_neg s.property

def defaultVoice : Filled := ⟨"Aiden", by decide⟩

def defaultInstructions : Filled := ⟨"You are a friendly voice assistant.", by decide⟩

@[ext] structure Settings extends PageSettings where
  voice : Filled
  instructions : Filled
  noiseGate : Gate
  audioInputId : String
  audioOutputId : String
  deriving DecidableEq

def Transport.ofText (text : Option String) : Transport :=
  if text = some "webrtc" then .webrtc else .ws

def Transport.text : Transport → String
  | .ws => "ws"
  | .webrtc => "webrtc"

def loadSettings (s : Storage) : Settings where
  directUrl := s.text .directUrl
  voice := orElse (s.text .voice) defaultVoice
  instructions := orElse (s.text .instructions) defaultInstructions
  noiseGate := loadGateThreshold s
  transport := Transport.ofText (s .transport)
  audioInputId := s.text .audioInputId
  audioOutputId := s.text .audioOutputId

def saveSettings (settings : Settings) (s : Storage) : Storage :=
  let s := s.setItem .directUrl settings.directUrl
  let s := s.setItem .voice settings.voice
  let s := s.setItem .instructions settings.instructions
  let s := s.setItem .noiseGate (Gate.text settings.noiseGate)
  let s := s.setItem .transport (Transport.text settings.transport)
  let s := s.setItem .audioInputId settings.audioInputId
  s.setItem .audioOutputId settings.audioOutputId

/-- What the fields of the form hold. -/
structure Form extends PageSettings where
  voice : String
  instructions : String
  noiseGate : String
  audioInputId : String
  audioOutputId : String

def readForm (c : PageConfig) (settings : Settings) (form : Form) : Settings :=
  { readSettingsFromForm c settings.toPageSettings form.toPageSettings with
    voice := orElse form.voice defaultVoice
    instructions := orElse (jsTrim form.instructions) defaultInstructions
    noiseGate := readGateThreshold form.noiseGate
    audioInputId := form.audioInputId
    audioOutputId := form.audioOutputId }

/-! ## Tools -/

@[ext] structure Tools where
  webSearch : Bool
  cameraSnapshot : Bool
  deriving DecidableEq

/-- `x ?? true`, of which only the truth is kept. -/
def Engine.orTrue (engine : Engine) : Option Json → Bool
  | none | some .null => true
  | some v => engine.truthy v

def loadTools (engine : Engine) (s : Storage) : Tools :=
  let text := if s.text .tools = "" then "{}" else s.text .tools
  match Json.parse text.toList with
  | none => ⟨true, true⟩
  | some raw =>
      match property (some raw) "web_search", property (some raw) "camera_snapshot" with
      | .ok web, .ok camera => ⟨Engine.orTrue engine web, Engine.orTrue engine camera⟩
      | _, _ => ⟨true, true⟩

/-- `JSON.stringify(toolsEnabled)` -/
def Tools.text (t : Tools) : String :=
  String.ofList (Json.print (fun _ => false)
    (.obj [("web_search", .bool t.webSearch), ("camera_snapshot", .bool t.cameraSnapshot)]))

/-! ## The page -/

/-- Who has asked for the camera. -/
inductive Asker where
  | autoStart
  | switch
  deriving DecidableEq, Repr

/-- What waits: `enableCamera` for the camera or for the video to play, and its caller for
`enableCamera`. -/
inductive Frame where
  | asking (asker : Asker)
  | playing (asker : Asker)
  | enabled (asker : Asker)
  | refused (asker : Asker)
  deriving DecidableEq, Repr

def Frame.isAsking : Frame → Bool
  | .asking _ => true
  | .playing _ | .enabled _ | .refused _ => false

/-- `live` are the streams that have not been stopped. `overlaps` counts how often the camera has
been asked for while it was being asked for already; the page does not know it. -/
structure State where
  storage : Storage
  config : PageConfig
  settings : Settings
  tools : Tools
  userSearchKey : String
  cameraStream : Option Nat
  live : List Nat
  nextStream : Nat
  frames : List Frame
  overlaps : Nat

def State.await (s : State) (f : Frame) : State := { s with frames := s.frames ++ [f] }

/-- How many requests for the camera wait for an answer. -/
def State.pending (s : State) : Nat := s.frames.countP Frame.isAsking

def searchAvailable (s : State) : Bool := s.config.serverSearchKey || s.userSearchKey ≠ ""

/-- An assignment to `toolsEnabled` and `saveTools`. -/
def setTools (t : Tools) (s : State) : State :=
  { s with tools := t, storage := s.storage.setItem .tools t.text }

def enableCamera (asker : Asker) (s : State) : State :=
  if s.cameraStream.isSome then s.await (.enabled asker)
  else
    { s.await (.asking asker) with
      overlaps := if s.pending = 0 then s.overlaps else s.overlaps + 1 }

def disableCamera (s : State) : State :=
  match s.cameraStream with
  | some c => { s with live := s.live.erase c, cameraStream := none }
  | none => s

def autoStartCamera (s : State) : State :=
  if !s.tools.cameraSnapshot || s.cameraStream.isSome then s else enableCamera .autoStart s

/-- The page after its script has run; a reload ends all streams of the page before. -/
def State.load (engine : Engine) (storage : Storage) : State :=
  autoStartCamera
    { storage := storage
      config := .initial
      settings := loadSettings storage
      tools := loadTools engine storage
      userSearchKey := storage.text .searchKey
      cameraStream := none
      live := []
      nextStream := 0
      frames := []
      overlaps := 0 }

def setGateThreshold (db : Int) (s : State) : State :=
  { s with
    settings := { s.settings with noiseGate := clampGate db }
    storage := s.storage.setItem .noiseGate (clampGate db).text }

/-- The form is submitted, or the conversation is restarted. -/
def saveForm (form : Form) (s : State) : State :=
  let settings := readForm s.config s.settings form
  { s with settings := settings, storage := saveSettings settings s.storage }

def onTransport (t : Transport) (s : State) : State :=
  if transportSelectable s.config then
    { s with
      settings := { s.settings with transport := t }
      storage := s.storage.setItem .transport (Transport.text t) }
  else s

def onWebSwitch (checked : Bool) (s : State) : State :=
  if checked && !searchAvailable s then s
  else setTools { s.tools with webSearch := checked } s

def onCameraSwitch (checked : Bool) (s : State) : State :=
  if checked then enableCamera .switch s
  else setTools { s.tools with cameraSnapshot := false } (disableCamera s)

def setSearchKey (key : String) (s : State) : State :=
  { s with
    userSearchKey := key
    storage := if key ≠ "" then s.storage.setItem .searchKey key
      else s.storage.removeItem .searchKey }

def onSearchKey (value : String) (s : State) : State :=
  if s.config.serverSearchKey then s
  else
    let s := setSearchKey (jsTrim value) s
    if !searchAvailable s && s.tools.webSearch then setTools { s.tools with webSearch := false } s
    else s

/-- `status.state` has become `"granted"` or `"denied"`. -/
def onPermission (granted : Bool) (s : State) : State :=
  if granted then
    autoStartCamera
      (if s.tools.cameraSnapshot then s else setTools { s.tools with cameraSnapshot := true } s)
  else
    let s := disableCamera s
    if s.tools.cameraSnapshot then setTools { s.tools with cameraSnapshot := false } s else s

/-- A frame goes on; `ok` is whether the user has given the camera. -/
def resume (f : Frame) (ok : Bool) (s : State) : State :=
  match f with
  | .asking asker =>
      if ok then
        { s.await (.playing asker) with
          cameraStream := some s.nextStream
          live := s.live ++ [s.nextStream]
          nextStream := s.nextStream + 1 }
      else s.await (.refused asker)
  | .playing asker => s.await (.enabled asker)
  | .enabled .switch => setTools { s.tools with cameraSnapshot := true } s
  | .refused .autoStart => setTools { s.tools with cameraSnapshot := false } s
  | .enabled .autoStart | .refused .switch => s

inductive Action where
  | save (form : Form)
  | slider (value : String)
  | drag (db : Int)
  | transport (t : Transport)
  | webSwitch (checked : Bool)
  | cameraSwitch (checked : Bool)
  | searchKey (value : String)
  | permission (granted : Bool)
  | config (res : Option HttpResponse)
  | resume (i : Nat) (ok : Bool)
  | reload

def step (engine : Engine) (s : State) : Action → Option State
  | .save form => some (saveForm form s)
  | .slider value => some (setGateThreshold (readGateThreshold value).val s)
  | .drag db => some (setGateThreshold db s)
  | .transport t => some (onTransport t s)
  | .webSwitch checked => some (onWebSwitch checked s)
  | .cameraSwitch checked => some (onCameraSwitch checked s)
  | .searchKey value => some (onSearchKey value s)
  | .permission granted => some (onPermission granted s)
  | .config res => some { s with config := engine.fetchConfig s.config res }
  | .resume i ok =>
      match s.frames[i]? with
      | some f => some (resume f ok { s with frames := s.frames.eraseIdx i })
      | none => none
  | .reload => some (State.load engine s.storage)

end SpeechK8s.Demo.Panel
