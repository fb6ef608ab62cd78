import SpeechK8s.Demo.Panel
import SpeechK8s.Demo.Relay

/-!
# What a reload finds, and which cameras run

Whatever happens on the page, its storage holds the choices as they stand, so that a page that is
loaded at any moment starts with them. And a stream of the camera is only ever lost sight of where
two requests for the camera overlap.
-/
namespace SpeechK8s.Demo.Panel
open Machine

/-! ## What is written is read back -/

theorem jsTrim_self {cs : List Char} (h : ∀ c ∈ cs, isJsSpace c = false) :
    jsTrim (String.ofList cs) = String.ofList cs := by
  have hdrop : cs.dropWhile isJsSpace = cs := by
    cases cs with
    | nil => rfl
    | cons c cs => exact List.dropWhile_cons_of_neg (by simp [h c List.mem_cons_self])
  have hrdrop : cs.rdropWhile isJsSpace = cs := by
    refine List.rdropWhile_eq_self_iff.mpr fun hne => ?_
    simp [h _ (List.getLast_mem hne)]
  rw [jsTrim, String.toList_ofList, hdrop, hrdrop]

theorem isJsSpace_digit {c : Char} (h : c.isDigit = true) : isJsSpace c = false := by
  have hrange : 48 ≤ c.toNat ∧ c.toNat ≤ 57 := by
    simpa [Char.isDigit, UInt32.le_iff_toNat_le] using h
  simp only [isJsSpace]
  generalize c.toNat = n at hrange
  simp
  omega

theorem isJsSpace_printInt (m : Int) : ∀ c ∈ Json.printInt m, isJsSpace c = false := by
  intro c hc
  cases m with
  | ofNat n => exact isJsSpace_digit (Json.isDigit_toDigits hc)
  | negSucc n =>
      rcases List.mem_cons.mp hc with rfl | hc
      · decide
      · exact isJsSpace_digit (Json.isDigit_toDigits hc)

theorem rounded_text (g : Gate) : rounded (Gate.text g) = some g.val := by
  have hsmall : g.val.natAbs < 2 ^ 53 := by
    have hlow : -66 ≤ g.val := g.property.1
    have hhigh : g.val ≤ -3 := g.property.2
    omega
  rw [rounded, Gate.text, jsTrim_self (isJsSpace_printInt _), String.toList_ofList,
    Numeral.number_printInt hsmall, Option.map_some, Numeral.round_intCast]

theorem printInt_ne_nil (m : Int) : Json.printInt m ≠ [] := by
  cases m with
  | ofNat n => exact Nat.toDigits_ne_nil
  | negSucc n => exact List.cons_ne_nil _ _

theorem loadGateThreshold_of_text {s : Storage} {g : Gate} (h : s .noiseGate = some (Gate.text g)) :
    loadGateThreshold s = g := by
  have hne : Gate.text g ≠ "" := by
    intro hnil
    exact printInt_ne_nil g.val (String.ofList_eq_empty_iff.mp hnil)
  simp only [loadGateThreshold, h, hne, if_false, rounded_text, clampGate_self]

theorem ofText_text (t : Transport) : Transport.ofText (some (Transport.text t)) = t := by
  cases t <;> rfl

theorem text_of_some {s : Storage} {k : Key} {v : String} (h : s k = some v) : s.text k = v := by
  rw [Storage.text, h, Option.getD_some]

/-- The settings are a matter of their own keys. -/
theorem loadSettings_congr {s t : Storage} (h : ∀ k, k ≠ .tools → k ≠ .searchKey → s k = t k) :
    loadSettings s = loadSettings t := by
  have hkey : ∀ k, k ≠ .tools → k ≠ .searchKey → s.text k = t.text k := by
    intro k htools hkey
    rw [Storage.text, Storage.text, h k htools hkey]
  simp only [loadSettings, loadGateThreshold, h .noiseGate (by decide) (by decide),
    h .transport (by decide) (by decide), hkey .directUrl (by decide) (by decide),
    hkey .voice (by decide) (by decide), hkey .instructions (by decide) (by decide),
    hkey .audioInputId (by decide) (by decide), hkey .audioOutputId (by decide) (by decide)]

/-- `loadSettings` reads what `saveSettings` has written. -/
theorem loadSettings_saveSettings (settings : Settings) (s : Storage) :
    loadSettings (saveSettings settings s) = settings := by
  have hgate : saveSettings settings s .noiseGate = some (Gate.text settings.noiseGate) := by
    simp [saveSettings, setItem_ne]
  have htransport :
      saveSettings settings s .transport = some (Transport.text settings.transport) := by
    simp [saveSettings, setItem_ne]
  have hvoice : (saveSettings settings s).text .voice = settings.voice :=
    text_of_some (by simp [saveSettings, setItem_ne])
  have hinstructions : (saveSettings settings s).text .instructions = settings.instructions :=
    text_of_some (by simp [saveSettings, setItem_ne])
  have hurl : (saveSettings settings s).text .directUrl = settings.directUrl :=
    text_of_some (by simp [saveSettings, setItem_ne])
  have hinput : (saveSettings settings s).text .audioInputId = settings.audioInputId :=
    text_of_some (by simp [saveSettings, setItem_ne])
  have houtput : (saveSettings settings s).text .audioOutputId = settings.audioOutputId :=
    text_of_some (by simp [saveSettings])
  simp only [loadSettings, hurl, hvoice, hinstructions, loadGateThreshold_of_text hgate, htransport,
    ofText_text, orElse_self, hinput, houtput]

theorem saveSettings_other (settings : Settings) (s : Storage) {k : Key}
    (h : k = .tools ∨ k = .searchKey) : saveSettings settings s k = s k := by
  rcases h with rfl | rfl <;> simp [saveSettings, setItem_ne]

theorem loadSettings_noiseGate (s : Storage) (g : Gate) :
    loadSettings (s.setItem .noiseGate (Gate.text g)) = { loadSettings s with noiseGate := g } := by
  have hgate := loadGateThreshold_of_text (setItem_same s .noiseGate (Gate.text g))
  have hother : ∀ k, k ≠ .noiseGate → (s.setItem .noiseGate (Gate.text g)) k = s k :=
    fun k hk => setItem_ne s hk _
  simp [loadSettings, hgate, Storage.text, hother]

theorem loadSettings_transport (s : Storage) (t : Transport) :
    loadSettings (s.setItem .transport (Transport.text t)) =
      { loadSettings s with transport := t } := by
  have hother : ∀ k, k ≠ .transport → (s.setItem .transport (Transport.text t)) k = s k :=
    fun k hk => setItem_ne s hk _
  simp [loadSettings, loadGateThreshold, Storage.text, hother, ofText_text]

theorem loadTools_congr (engine : Engine) {s t : Storage} (h : s .tools = t .tools) :
    loadTools engine s = loadTools engine t := by
  have htext : s.text .tools = t.text .tools := by rw [Storage.text, Storage.text, h]
  unfold loadTools
  rw [htext]

/-- `loadTools` reads what `saveTools` has written. -/
theorem loadTools_setItem (engine : Engine) (s : Storage) (t : Tools) :
    loadTools engine (s.setItem .tools t.text) = t := by
  have htext : (s.setItem .tools t.text).text .tools = t.text := text_of_some (setItem_same ..)
  have hne : t.text ≠ "" := by
    intro hnil
    have hprint := String.ofList_eq_empty_iff.mp hnil
    cases hprint
  have hparse : Json.parse t.text.toList = some (.obj [("web_search", .bool t.webSearch),
      ("camera_snapshot", .bool t.cameraSnapshot)]) := by
    rw [Tools.text, String.toList_ofList]
    have hrenders : Json.renders (fun _ _ => true) (.obj [("web_search", .bool t.webSearch),
        ("camera_snapshot", .bool t.cameraSnapshot)]) = true := rfl
    exact Json.parse_print _ hrenders
  simp only [loadTools, htext, if_neg hne, hparse]
  rfl

/-! ## Reloading -/

/-- What the user has chosen. -/
def State.choices (s : State) : Settings × Tools × String := (s.settings, s.tools, s.userSearchKey)

/-- What the storage holds. -/
def stored (engine : Engine) (s : Storage) : Settings × Tools × String :=
  (loadSettings s, loadTools engine s, s.text .searchKey)

/-- The storage holds what the user has chosen. -/
structure Kept (engine : Engine) (s : State) : Prop where
  settings : loadSettings s.storage = s.settings
  tools : loadTools engine s.storage = s.tools
  searchKey : s.storage.text .searchKey = s.userSearchKey

section
variable {engine : Engine} {s : State}

theorem Kept.setTools (h : Kept engine s) (t : Tools) : Kept engine (setTools t s) := by
  refine ⟨?_, loadTools_setItem engine s.storage t, ?_⟩
  · refine Eq.trans (loadSettings_congr fun k hk _ => ?_) h.settings
    exact setItem_ne s.storage hk _
  · have hother : (s.storage.setItem .tools t.text) .searchKey = s.storage .searchKey :=
      setItem_ne s.storage (by decide) _
    exact (congrArg (·.getD "") hother).trans h.searchKey

theorem Kept.await (h : Kept engine s) (f : Frame) : Kept engine (s.await f) :=
  ⟨h.settings, h.tools, h.searchKey⟩

theorem Kept.enableCamera (h : Kept engine s) (asker : Asker) :
    Kept engine (enableCamera asker s) := by
  unfold Panel.enableCamera
  split
  · exact h.await _
  · exact ⟨h.settings, h.tools, h.searchKey⟩

theorem Kept.disableCamera (h : Kept engine s) : Kept engine (disableCamera s) := by
  unfold Panel.disableCamera
  split
  · exact ⟨h.settings, h.tools, h.searchKey⟩
  · exact h

theorem Kept.autoStartCamera (h : Kept engine s) : Kept engine (autoStartCamera s) := by
  unfold Panel.autoStartCamera
  split
  · exact h
  · exact h.enableCamera _

theorem kept_load (engine : Engine) (storage : Storage) :
    Kept engine (State.load engine storage) := by
  unfold State.load
  apply Kept.autoStartCamera
  exact ⟨rfl, rfl, rfl⟩

theorem Kept.setSearchKey (h : Kept engine s) (key : String) :
    Kept engine (setSearchKey key s) := by
  have hother : ∀ k, k ≠ .searchKey → (Panel.setSearchKey key s).storage k = s.storage k := by
    intro k hk
    unfold Panel.setSearchKey
    dsimp only
    split
    · exact setItem_ne s.storage hk _
    · exact removeItem_ne s.storage hk
  refine ⟨?_, ?_, ?_⟩
  · exact Eq.trans (loadSettings_congr fun k _ hk => hother k hk) h.settings
  · exact Eq.trans (loadTools_congr engine (hother .tools (by decide))) h.tools
  · by_cases hempty : key = "" <;> simp [Panel.setSearchKey, Storage.text, hempty]

theorem Kept.onSearchKey (h : Kept engine s) (value : String) :
    Kept engine (onSearchKey value s) := by
  unfold Panel.onSearchKey
  split
  · exact h
  · have hkey := h.setSearchKey (jsTrim value)
    dsimp only
    split
    · exact hkey.setTools _
    · exact hkey

theorem Kept.saveForm (h : Kept engine s) (form : Form) : Kept engine (saveForm form s) := by
  have hother : ∀ k, k = .tools ∨ k = .searchKey →
      saveSettings (readForm s.config s.settings form) s.storage k = s.storage k :=
    fun k hk => saveSettings_other _ _ hk
  refine ⟨loadSettings_saveSettings _ _, ?_, ?_⟩
  · exact Eq.trans (loadTools_congr engine (hother .tools (.inl rfl))) h.tools
  · exact (congrArg (·.getD "") (hother .searchKey (.inr rfl))).trans h.searchKey

theorem Kept.setGateThreshold (h : Kept engine s) (db : Int) :
    Kept engine (setGateThreshold db s) := by
  have hother : ∀ k, k ≠ .noiseGate →
      (s.storage.setItem .noiseGate (Gate.text (clampGate db))) k = s.storage k :=
    fun k hk => setItem_ne s.storage hk _
  refine ⟨?_, ?_, ?_⟩
  · refine (loadSettings_noiseGate _ _).trans ?_
    rw [h.settings]
    rfl
  · exact Eq.trans (loadTools_congr engine (hother .tools (by decide))) h.tools
  · exact (congrArg (·.getD "") (hother .searchKey (by decide))).trans h.searchKey

theorem Kept.onTransport (h : Kept engine s) (t : Transport) : Kept engine (onTransport t s) := by
  have hother : ∀ k, k ≠ .transport →
      (s.storage.setItem .transport (Transport.text t)) k = s.storage k :=
    fun k hk => setItem_ne s.storage hk _
  unfold Panel.onTransport
  split
  · refine ⟨?_, ?_, ?_⟩
    · refine (loadSettings_transport _ _).trans ?_
      rw [h.settings]
    · exact Eq.trans (loadTools_congr engine (hother .tools (by decide))) h.tools
    · exact (congrArg (·.getD "") (hother .searchKey (by decide))).trans h.searchKey
  · exact h

theorem Kept.step (h : Kept engine s) {a : Action} {t : State} (ht : step engine s a = some t) :
    Kept engine t := by
  cases a with
  | save form =>
      obtain rfl := Option.some.inj ht
      exact h.saveForm form
  | slider value | drag db =>
      obtain rfl := Option.some.inj ht
      exact h.setGateThreshold _
  | transport t =>
      obtain rfl := Option.some.inj ht
      exact h.onTransport t
  | webSwitch checked =>
      obtain rfl := Option.some.inj ht
      unfold onWebSwitch
      split
      · exact h
      · exact h.setTools _
  | cameraSwitch checked =>
      obtain rfl := Option.some.inj ht
      unfold onCameraSwitch
      split
      · exact h.enableCamera _
      · exact h.disableCamera.setTools _
  | searchKey value =>
      obtain rfl := Option.some.inj ht
      exact h.onSearchKey value
  | permission granted =>
      obtain rfl := Option.some.inj ht
      unfold onPermission
      split
      · apply Kept.autoStartCamera
        split
        · exact h
        · exact h.setTools _
      · dsimp only
        split
        · exact h.disableCamera.setTools _
        · exact h.disableCamera
  | config res =>
      obtain rfl := Option.some.inj ht
      exact ⟨h.settings, h.tools, h.searchKey⟩
  | resume i ok =>
      unfold Panel.step at ht
      dsimp only at ht
      split at ht
      · rename_i f hf
        obtain rfl := Option.some.inj ht
        have hresumed : Kept engine { s with frames := s.frames.eraseIdx i } :=
          ⟨h.settings, h.tools, h.searchKey⟩
        cases f with
        | asking asker =>
            unfold Panel.resume
            dsimp only
            split
            · exact ⟨h.settings, h.tools, h.searchKey⟩
            · exact hresumed.await _
        | playing asker => exact hresumed.await _
        | enabled asker =>
            cases asker with
            | autoStart => exact hresumed
            | switch => exact hresumed.setTools _
        | refused asker =>
            cases asker with
            | autoStart => exact hresumed.setTools _
            | switch => exact hresumed
      · cases ht
  | reload =>
      obtain rfl := Option.some.inj ht
      exact kept_load engine s.storage

theorem choices_autoStartCamera (s : State) : (autoStartCamera s).choices = s.choices := by
  unfold autoStartCamera enableCamera
  split
  · rfl
  · split <;> rfl

theorem choices_load (engine : Engine) (storage : Storage) :
    (State.load engine storage).choices = stored engine storage := choices_autoStartCamera _

/-- At any moment a page that is loaded anew starts with the very choices of the page before. -/
theorem reload_keeps {storage : Storage}
    (hs : Reachable (step engine) (State.load engine storage) s) :
    stored engine s.storage = s.choices ∧
      ∃ t, step engine s .reload = some t ∧ t.choices = s.choices := by
  have hkept : Kept engine s :=
    hs.invariant (kept_load engine storage) fun _ _ _ h ht => h.step ht
  have hstored : stored engine s.storage = s.choices := by
    rw [stored, State.choices, hkept.settings, hkept.tools, hkept.searchKey]
  exact ⟨hstored, _, rfl, (choices_load engine s.storage).trans hstored⟩

/-- A first visit. -/
def noStorage : Storage := fun _ => none

/-- The user moves the gate off its slider, turns the search off and reloads. -/
def chosen : List Action := [.slider "-99.5", .webSwitch false, .searchKey " k ", .reload]

theorem chosen_kept :
    ∃ s, exec (step quietEngine) (State.load quietEngine noStorage) chosen = some s ∧
      s.choices = (⟨⟨"", .ws⟩, defaultVoice, defaultInstructions, clampGate (-66), "", ""⟩,
        ⟨false, true⟩, "k") ∧
      ∃ t, step quietEngine s .reload = some t ∧ t.choices = s.choices := by
  obtain ⟨s, hrun, hchoices⟩ :
      ∃ s, exec (step quietEngine) (State.load quietEngine noStorage) chosen = some s ∧
        s.choices = (⟨⟨"", .ws⟩, defaultVoice, defaultInstructions, clampGate (-66), "", ""⟩,
          ⟨false, true⟩, "k") := by
    refine ⟨_, rfl, ?_⟩
    decide +kernel
  exact ⟨s, hrun, hchoices, (reload_keeps (reachable_exec .start hrun)).2⟩

end

/-! ## The camera -/

/-- What the page knows of the camera, and what it does not. -/
def State.camera (s : State) : Option Nat × List Nat × Nat × List Frame × Nat :=
  (s.cameraStream, s.live, s.nextStream, s.frames, s.overlaps)

/-- There are no more streams than the page's own and one for each overlap, counting those that are
being asked for. -/
structure Watched (s : State) : Prop where
  fresh : ∀ c ∈ s.live, c < s.nextStream
  nodup : s.live.Nodup
  mine : ∀ c, s.cameraStream = some c → c ∈ s.live
  few : s.live.length + s.pending ≤ s.overlaps + 1
  idle : s.cameraStream = none → s.pending = 0 → s.live.length ≤ s.overlaps

section
variable {engine : Engine} {s t : State}

theorem Watched.congr (h : Watched s) (hcamera : t.camera = s.camera) : Watched t := by
  obtain ⟨hstream, hlive, hnext, hframes, hoverlaps⟩ :
      t.cameraStream = s.cameraStream ∧ t.live = s.live ∧ t.nextStream = s.nextStream ∧
        t.frames = s.frames ∧ t.overlaps = s.overlaps := by
    simpa [State.camera] using hcamera
  have hpending : t.pending = s.pending := by rw [State.pending, State.pending, hframes]
  refine ⟨?_, ?_, ?_, ?_, ?_⟩
  · rw [hlive, hnext]
    exact h.fresh
  · rw [hlive]
    exact h.nodup
  · rw [hstream, hlive]
    exact h.mine
  · rw [hlive, hpending, hoverlaps]
    exact h.few
  · rw [hlive, hstream, hpending, hoverlaps]
    exact h.idle

theorem pending_await (s : State) (f : Frame) :
    (s.await f).pending = s.pending + f.isAsking.toNat := by
  rw [State.pending, State.await, List.countP_append, List.countP_singleton]
  cases f <;> rfl

/-- A frame that goes on is no longer pending. -/
theorem pending_eraseIdx {i : Nat} {f : Frame} (hf : s.frames[i]? = some f) :
    s.pending = ({ s with frames := s.frames.eraseIdx i } : State).pending + f.isAsking.toNat := by
  obtain ⟨hi, rfl⟩ := List.getElem?_eq_some_iff.mp hf
  rw [State.pending, State.pending, ← (List.getElem_cons_eraseIdx_perm hi).countP_eq,
    List.countP_cons]
  cases s.frames[i] <;> rfl

theorem Watched.await (h : Watched s) {f : Frame} (hf : f.isAsking = false) :
    Watched (s.await f) := by
  have hpending : (s.await f).pending = s.pending := by
    rw [pending_await, hf, Bool.toNat_false, add_zero]
  refine ⟨h.fresh, h.nodup, h.mine, ?_, ?_⟩
  · rw [hpending]
    exact h.few
  · rw [hpending]
    exact h.idle

theorem Watched.enableCamera (h : Watched s) (asker : Asker) :
    Watched (enableCamera asker s) := by
  unfold Panel.enableCamera
  split
  · exact h.await rfl
  · rename_i hnone
    have hstream : s.cameraStream = none := by simpa using hnone
    refine ⟨h.fresh, h.nodup, h.mine, ?_, ?_⟩
    · change s.live.length + (s.await (.asking asker)).pending ≤ _
      rw [pending_await, Frame.isAsking, Bool.toNat_true]
      have hfew := h.few
      have hidle := h.idle hstream
      dsimp only
      split <;> omega
    · intro _ hpending
      change (s.await (.asking asker)).pending = 0 at hpending
      rw [pending_await, Frame.isAsking, Bool.toNat_true] at hpending
      omega

theorem Watched.disableCamera (h : Watched s) : Watched (disableCamera s) := by
  unfold Panel.disableCamera
  split
  · rename_i c hc
    have hlength := List.length_erase_of_mem (h.mine c hc)
    have hfew : s.live.length + s.pending ≤ s.overlaps + 1 := h.few
    have hpos : 0 < s.live.length := List.length_pos_of_mem (h.mine c hc)
    refine ⟨fun d hd => h.fresh d (List.mem_of_mem_erase hd), h.nodup.erase c, nofun, ?_, ?_⟩
    · change (s.live.erase c).length + s.pending ≤ s.overlaps + 1
      omega
    · intro _ _
      change (s.live.erase c).length ≤ s.overlaps
      omega
  · exact h

theorem Watched.autoStartCamera (h : Watched s) : Watched (autoStartCamera s) := by
  unfold Panel.autoStartCamera
  split
  · exact h
  · exact h.enableCamera _

theorem watched_load (engine : Engine) (storage : Storage) :
    Watched (State.load engine storage) := by
  unfold State.load
  apply Watched.autoStartCamera
  refine ⟨nofun, List.nodup_nil, nofun, ?_, ?_⟩
  · exact Nat.zero_le _
  · exact fun _ _ => Nat.zero_le _

/-- Where the camera is given, the stream is a new one. -/
theorem Watched.given (h : Watched s) {i : Nat} {asker : Asker}
    (hf : s.frames[i]? = some (.asking asker)) :
    Watched (resume (.asking asker) true { s with frames := s.frames.eraseIdx i }) := by
  have hpending := pending_eraseIdx hf
  rw [Frame.isAsking, Bool.toNat_true] at hpending
  have hfew := h.few
  refine ⟨?_, ?_, ?_, ?_, ?_⟩
  · intro c hc
    change c < s.nextStream + 1
    rcases List.mem_append.mp hc with hold | hnew
    · exact Nat.lt_succ_of_lt (h.fresh c hold)
    · rw [List.mem_singleton.mp hnew]
      exact Nat.lt_succ_self _
  · refine List.nodup_append.mpr ⟨h.nodup, List.pairwise_singleton _ _, ?_⟩
    intro c hold d hnew
    rw [List.mem_singleton.mp hnew]
    exact Nat.ne_of_lt (h.fresh c hold)
  · intro c hc
    obtain rfl := Option.some.inj hc
    exact List.mem_append_right _ (List.mem_singleton_self _)
  · change (s.live ++ [s.nextStream]).length +
      (({ s with frames := s.frames.eraseIdx i } : State).await (.playing asker)).pending ≤ _
    rw [pending_await, List.length_append, List.length_singleton, Frame.isAsking, Bool.toNat_false]
    change _ ≤ s.overlaps + 1
    omega
  · intro hnone
    cases hnone

/-- Where it is not given, there is one request less. -/
theorem Watched.erase (h : Watched s) {i : Nat} {f : Frame} (hf : s.frames[i]? = some f) :
    Watched { s with frames := s.frames.eraseIdx i } := by
  have hpending := pending_eraseIdx hf
  have hfew := h.few
  refine ⟨h.fresh, h.nodup, h.mine, ?_, ?_⟩
  · change s.live.length + _ ≤ s.overlaps + 1
    omega
  · intro hnone hzero
    change s.live.length ≤ s.overlaps
    rw [hzero, zero_add] at hpending
    cases hask : f.isAsking with
    | true =>
        rw [hask, Bool.toNat_true] at hpending
        omega
    | false =>
        rw [hask, Bool.toNat_false] at hpending
        exact h.idle hnone hpending

theorem Watched.step (h : Watched s) {a : Action} (ht : step engine s a = some t) : Watched t := by
  cases a with
  | save form | slider value | drag db | config res =>
      obtain rfl := Option.some.inj ht
      exact h.congr rfl
  | transport t =>
      obtain rfl := Option.some.inj ht
      unfold onTransport
      split
      · exact h.congr rfl
      · exact h
  | webSwitch checked =>
      obtain rfl := Option.some.inj ht
      unfold onWebSwitch
      split
      · exact h
      · exact h.congr rfl
  | cameraSwitch checked =>
      obtain rfl := Option.some.inj ht
      unfold onCameraSwitch
      split
      · exact h.enableCamera _
      · exact h.disableCamera.congr rfl
  | searchKey value =>
      obtain rfl := Option.some.inj ht
      unfold onSearchKey
      split
      · exact h
      · dsimp only
        split <;> exact h.congr rfl
  | permission granted =>
      obtain rfl := Option.some.inj ht
      unfold onPermission
      split
      · apply Watched.autoStartCamera
        split
        · exact h
        · exact h.congr rfl
      · dsimp only
        split
        · exact h.disableCamera.congr rfl
        · exact h.disableCamera
  | resume i ok =>
      unfold Panel.step at ht
      dsimp only at ht
      split at ht
      · rename_i f hf
        obtain rfl := Option.some.inj ht
        have herase := h.erase hf
        cases f with
        | asking asker =>
            cases ok with
            | true => exact h.given hf
            | false => exact herase.await rfl
        | playing asker => exact herase.await rfl
        | enabled asker =>
            cases asker with
            | autoStart => exact herase
            | switch => exact herase.congr rfl
        | refused asker =>
            cases asker with
            | autoStart => exact herase.congr rfl
            | switch => exact herase
      · cases ht
  | reload =>
      obtain rfl := Option.some.inj ht
      exact watched_load engine s.storage

/-- The streams that run and are not the page's own. -/
def State.lost (s : State) : List Nat := s.live.filter fun c => s.cameraStream ≠ some c

theorem lost_of_some (h : Watched s) {c : Nat} (hc : s.cameraStream = some c) :
    s.lost = s.live.erase c := by
  rw [h.nodup.erase_eq_filter, State.lost, hc]
  refine List.filter_congr fun d _ => ?_
  by_cases hd : c = d
  · subst hd
    simp
  · have hdc : d ≠ c := fun heq => hd heq.symm
    simp [hd, hdc]

theorem live_disableCamera (h : Watched s) : (disableCamera s).live = s.lost := by
  unfold disableCamera
  split
  · rename_i c hc
    exact (lost_of_some h hc).symm
  · rename_i hnone
    rw [State.lost, hnone]
    simp

theorem length_lost_le (h : Watched s) : s.lost.length ≤ s.overlaps := by
  have hfew := h.few
  cases hstream : s.cameraStream with
  | none =>
      have hlength : s.lost.length ≤ s.live.length := List.length_filter_le ..
      have hidle := h.idle hstream
      omega
  | some c =>
      have hlength := List.length_erase_of_mem (h.mine c hstream)
      rw [lost_of_some h hstream]
      omega

/-- The camera is lost sight of no more often than requests for it have overlapped, and where none
have, switching it off ends every stream. -/
theorem lost_le_overlaps {storage : Storage}
    (hs : Reachable (step engine) (State.load engine storage) s) :
    (disableCamera s).live = s.lost ∧ s.lost.length ≤ s.overlaps ∧
      (s.overlaps = 0 → (disableCamera s).live = []) := by
  have hwatched : Watched s :=
    hs.invariant (watched_load engine storage) fun _ _ _ h ht => h.step ht
  have hlive := live_disableCamera hwatched
  refine ⟨hlive, length_lost_le hwatched, fun hnone => ?_⟩
  rw [hlive]
  refine List.eq_nil_of_length_eq_zero ?_
  have hle := length_lost_le hwatched
  omega

/-- The switch is turned on while the page still waits for the camera, and both get a stream. -/
def askedTwice : List Action := [.cameraSwitch true, .resume 0 true, .resume 0 true]

theorem lost_one :
    ∃ s, exec (step quietEngine) (State.load quietEngine noStorage) askedTwice = some s ∧
      (disableCamera s).live = [0] ∧ s.lost.length ≤ s.overlaps := by
  obtain ⟨s, hrun, hlive⟩ :
      ∃ s, exec (step quietEngine) (State.load quietEngine noStorage) askedTwice = some s ∧
        (disableCamera s).live = [0] := by
    refine ⟨_, rfl, ?_⟩
    decide +kernel
  exact ⟨s, hrun, hlive, (lost_le_overlaps (reachable_exec .start hrun)).2.1⟩

end

end SpeechK8s.Demo.Panel
