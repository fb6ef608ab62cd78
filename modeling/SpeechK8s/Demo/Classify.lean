import SpeechK8s.Demo.Proxy

/-!
# What `mcp_call` makes of a response

An answer is relayed or refused with a 502, unless one of the fields on the way to its text is of
another type than the code takes for granted. For `NaN` and the infinities, which Python reads
beyond JSON, any number but 0 stands.
-/
namespace SpeechK8s.Demo

/-- A field of an object. What is not an object has none. -/
def member (v : Json) (key : String) : Option Json :=
  match v with
  | .obj fields => Json.lookup fields key
  | _ => none

/-- The text of a text block. -/
def textOf (c : Json) : Option Str :=
  match isText (member c "type"), member c "text" with
  | true, some (.str s) => some s
  | _, _ => none

def blocks (result : Json) : List Json :=
  match member result "content" with
  | some (.arr items) => items
  | _ => []

/-- The body is a JSON-RPC success whose text blocks say `s`. -/
def Succeeds (zero : Int → Int → Bool) (body : Option Json) (s : Str) : Prop :=
  ∃ fields result, body = some (.obj fields) ∧ isSet zero (Json.lookup fields "error") = false ∧
    Json.lookup fields "result" = some result ∧ isSet zero (member result "isError") = false ∧
    s = Str.join ((blocks result).filterMap textOf)

/-- A success is relayed, anything else is an error of the gateway. -/
def Classified (zero : Int → Int → Bool) (body : Option Json) :
    Except Failure Str → Prop
  | .ok s => Succeeds zero body s
  | .error (.httpException status _) => status = 502
  | .error .unhandled => False

/-- What the handler has returned or raised can be written as the body of a response. -/
def Written (finite : Int → Int → Bool) : Except Failure Str → Prop
  | .ok s => s.isText = true
  | .error (.httpException _ detail) => detail.renders finite = true
  | .error .unhandled => False

/-! ## The shapes that are taken for granted -/

def IsObject : Json → Prop
  | .obj _ => True
  | _ => False

/-- A block without a text counts as empty; one whose text is not a string cannot be joined. -/
structure ReadableBlock (c : Json) : Prop where
  object : IsObject c
  text : isText (member c "type") = true → ∀ v, member c "text" = some v → ∃ s, v = .str s

/-- What `for` can walk over, with blocks on the way. -/
def ReadableContent : Json → Prop
  | .arr items => ∀ c ∈ items, ReadableBlock c
  | .str s => s = ""
  | .obj fields => fields = []
  | .null | .bool _ | .num _ _ => False

/-- An empty value of any type passes for a result without content. -/
def ReadableResult (zero : Int → Int → Bool) (result : Json) : Prop :=
  truthy zero result = true →
    IsObject result ∧ ∀ v, member result "content" = some v → ReadableContent v

/-- An error that can say its message, or no error and a result. -/
def ReadableBody (zero : Int → Int → Bool) : Json → Prop
  | .obj fields =>
      if isSet zero (Json.lookup fields "error") then
        IsObject ((Json.lookup fields "error").getD .null)
      else
        ∃ result, Json.lookup fields "result" = some result ∧ ReadableResult zero result
  | _ => False

/-! ## One step after the other -/

theorem get_other {v : Json} (h : ¬ IsObject v) (key : String) : get v key = .error .unhandled := by
  cases v with
  | obj fields => exact absurd trivial h
  | null | bool b | num m e | str s | arr items => rfl

theorem blockText_readable {c : Json} (h : ReadableBlock c) :
    blockText c = .ok ((textOf c).getD "") := by
  obtain ⟨hobject, htext⟩ := h
  cases c with
  | obj fields =>
      have hmember : ∀ key, member (.obj fields) key = Json.lookup fields key := fun _ => rfl
      simp only [hmember] at htext
      simp only [blockText, textOf, hmember, get, bind, Except.bind]
      cases hkind : isText (Json.lookup fields "type") with
      | false => rfl
      | true =>
          cases hvalue : Json.lookup fields "text" with
          | none => rfl
          | some v =>
              obtain ⟨s, rfl⟩ := htext hkind v hvalue
              rfl
  | null | bool b | num m e | str s | arr items => exact hobject.elim

theorem blockText_unreadable {c : Json} (h : ¬ ReadableBlock c) :
    blockText c = .error .unhandled := by
  cases c with
  | obj fields =>
      have hmember : ∀ key, member (.obj fields) key = Json.lookup fields key := fun _ => rfl
      simp only [blockText, get, bind, Except.bind]
      by_cases hkind : isText (Json.lookup fields "type") = true
      · rw [if_pos hkind]
        cases hvalue : Json.lookup fields "text" with
        | none => exact absurd ⟨trivial, fun _ v hv => by simp [hmember, hvalue] at hv⟩ h
        | some v =>
            cases v with
            | str s =>
                refine absurd ⟨trivial, fun _ v hv => ⟨s, ?_⟩⟩ h
                rw [hmember, hvalue] at hv
                exact (Option.some.inj hv).symm
            | null | bool b | num m e | arr items | obj fields => rfl
      · exact absurd ⟨trivial, fun hyes => absurd hyes hkind⟩ h
  | null | bool b | num m e | str s | arr items => rfl

theorem mapM_readable {items : List Json} (h : ∀ c ∈ items, ReadableBlock c) :
    items.mapM blockText = .ok (items.map fun c => (textOf c).getD "") := by
  induction items with
  | nil => rfl
  | cons c items ih =>
      obtain ⟨hc, hitems⟩ := List.forall_mem_cons.mp h
      simp only [List.mapM_cons, blockText_readable hc, ih hitems, bind, Except.bind, pure,
        Except.pure, List.map_cons]

theorem mapM_unreadable {items : List Json} (h : ¬ ∀ c ∈ items, ReadableBlock c) :
    items.mapM blockText = .error .unhandled := by
  induction items with
  | nil => exact absurd (fun c hc => absurd hc List.not_mem_nil) h
  | cons c items ih =>
      by_cases hc : ReadableBlock c
      · have hitems : ¬ ∀ c ∈ items, ReadableBlock c :=
          fun hall => h (List.forall_mem_cons.mpr ⟨hc, hall⟩)
        simp only [List.mapM_cons, blockText_readable hc, ih hitems, bind, Except.bind]
      · simp only [List.mapM_cons, blockText_unreadable hc, bind, Except.bind]

theorem join_filterMap (items : List Json) :
    Str.join (items.map fun c => (textOf c).getD "") = Str.join (items.filterMap textOf) := by
  have hpoints : (items.map fun c => (textOf c).getD "").flatMap Str.points =
      (items.filterMap textOf).flatMap Str.points := by
    induction items with
    | nil => rfl
    | cons c items ih =>
        rw [List.map_cons, List.flatMap_cons, ih]
        cases hc : textOf c with
        | none =>
            rw [List.filterMap_cons_none hc]
            rfl
        | some s => rw [List.filterMap_cons_some hc, List.flatMap_cons, Option.getD_some]
  exact congrArg Str.ofPoints hpoints

theorem texts_readable {fields : Json.Fields}
    (h : ∀ v, Json.lookup fields "content" = some v → ReadableContent v) :
    ∃ ss, texts ((Json.lookup fields "content").getD (.arr [])) = .ok ss ∧
      Str.join ss = Str.join ((blocks (.obj fields)).filterMap textOf) := by
  have hmember : member (.obj fields) "content" = Json.lookup fields "content" := rfl
  rw [blocks, hmember]
  cases hcontent : Json.lookup fields "content" with
  | none => exact ⟨[], rfl, rfl⟩
  | some content =>
      have hreadable := h content hcontent
      cases content with
      | arr items => exact ⟨_, mapM_readable hreadable, join_filterMap items⟩
      | str s =>
          obtain rfl : s = "" := hreadable
          exact ⟨[], rfl, rfl⟩
      | obj fields' =>
          obtain rfl : fields' = [] := hreadable
          exact ⟨[], rfl, rfl⟩
      | null | bool b | num m e => exact hreadable.elim

theorem texts_unreadable {content : Json} (h : ¬ ReadableContent content) :
    texts content = .error .unhandled := by
  cases content with
  | arr items => exact mapM_unreadable h
  | str s =>
      refine mapM_unreadable fun hall => h ?_
      rw [ReadableContent, ← Str.points_eq_nil, List.eq_nil_iff_forall_not_mem]
      exact fun p hp => (hall _ (List.mem_map.mpr ⟨p, hp, rfl⟩)).object
  | obj fields =>
      refine mapM_unreadable fun hall => h ?_
      rw [ReadableContent, List.eq_nil_iff_forall_not_mem]
      exact fun f hf => (hall _ (List.mem_map.mpr ⟨f, hf, rfl⟩)).object
  | null | bool b | num m e => rfl

section
variable {zero : Int → Int → Bool}

/-- A result that can be read is either an error of the tool or says what its blocks say. -/
theorem readResult_readable (zero : Int → Int → Bool) {fields : Json.Fields}
    (h : ∀ v, Json.lookup fields "content" = some v → ReadableContent v) :
    if isSet zero (Json.lookup fields "isError") then
      ∃ d, readResult zero (.obj fields) = .error (.httpException 502 d)
    else
      readResult zero (.obj fields) =
        .ok (Str.join ((blocks (.obj fields)).filterMap textOf)) := by
  obtain ⟨ss, hss, hjoin⟩ := texts_readable h
  cases hflag : isSet zero (Json.lookup fields "isError") with
  | true =>
      obtain ⟨d, hd⟩ := badGateway_status (.str
        (if Str.join ss = "" then "Tool call failed." else Str.join ss))
      refine ⟨d, ?_⟩
      simp only [readResult, get, bind, Except.bind, hss, hflag, if_true, hd]
  | false =>
      simp only [readResult, get, bind, Except.bind, hss, hflag, Bool.false_eq_true, if_false,
        hjoin]

theorem readResult_unreadable {result : Json}
    (h : ¬ (IsObject result ∧ ∀ v, member result "content" = some v → ReadableContent v)) :
    readResult zero result = .error .unhandled := by
  by_cases hobject : IsObject result
  · cases result with
    | obj fields =>
        have hcontent : ∃ v, Json.lookup fields "content" = some v ∧ ¬ ReadableContent v := by
          by_contra hno
          refine h ⟨hobject, fun v hv => ?_⟩
          by_contra hv'
          exact hno ⟨v, hv, hv'⟩
        obtain ⟨v, hv, hunreadable⟩ := hcontent
        simp only [readResult, get, bind, Except.bind, hv, Option.getD_some,
          texts_unreadable hunreadable]
    | null | bool b | num m e | str s | arr items => exact hobject.elim
  · simp only [readResult, get_other hobject, bind, Except.bind]

/-- An empty value has no fields to look into. -/
theorem member_falsy {result : Json} (h : truthy zero result = false) (key : String) :
    member result key = none := by
  cases result with
  | obj fields =>
      cases fields with
      | nil => rfl
      | cons f fields => simp [truthy] at h
  | null | bool b | num m e | str s | arr items => rfl

theorem classified_result {fields : Json.Fields} {result : Json}
    (herror : isSet zero (Json.lookup fields "error") = false)
    (hresult : Json.lookup fields "result" = some result) :
    Classified zero (some (.obj fields))
        (readResult zero (if truthy zero result then result else .obj [])) ↔
      ReadableResult zero result := by
  cases htruthy : truthy zero result with
  | false =>
      have hempty : readResult zero (.obj []) = .ok "" := rfl
      have hblocks : blocks result = [] := by rw [blocks, member_falsy htruthy]
      have hflag : isSet zero (member result "isError") = false := by
        rw [member_falsy htruthy]
        rfl
      refine iff_of_true ?_ fun h => absurd h (by simp [htruthy])
      simp only [Bool.false_eq_true, if_false, hempty]
      exact ⟨fields, result, rfl, herror, hresult, hflag, by rw [hblocks]; rfl⟩
  | true =>
      simp only [if_true]
      by_cases hreadable : IsObject result ∧
          ∀ v, member result "content" = some v → ReadableContent v
      · refine iff_of_true ?_ fun _ => hreadable
        obtain ⟨hobject, hcontent⟩ := hreadable
        cases result with
        | obj inner =>
            have hread := readResult_readable zero hcontent
            cases hflag : isSet zero (Json.lookup inner "isError") with
            | true =>
                rw [hflag, if_pos rfl] at hread
                obtain ⟨d, hd⟩ := hread
                rw [hd]
                rfl
            | false =>
                rw [hflag, if_neg Bool.false_ne_true] at hread
                rw [hread]
                exact ⟨fields, .obj inner, rfl, herror, hresult, hflag, rfl⟩
        | null | bool b | num m e | str s | arr items => exact hobject.elim
      · rw [readResult_unreadable hreadable]
        exact iff_of_false id fun h => hreadable (h htruthy)

theorem classified_body (data : Json) :
    Classified zero (some data) (readBody zero data) ↔ ReadableBody zero data := by
  cases data with
  | obj fields =>
      cases herror : isSet zero (Json.lookup fields "error") with
      | true =>
          simp only [readBody, ReadableBody, get, bind, Except.bind, herror, if_true]
          rw [isSet] at herror
          rw [if_pos herror]
          cases herr : (Json.lookup fields "error").getD .null with
          | obj e =>
              obtain ⟨d, hd⟩ := badGateway_status
                ((Json.lookup e "message").getD (.str "Tool call failed."))
              simp only [hd]
              exact iff_of_true rfl trivial
          | null | bool b | num m e | str s | arr items => exact iff_of_false id id
      | false =>
          simp only [readBody, ReadableBody, get, bind, Except.bind, herror, Bool.false_eq_true,
            if_false]
          rw [if_neg (by rw [← isSet, herror]; exact Bool.false_ne_true)]
          cases hresult : Json.lookup fields "result" with
          | none =>
              refine iff_of_false ?_ fun hno => absurd hno (by simp)
              rintro ⟨fields', result, hbody, -, hno, -⟩
              obtain rfl := Json.obj.inj (Option.some.inj hbody)
              rw [hresult] at hno
              cases hno
          | some result =>
              rw [Option.getD_some, classified_result herror hresult]
              simp
  | null | bool b | num m e | str s | arr items => exact iff_of_false id id

theorem renders_field (finite : Int → Int → Bool) (key : String) (v : Json) :
    (Json.obj [(.text key, v)]).renders finite = v.renders finite := by
  simp only [Json.renders, Json.rendersFields, Str.isText_text, Bool.true_and, Bool.and_true]

theorem status_rendered {py : Python} {status : Nat} {v : Json} (h : status ≠ 500) :
    (rendered py status v).status = 500 ↔ ¬ v.renders py.finite = true := by
  unfold rendered
  split
  · rename_i hrenders
    exact iff_of_false h (not_not.mpr hrenders)
  · rename_i hno
    exact iff_of_true rfl hno

/-- FastAPI answers with an error of its own where it cannot write what the handler has made. -/
theorem classified_status {py : Python} {body : Option Json} {res : Except Failure Str}
    (h : Classified py.zero body res) :
    (respond py res).status = 500 ↔ ¬ Written py.finite res := by
  cases res with
  | ok s =>
      have hok : (200 : Nat) ≠ 500 := by decide
      rw [respond, status_rendered hok, renders_field]
      rfl
  | error f =>
      cases f with
      | unhandled => exact h.elim
      | httpException status detail =>
          have hgateway : status ≠ 500 := by
            obtain rfl : status = 502 := h
            decide
          rw [respond, status_rendered hgateway, renders_field]
          rfl

theorem classified_response (py : Python) {url : String} (req : McpCallRequest) (status : Nat)
    (text : Option String) (body : Option Json) (hurl : url ≠ "") :
    Classified py.zero body (mcpCall py url (fun _ => .response status text body) req) ↔
      if status = 200 then ∃ data, body = some data ∧ ReadableBody py.zero data
      else ∃ said, text = some said := by
  by_cases hstatus : status = 200
  · subst hstatus
    rw [if_pos rfl]
    cases body with
    | none =>
        rw [mcpCall_undecoded hurl rfl]
        exact iff_of_false id fun hno => absurd hno (by simp)
    | some data =>
        rw [mcpCall_body hurl rfl, classified_body]
        simp
  · rw [if_neg hstatus]
    cases text with
    | none =>
        rw [mcpCall_unreadable hurl rfl hstatus]
        exact iff_of_false id fun hno => absurd hno (by simp)
    | some said =>
        obtain ⟨d, hd⟩ := badGateway_status (.str s!"Tool server error ({status}).")
        rw [mcpCall_status hurl rfl hstatus, hd]
        exact iff_of_true rfl ⟨said, rfl⟩

/-- A response is relayed or refused with a 502 exactly when its status is an error and its text can
be decoded, or its body is an object with an error that is an object, or with a result whose
content is a list of objects with strings for texts. What is relayed or refused so reaches the
browser unless it cannot be written. -/
theorem classified_iff (py : Python) (url : String) (req : McpCallRequest) (status : Nat)
    (text : Option String) (body : Option Json) (hurl : url ≠ "") :
    let res := mcpCall py url (fun _ => .response status text body) req
    (Classified py.zero body res ↔
      if status = 200 then ∃ data, body = some data ∧ ReadableBody py.zero data
      else ∃ said, text = some said) ∧
    (Classified py.zero body res → ((respond py res).status = 500 ↔ ¬ Written py.finite res)) :=
  ⟨classified_response py req status text body hurl, classified_status⟩

end

def noonBlock : Json := .obj [("type", .str "text"), ("text", .str "noon")]

def noon : Json := .obj [("id", .num 1 0), ("result", .obj [("content", .arr [noonBlock])])]

theorem noon_classified : Classified plainPython.zero (some noon)
    (mcpCall plainPython "http://speech-mcp:8080/mcp"
      (fun _ => .response 200 none (some noon)) ⟨"local_time", []⟩) := by
  have hblock : ReadableBlock noonBlock := by
    refine ⟨trivial, fun _ v hv => ⟨"noon", ?_⟩⟩
    exact (Option.some.inj hv).symm
  refine (classified_iff _ _ _ _ _ _ (by decide)).1.mpr ?_
  rw [if_pos rfl]
  refine ⟨noon, rfl, _, rfl, fun _ => ⟨trivial, fun v hv => ?_⟩⟩
  obtain rfl := (Option.some.inj hv).symm
  exact fun c hc => List.mem_singleton.mp hc ▸ hblock

/-- A 200 that is not JSON. -/
theorem undecoded_unhandled : ¬ ∀ (py : Python) (url : String) (req : McpCallRequest)
    (status : Nat) (text : Option String) (body : Option Json), url ≠ "" →
    Classified py.zero body (mcpCall py url (fun _ => .response status text body) req) := by
  intro h
  have hclassified := h plainPython "http://speech-mcp:8080/mcp" ⟨"local_time", []⟩ 200 (some "ok")
    none (by decide)
  rw [mcpCall_undecoded (by decide) rfl] at hclassified
  exact hclassified

end SpeechK8s.Demo
