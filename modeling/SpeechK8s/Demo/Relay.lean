import SpeechK8s.Mcp.Wire
import SpeechK8s.Demo.Tools

/-!
# From the handlers of speech-mcp to the model

A tool's output crosses four boundaries on its way to the model, and so does a failure: what the
handler returns is encoded in a JSON-RPC response, relayed by the proxy, received by the page and
put into words.
-/
namespace SpeechK8s.Demo
open Mcp

/-! ## speech-mcp to the proxy -/

/-- A response of speech-mcp with status 200. -/
def answered (v : Json) : Upstream :=
  .response 200 (some (String.ofList (marshal v))) (Json.parse (marshal v))

/-- What the POST of the proxy comes to. -/
def upstream {Output : Type} (json : Output → Json) : Outcome Output → Upstream
  | .unsendable => .raised
  | .unreachable => .requestError
  | .refused status text body _ => .response status text body
  | .rpcError e => answered (rpcResponse "error" e.json)
  | .toolError content =>
      let result : ToolResult := ⟨content, none, true⟩
      answered (rpcResponse "result" result.json)
  | .handled returned => answered (rpcResponse "result" (addTool json returned).json)

theorem answered_eq {v : Json} (h : Encoded v) :
    answered v = .response 200 (some (String.ofList (marshal v))) (some v) := by
  rw [answered, parse_marshal h]

theorem mapM_map_ok {α β γ ε : Type} {f : β → Except ε γ} {g : α → β} {h : α → γ}
    (hf : ∀ x, f (g x) = .ok (h x)) (xs : List α) : (xs.map g).mapM f = .ok (xs.map h) := by
  induction xs with
  | nil => rfl
  | cons x xs ih =>
      simp only [List.map_cons, List.mapM_cons, hf, ih, bind, Except.bind, pure, Except.pure]

theorem lookup_concat (fields : Json.Fields) (key : String) (v : Json) :
    Json.lookup (fields ++ [Json.field key v]) key = some v := by
  induction fields with
  | nil => simp [Json.lookup, Json.field]
  | cons f fields ih => simp [Json.lookup, ih]

theorem blockText_json (b : Block) : blockText b.json = .ok b.said := by
  cases b with
  | text s => rfl
  | other type notText fields encoded =>
      have htype := lookup_concat fields "type" (.str type)
      simp [blockText, Block.json, get, htype, isText, notText, Block.said, bind, Except.bind]

theorem lookup_content (r : ToolResult) :
    get r.json "content" = .ok (some (.arr (r.content.map Block.json))) := by
  obtain ⟨content, structured, isError⟩ := r
  cases structured <;> cases isError <;> rfl

theorem lookup_isError (r : ToolResult) (zero : Int → Int → Bool) :
    ∃ v, get r.json "isError" = .ok v ∧ truthy zero (v.getD .null) = r.isError := by
  obtain ⟨content, structured, isError⟩ := r
  cases structured <;> cases isError <;> exact ⟨_, rfl, rfl⟩

variable {py : Python} {url : String} {post : McpCallRequest → Upstream} {req : McpCallRequest}

theorem mcpCall_result (hurl : url ≠ "") {r : ToolResult} {body : Option String}
    (hpost : post req = .response 200 body (some (rpcResponse "result" r.json))) :
    mcpCall py url post req =
      if r.isError then
        .error (badGateway (.str (if r.said = "" then "Tool call failed." else r.said)))
      else .ok r.said := by
  have herror : get (rpcResponse "result" r.json) "error" = .ok none := rfl
  have hnull : truthy py.zero .null = false := rfl
  have hresult : get (rpcResponse "result" r.json) "result" = .ok (some r.json) := rfl
  have hobject : truthy py.zero r.json = true := rfl
  have htexts : (r.content.map Block.json).mapM blockText =
      .ok ((r.content.map Block.said).map .text) := by
    rw [List.map_map]
    exact mapM_map_ok blockText_json r.content
  obtain ⟨v, hv, hisError⟩ := lookup_isError r py.zero
  rw [mcpCall_body hurl hpost]
  simp only [readBody, herror, hnull, hresult, bind, Except.bind, Option.getD_none,
    Option.getD_some, Bool.false_eq_true, hobject, if_true, if_false, readResult, texts,
    lookup_content, iterate, htexts, hv, isSet, hisError, Str.join_text, Str.text.injEq]
  rfl

theorem mcpCall_rpcError (hurl : url ≠ "") {e : RpcError} {body : Option String}
    (hpost : post req = .response 200 body (some (rpcResponse "error" e.json))) :
    mcpCall py url post req = .error (badGateway (.str e.message)) := by
  have herror : get (rpcResponse "error" e.json) "error" = .ok (some e.json) := rfl
  have hobject : truthy py.zero e.json = true := rfl
  have hmessage : get e.json "message" = .ok (some (.str e.message)) := by
    obtain ⟨code, message, data, encoded⟩ := e
    cases data <;> rfl
  rw [mcpCall_body hurl hpost]
  simp only [readBody, herror, bind, Except.bind, Option.getD_some, hobject, if_true, hmessage]

theorem mcpCall_output (hurl : url ≠ "") {Output : Type} {json : Output → Json}
    (hjson : ∀ out, Encoded (json out)) {call : McpCallRequest → Outcome Output} {out : Output}
    (hcall : (call req).output = some out) :
    mcpCall py url (fun req => upstream json (call req)) req =
      .ok (String.ofList (marshal (json out))) := by
  have hpost : upstream json (call req) =
      answered (rpcResponse "result" (addTool json (.ok out)).json) := by
    cases h : call req with
    | handled returned =>
        cases returned with
        | ok out' =>
            rw [h] at hcall
            obtain rfl := Option.some.inj hcall
            rw [upstream]
        | error message => simp [h, Outcome.output] at hcall
    | unsendable | unreachable | refused status text body notOk | rpcError e
    | toolError content => simp [h, Outcome.output] at hcall
  rw [answered_eq (rpcResponse_encoded _ (addTool_encoded hjson _))] at hpost
  rw [mcpCall_result hurl hpost]
  simp [addTool, ToolResult.said, Block.said, String.join]

/-- An error of the gateway or of the proxy itself. -/
def Refused (reply : Except Failure Str) : Prop :=
  ∃ f, reply = .error f ∧
    ∀ status detail, f = .httpException status detail → 500 ≤ status ∧ ∃ s : Str, detail = .str s

theorem refused_unhandled : Refused (.error .unhandled) := ⟨.unhandled, rfl, nofun⟩

theorem refused_http {status : Nat} (h : 500 ≤ status) (detail : Str) :
    Refused (.error (.httpException status (.str detail))) := by
  refine ⟨_, rfl, fun status' detail' hf => ?_⟩
  obtain ⟨rfl, rfl⟩ := Failure.httpException.inj hf
  exact ⟨h, detail, rfl⟩

theorem refused_badGateway (detail : Str) : Refused (.error (badGateway (.str detail))) :=
  refused_http (by decide) detail

theorem mcpCall_refused {Output : Type} {json : Output → Json}
    (hjson : ∀ out, Encoded (json out)) {call : McpCallRequest → Outcome Output}
    (h : url = "" ∨ (call req).output = none) :
    Refused (mcpCall py url (fun req => upstream json (call req)) req) := by
  rcases eq_or_ne url "" with rfl | hurl
  · exact refused_http (by decide) "Tool server is not configured."
  · have hnone : (call req).output = none := h.resolve_left hurl
    have hresult : ∀ {r : ToolResult}, r.isError = true → Encoded r.json →
        upstream json (call req) = answered (rpcResponse "result" r.json) →
        Refused (mcpCall py url (fun req => upstream json (call req)) req) := by
      intro r hr hencoded hpost
      rw [answered_eq (rpcResponse_encoded _ hencoded)] at hpost
      rw [mcpCall_result hurl hpost, if_pos hr, ← apply_ite Str.text]
      exact refused_badGateway _
    cases hc : call req with
    | unsendable =>
        rw [mcpCall_raised hurl (by rw [hc, upstream])]
        exact refused_unhandled
    | unreachable =>
        rw [mcpCall_unreachable hurl (by rw [hc, upstream])]
        exact refused_badGateway _
    | refused status text body notOk =>
        cases text with
        | none =>
            rw [mcpCall_unreadable hurl (by rw [hc, upstream]) notOk]
            exact refused_unhandled
        | some text =>
            rw [mcpCall_status hurl (by rw [hc, upstream]) notOk]
            exact refused_badGateway _
    | rpcError e =>
        have hpost : upstream json (call req) = answered (rpcResponse "error" e.json) := by
          rw [hc, upstream]
        rw [answered_eq (rpcResponse_encoded _ e.encoded_json)] at hpost
        rw [mcpCall_rpcError hurl hpost]
        exact refused_badGateway _
    | toolError content =>
        apply hresult (r := ⟨content, none, true⟩) rfl (ToolResult.encoded nofun)
        rw [hc, upstream]
    | handled returned =>
        cases returned with
        | ok out => simp [hc, Outcome.output] at hnone
        | error message =>
            apply hresult (r := addTool json (.error message)) rfl (addTool_encoded hjson _)
            rw [hc, upstream]

/-! ## The proxy to the page -/

section
variable {engine : Engine}

/-- A page whose calls go through the proxy to speech-mcp. -/
def Page.through (page : Page) (py : Python) (url : String) {Output : Type}
    (json : Output → Json) (call : McpCallRequest → Outcome Output) : Page :=
  { page with
    postMcpCall := fun req =>
      some (respond py (mcpCall py url (fun req => upstream json (call req)) req)) }

theorem json_jsonResponse {finite : Int → Int → Bool} (status : Nat) {v : Json}
    (h : v.renders finite = true) : (jsonResponse status v).json = .ok v := by
  simp only [HttpResponse.json, jsonResponse, Json.parse_print _ h]

theorem json_internalServerError : internalServerError.json = .error (.native .notJson) := by
  have hparse : Json.parse internalServerError.body = none := by decide +kernel
  rw [HttpResponse.json, hparse]

theorem fetched_internalServerError (engine : Engine) (kind : String) :
    engine.fetched kind (some internalServerError) =
      .error (.error (kind ++ " error (" ++ "500" ++ ")")) := by
  have hok : ¬ internalServerError.ok := by decide
  have hdetail : engine.detail internalServerError = .ok (.text "500") := by
    rw [Engine.detail, json_internalServerError]
    rfl
  simp only [Engine.fetched, hok, if_false, hdetail, bind, Except.bind, Str.text_append]

theorem parseOutput_marshal {v : Json} (h : Encoded v) :
    engine.parseOutput (some (.str (String.ofList (marshal v)))) = some v := by
  simp only [Engine.parseOutput, Engine.template, Engine.display, Json.parseStr_text,
    String.toList_ofList, parse_marshal h, Option.some_or]

/-- The page says what is wrong with a tool call, if only by a status. -/
theorem fetched_refused (engine : Engine) (py : Python) {reply : Except Failure Str}
    (h : Refused reply) : ∃ detail, engine.fetched "tool" (some (respond py reply)) =
      .error (.error ("tool error (" ++ detail ++ ")")) := by
  obtain ⟨f, rfl, hf⟩ := h
  cases f with
  | unhandled => exact ⟨"500", fetched_internalServerError engine "tool"⟩
  | httpException status detail =>
      obtain ⟨hstatus, s, rfl⟩ := hf status detail rfl
      rw [respond, rendered]
      split
      · rename_i hrenders
        have hok : ¬ (jsonResponse status (.obj [("detail", .str s)])).ok :=
          fun hok => absurd hok.2 (by simp only [jsonResponse]; omega)
        have hproperty : property (some (.obj [("detail", .str s)])) "detail" =
            .ok (some (.str s)) := rfl
        have hdetail : ∃ shown, engine.detail (jsonResponse status (.obj [("detail", .str s)])) =
            .ok shown := by
          simp only [Engine.detail, json_jsonResponse status hrenders, bind, Except.bind,
            hproperty, Engine.display]
          split
          · exact ⟨_, rfl⟩
          · exact ⟨_, rfl⟩
        obtain ⟨shown, hshown⟩ := hdetail
        exact ⟨shown, by
          simp only [Engine.fetched, hok, if_false, hshown, bind, Except.bind]
          rfl⟩
      · exact ⟨"500", fetched_internalServerError engine "tool"⟩

section
variable {page : Page} {Output : Type} {json : Output → Json}
  {call : McpCallRequest → Outcome Output} {name : String} {args : Json.Fields}

/-- What `execMcpCall` gives the tools is the output of the handler. -/
theorem execMcpCall_output {out : Output} (hurl : url ≠ "") (hjson : ∀ out, Encoded (json out))
    (hcall : (call ⟨name, args⟩).output = some out) :
    execMcpCall engine (page.through py url json call) name args = .ok (some (json out)) := by
  have hreply : mcpCall py url (fun req => upstream json (call req)) ⟨name, args⟩ =
      .ok (String.ofList (marshal (json out))) := mcpCall_output hurl hjson hcall
  have hrenders : Json.renders py.finite
      (.obj [("output", .str (String.ofList (marshal (json out))))]) = true := rfl
  have hrespond : respond py (.ok (String.ofList (marshal (json out)))) =
      jsonResponse 200 (.obj [("output", .str (String.ofList (marshal (json out))))]) := by
    rw [respond, rendered, if_pos hrenders]
  have hok : (jsonResponse 200
      (.obj [("output", .str (String.ofList (marshal (json out))))])).ok := by
    have hlt : 200 < 300 := by decide
    exact ⟨Nat.le_refl 200, hlt⟩
  have hproperty : property
      (some (.obj [("output", .str (String.ofList (marshal (json out))))])) "output" =
      .ok (some (.str (String.ofList (marshal (json out))))) := rfl
  simp only [execMcpCall, Page.through, hreply, hrespond, Engine.fetched, hok, if_true,
    json_jsonResponse 200 hrenders, hproperty, parseOutput_marshal (hjson out), bind, Except.bind]

theorem execMcpCall_refused (hjson : ∀ out, Encoded (json out))
    (h : url = "" ∨ (call ⟨name, args⟩).output = none) :
    ∃ detail, execMcpCall engine (page.through py url json call) name args =
      .error (.error ("tool error (" ++ detail ++ ")")) := by
  have hreply : Refused (mcpCall py url (fun req => upstream json (call req)) ⟨name, args⟩) :=
    mcpCall_refused hjson h
  obtain ⟨detail, hdetail⟩ := fetched_refused engine py hreply
  exact ⟨detail, by simp only [execMcpCall, Page.through, hdetail, bind, Except.bind]⟩

end

end

/-! ## The page to the model -/

section
variable (engine : Engine) (page : Page)

theorem template_jsonString (s : Utf8.Bytes) :
    engine.template (some (jsonString s)) = .ok (text s) := rfl

def sentence (out : TimeOutput) : String :=
  "It is currently " ++ text out.iso8601 ++ " (" ++ text out.weekday ++ ") in " ++
    text out.timezone ++ "."

theorem timeText_json (out : TimeOutput) : engine.timeText out.json = .ok (sentence out) := by
  have hiso8601 : property (some out.json) "iso8601" = .ok (some (jsonString out.iso8601)) := rfl
  have hweekday : property (some out.json) "weekday" = .ok (some (jsonString out.weekday)) := rfl
  have htimezone : property (some out.json) "timezone" =
      .ok (some (jsonString out.timezone)) := rfl
  unfold Engine.timeText sentence
  rw [hiso8601, hweekday, htimezone]
  simp only [bind, Except.bind, template_jsonString, Str.text_append]

def line (r : Result) : String :=
  "- " ++ text r.title ++ ": " ++ text r.snippet ++ " (" ++ text r.url ++ ")"

theorem resultLine_json (r : Result) : engine.resultLine r.json = .ok (line r) := by
  have htitle : property (some r.json) "title" = .ok (some (jsonString r.title)) := rfl
  have hsnippet : property (some r.json) "snippet" = .ok (some (jsonString r.snippet)) := rfl
  have hurl : property (some r.json) "url" = .ok (some (jsonString r.url)) := rfl
  simp only [Engine.resultLine, htitle, hsnippet, hurl, template_jsonString, bind, Except.bind,
    line, Str.text_append]

def searchHeader (today : Today) : String := "Internet search result from " ++ today.text ++ ":"

/-- A header with each line below it, or with a line that there are none. -/
def listing (header : String) (lines : List String) : String :=
  if lines = [] then header ++ "\nNo results found."
  else header ++ String.join (lines.map ("\n" ++ ·))

theorem joined_text (header : String) (lines : List String) :
    joined ((header :: lines).map .text) = listing header lines := by
  unfold joined listing
  cases lines with
  | nil => exact Str.text_append header _
  | cons l lines =>
      rw [if_pos (by simp), if_neg (List.cons_ne_nil _ _)]
      exact Str.intercalate_text _ _ _

theorem searchText_json (out : SearchOutput) :
    engine.searchText page (some out.json) =
      .ok (listing (searchHeader page.today) (out.results.map line)) := by
  have hresults : resultsOf (some out.json) = out.results.map Result.json := rfl
  have hlines : (out.results.map Result.json).mapM engine.resultLine =
      .ok ((out.results.map line).map .text) := by
    rw [List.map_map]
    exact mapM_map_ok (resultLine_json engine) out.results
  unfold Engine.searchText
  rw [hresults, hlines, ← joined_text]
  rfl

def timeRequest (fields : Json.Fields) : McpCallRequest :=
  ⟨"local_time", timeArgs (stringArg (Json.lookup fields "timezone"))⟩

def searchRequest (fields : Json.Fields) : McpCallRequest :=
  ⟨"global_internet_search", engine.searchArgs (stringArg (Json.lookup fields "query"))
    (numberArg (Json.lookup fields "max_results"))⟩

variable {engine page} {argsJson : String} {fields : Json.Fields}

theorem execLocalTime_output {call : McpCallRequest → Outcome TimeOutput} {out : TimeOutput}
    (hurl : url ≠ "") (hcall : (call (timeRequest fields)).output = some out) :
    execLocalTime engine (page.through py url TimeOutput.json call)
        (stringArg (Json.lookup fields "timezone")) = .ok (sentence out) := by
  have hdata : execMcpCall engine (page.through py url TimeOutput.json call)
      (timeRequest fields).name (timeRequest fields).arguments = .ok (some out.json) :=
    execMcpCall_output hurl TimeOutput.encoded hcall
  have htext := timeText_json engine out
  simp only [timeRequest] at hdata
  simp only [execLocalTime, hdata, bind, Except.bind]
  exact htext

theorem execGlobalSearch_output {call : McpCallRequest → Outcome SearchOutput}
    {out : SearchOutput} (hurl : url ≠ "")
    (hquery : stringArg (Json.lookup fields "query") ≠ "")
    (hcall : (call (searchRequest engine fields)).output = some out) :
    execGlobalSearch engine (page.through py url SearchOutput.json call)
        (stringArg (Json.lookup fields "query")) (numberArg (Json.lookup fields "max_results")) =
      .ok (listing (searchHeader page.today) (out.results.map line)) := by
  have hdata : execMcpCall engine (page.through py url SearchOutput.json call)
      (searchRequest engine fields).name (searchRequest engine fields).arguments =
        .ok (some out.json) := execMcpCall_output hurl SearchOutput.encoded hcall
  have htext := searchText_json engine (page.through py url SearchOutput.json call) out
  simp only [searchRequest] at hdata
  simp only [execGlobalSearch, hquery, if_false, hdata, bind, Except.bind]
  exact htext

theorem execLocalTime_refused {call : McpCallRequest → Outcome TimeOutput}
    (h : url = "" ∨ (call (timeRequest fields)).output = none) :
    ∃ detail, execLocalTime engine (page.through py url TimeOutput.json call)
      (stringArg (Json.lookup fields "timezone")) =
        .error (.error ("tool error (" ++ detail ++ ")")) := by
  obtain ⟨detail, hdata⟩ : ∃ detail, execMcpCall engine
      (page.through py url TimeOutput.json call) (timeRequest fields).name
      (timeRequest fields).arguments = .error (.error ("tool error (" ++ detail ++ ")")) :=
    execMcpCall_refused TimeOutput.encoded h
  simp only [timeRequest] at hdata
  exact ⟨detail, by simp only [execLocalTime, hdata, bind, Except.bind]⟩

theorem execGlobalSearch_refused {call : McpCallRequest → Outcome SearchOutput}
    (hquery : stringArg (Json.lookup fields "query") ≠ "")
    (h : url = "" ∨ (call (searchRequest engine fields)).output = none) :
    ∃ detail, execGlobalSearch engine (page.through py url SearchOutput.json call)
      (stringArg (Json.lookup fields "query")) (numberArg (Json.lookup fields "max_results")) =
        .error (.error ("tool error (" ++ detail ++ ")")) := by
  obtain ⟨detail, hdata⟩ : ∃ detail, execMcpCall engine
      (page.through py url SearchOutput.json call) (searchRequest engine fields).name
      (searchRequest engine fields).arguments =
        .error (.error ("tool error (" ++ detail ++ ")")) :=
    execMcpCall_refused SearchOutput.encoded h
  simp only [searchRequest] at hdata
  exact ⟨detail, by simp only [execGlobalSearch, hquery, if_false, hdata, bind, Except.bind]⟩

theorem callTool_localTime :
    callTool engine page "local_time" (.obj fields) =
      (execLocalTime engine page (stringArg (Json.lookup fields "timezone"))).map
        fun output => ⟨output, none⟩ := by
  have hproperty : property (some (.obj fields)) "timezone" =
      .ok (Json.lookup fields "timezone") := rfl
  simp [callTool, hproperty, bind, Except.bind, Except.map]

theorem callTool_globalSearch :
    callTool engine page "global_internet_search" (.obj fields) =
      (execGlobalSearch engine page (stringArg (Json.lookup fields "query"))
        (numberArg (Json.lookup fields "max_results"))).map fun output => ⟨output, none⟩ := by
  have hquery : property (some (.obj fields)) "query" = .ok (Json.lookup fields "query") := rfl
  have hmax : property (some (.obj fields)) "max_results" =
      .ok (Json.lookup fields "max_results") := rfl
  simp [callTool, hquery, hmax, bind, Except.bind, Except.map]

end

/-! ## Outputs in text -/

/-- A time whose strings are valid UTF-8. -/
structure Reading where
  timezone : String
  iso8601 : String
  unix : Int64
  weekday : String

def Reading.output (r : Reading) : TimeOutput :=
  ⟨bytes r.timezone, bytes r.iso8601, r.unix, bytes r.weekday⟩

def Reading.spoken (r : Reading) : String :=
  "It is currently " ++ r.iso8601 ++ " (" ++ r.weekday ++ ") in " ++ r.timezone ++ "."

/-- A result whose strings are valid UTF-8. -/
structure Hit where
  title : String
  url : String
  snippet : String
  source : String

def Hit.result (h : Hit) : Result := ⟨bytes h.title, bytes h.url, bytes h.snippet, bytes h.source⟩

def Hit.spoken (h : Hit) : String := "- " ++ h.title ++ ": " ++ h.snippet ++ " (" ++ h.url ++ ")"

def hitsOutput (hits : List Hit) : SearchOutput := ⟨hits.map Hit.result⟩

/-- All results in order, each on a line of the template. -/
def hitsSpoken (today : Today) (hits : List Hit) : String :=
  listing ("Internet search result from " ++ today.text ++ ":") (hits.map Hit.spoken)

theorem sentence_output (r : Reading) : sentence r.output = r.spoken := by
  unfold sentence Reading.spoken
  rw [Reading.output]
  rw [text_bytes, text_bytes, text_bytes]

theorem line_result (h : Hit) : line h.result = h.spoken := by
  simp only [line, Hit.result, text_bytes, Hit.spoken]

/-- The output that gets back to the proxy, if there is one. -/
def delivered {Output : Type} (url : String) (o : Outcome Output) : Option Output :=
  if url = "" then none else o.output

theorem delivered_some {Output : Type} {o : Outcome Output} {out : Output}
    (h : delivered url o = some out) : url ≠ "" ∧ o.output = some out := by
  unfold delivered at h
  split at h
  · exact nomatch h
  · rename_i hurl
    exact ⟨hurl, h⟩

theorem delivered_none {Output : Type} {o : Outcome Output} (h : delivered url o = none) :
    url = "" ∨ o.output = none := by
  unfold delivered at h
  split at h
  · rename_i hurl
    exact .inl hurl
  · exact .inr h

/-- The model is shown the output in the words of `spoken`, or that the tool has failed. -/
def Relayed {Output A : Type} (encode : A → Output) (spoken : A → String)
    (output : Option Output) (shown : ToolOutput) : Prop :=
  (∀ a, output = some (encode a) → shown = ⟨spoken a, none⟩) ∧
    (output = none → ∃ rest : Str, shown = ⟨"Tool failed: tool error (" ++ rest, none⟩)

section
variable (engine : Engine) (py : Python) (url : String)

theorem runTool_refused {page : Page} {name : String} {argsJson detail : Str}
    (hclient : page.client = true)
    (h : callTool engine page name (parseArgs argsJson) =
      .error (.error ("tool error (" ++ detail ++ ")"))) :
    runTool engine page name argsJson =
      ⟨"Tool failed: tool error (" ++ (detail ++ ")"), none⟩ := by
  simp only [runTool, hclient, if_true, h, Engine.messageOf, ← Str.append_assoc,
    Str.text_append]
  rfl

theorem runTool_ok {page : Page} {name : String} {argsJson : Str} {result : ToolOutput}
    (hclient : page.client = true)
    (h : callTool engine page name (parseArgs argsJson) = .ok result) :
    runTool engine page name argsJson = result := by
  simp only [runTool, hclient, if_true, h]

variable {page : Page} {argsJson : Str} {fields : Json.Fields}

theorem localTime_relayed (hclient : page.client = true)
    (hargs : parseArgs argsJson = .obj fields) (call : McpCallRequest → Outcome TimeOutput) :
    Relayed Reading.output Reading.spoken (delivered url (call (timeRequest fields)))
      (runTool engine (page.through py url TimeOutput.json call) "local_time" argsJson) := by
  constructor
  · intro r hr
    obtain ⟨hurl, hcall⟩ := delivered_some hr
    have hlive : (page.through py url TimeOutput.json call).client = true := hclient
    apply runTool_ok engine hlive
    rw [hargs, callTool_localTime, execLocalTime_output hurl hcall, sentence_output]
    rfl
  · intro hnone
    obtain ⟨detail, hdetail⟩ := execLocalTime_refused (delivered_none hnone)
    refine ⟨detail ++ ")", runTool_refused engine hclient ?_⟩
    rw [hargs, callTool_localTime, hdetail]
    rfl

theorem globalSearch_relayed (hclient : page.client = true)
    (hargs : parseArgs argsJson = .obj fields)
    (hquery : stringArg (Json.lookup fields "query") ≠ "")
    (call : McpCallRequest → Outcome SearchOutput) :
    Relayed hitsOutput (hitsSpoken page.today)
      (delivered url (call (searchRequest engine fields)))
      (runTool engine (page.through py url SearchOutput.json call) "global_internet_search"
        argsJson) := by
  constructor
  · intro hits hhits
    obtain ⟨hurl, hcall⟩ := delivered_some hhits
    have hlive : (page.through py url SearchOutput.json call).client = true := hclient
    apply runTool_ok engine hlive
    rw [hargs, callTool_globalSearch, execGlobalSearch_output hurl hquery hcall]
    have hlines : (hitsOutput hits).results.map line = hits.map Hit.spoken := by
      simp only [hitsOutput, List.map_map, Function.comp_def, line_result]
    rw [hlines]
    rfl
  · intro hnone
    obtain ⟨detail, hdetail⟩ := execGlobalSearch_refused hquery (delivered_none hnone)
    refine ⟨detail ++ ")", runTool_refused engine hclient ?_⟩
    rw [hargs, callTool_globalSearch, hdetail]
    rfl

/-- Whatever a call of either tool comes to, the model is shown the output of the handler if it
succeeded and its result got back, and otherwise that the tool has failed. -/
theorem runTool_relays (hclient : page.client = true) (hargs : parseArgs argsJson = .obj fields) :
    (∀ call : McpCallRequest → Outcome TimeOutput,
      Relayed Reading.output Reading.spoken (delivered url (call (timeRequest fields)))
        (runTool engine (page.through py url TimeOutput.json call) "local_time" argsJson)) ∧
    (∀ call : McpCallRequest → Outcome SearchOutput,
      stringArg (Json.lookup fields "query") ≠ "" →
      Relayed hitsOutput (hitsSpoken page.today)
        (delivered url (call (searchRequest engine fields)))
        (runTool engine (page.through py url SearchOutput.json call) "global_internet_search"
          argsJson)) := by
  constructor
  · intro call
    exact localTime_relayed engine py url hclient hargs call
  · intro call hquery
    exact globalSearch_relayed engine py url hclient hargs hquery call

theorem parseArgs_print (extra : Char → Bool) {finite : Int → Int → Bool} {v : Json}
    (h : v.renders finite = true) : parseArgs (String.ofList (Json.print extra v)) = v := by
  have hne : String.ofList (Json.print extra v) ≠ "" := by
    intro hnil
    have hpos := Json.print_pos extra v
    have hlist : Json.print extra v = [] := by
      rw [← String.toList_ofList (l := Json.print extra v), hnil]
      rfl
    rw [hlist] at hpos
    exact absurd hpos (by decide)
  have hne : Str.text (String.ofList (Json.print extra v)) ≠ "" := fun h => hne (Str.text.inj h)
  rw [parseArgs, if_neg hne, Json.parseStr_text, String.toList_ofList, Json.parse_print _ h]
  rfl

end

/-- An engine that reads numbers exactly and has nothing to say about its errors. -/
def quietEngine : Engine where
  zero m _ := m = 0
  numberText m _ := toString m
  sent m e := .num m e
  message _ := ""

def livePage : Page where
  client := true
  today := ⟨"2026-01-31", rfl⟩
  serverSearchKey := false
  userSearchKey := ""
  snapshot := none
  postSearch _ := none
  postMcpCall _ := none

def tokyo : Reading := ⟨"Asia/Tokyo", "2026-01-31T09:00:00+09:00", 1769817600, "Saturday"⟩

def recipe : Hit := ⟨"<b>Soup</b>", "https://example.org/?a&b", "Été \"chaud\"", "example.org"⟩

def spokenArgs : Json.Fields :=
  [("timezone", .str tokyo.timezone), ("query", .str "soup"), ("max_results", .num 3 0)]

theorem renders_spokenArgs : (Json.obj spokenArgs).renders plainPython.finite = true := rfl

theorem runTool_relays_once :
    runTool quietEngine (livePage.through plainPython "http://speech-mcp:8080/mcp"
        TimeOutput.json fun _ => .handled (.ok tokyo.output)) "local_time"
        (String.ofList (Json.print (fun _ => false) (.obj spokenArgs))) = ⟨tokyo.spoken, none⟩ ∧
    runTool quietEngine (livePage.through plainPython "http://speech-mcp:8080/mcp"
        SearchOutput.json fun _ => .handled (.ok (hitsOutput [recipe]))) "global_internet_search"
        (String.ofList (Json.print (fun _ => false) (.obj spokenArgs))) =
      ⟨hitsSpoken livePage.today [recipe], none⟩ ∧
    ∃ rest : Str, runTool quietEngine (livePage.through plainPython
        "http://speech-mcp:8080/mcp" TimeOutput.json fun _ => .unreachable) "local_time"
        (String.ofList (Json.print (fun _ => false) (.obj spokenArgs))) =
      ⟨"Tool failed: tool error (" ++ rest, none⟩ := by
  have hclient : livePage.client = true := rfl
  have hargs := parseArgs_print (fun _ => false) renders_spokenArgs
  have hrelays := runTool_relays quietEngine plainPython "http://speech-mcp:8080/mcp"
    hclient hargs
  refine ⟨?_, ?_, ?_⟩
  · exact (hrelays.1 fun _ => .handled (.ok tokyo.output)).1 tokyo rfl
  · have hquery : stringArg (Json.lookup spokenArgs "query") ≠ "" := by decide
    exact (hrelays.2 (fun _ => .handled (.ok (hitsOutput [recipe]))) hquery).1 [recipe] rfl
  · exact (hrelays.1 fun _ => .unreachable).2 rfl

end SpeechK8s.Demo
