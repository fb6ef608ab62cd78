import SpeechK8s.Lib.Json

/-!
# demo/server.py: /api/mcp/call

`mcp_call` on whatever comes back from speech-mcp. Python looks into the decoded body without
looking at its type first, so a value of another type than expected raises; FastAPI turns an
`HTTPException` into its status and a `detail`, and any other exception into a plain 500, as it
does a response that cannot be written as JSON.
-/
namespace SpeechK8s.Demo

/-- What is left to Python: the numbers that are read as 0 and those that are not read as an
infinity, and `str(x)` of a value that is not a string. -/
structure Python where
  zero : Int → Int → Bool
  finite : Int → Int → Bool
  str : Json → String

/-- `f"{x}"` -/
def Python.text (py : Python) : Json → Str
  | .str s => s
  | v => py.str v

/-- Numbers are read exactly, and nothing else has a text. -/
def plainPython : Python where
  zero m _ := m = 0
  finite _ _ := true
  str _ := ""

structure McpCallRequest where
  name : String
  arguments : Json.Fields

/-- What the POST to speech-mcp comes to: an `httpx.RequestError`, another exception of the
client (it may not be able to encode the request), or a response. Of a body, `text` and `json` are
`none` where `resp.text` and `resp.json()` raise. -/
inductive Upstream where
  | requestError
  | raised
  | response (status : Nat) (text : Option String) (json : Option Json)

inductive Failure where
  | httpException (status : Nat) (detail : Json)
  | unhandled

/-- `bool(x)`; `zero` are the numbers that are read as 0. -/
def truthy (zero : Int → Int → Bool) : Json → Bool
  | .null => false
  | .bool b => b
  | .num m e => !zero m e
  | .str s => s ≠ ""
  | .arr items => !items.isEmpty
  | .obj fields => !fields.isEmpty

/-- `x.get(key)`, `none` for a missing key. -/
def get (x : Json) (key : String) : Except Failure (Option Json) :=
  match x with
  | .obj fields => .ok (Json.lookup fields key)
  | _ => .error .unhandled

/-- `for c in x` -/
def iterate : Json → Except Failure (List Json)
  | .arr items => .ok items
  | .str s => .ok (s.points.map fun p => .str (.ofPoints [p]))
  | .obj fields => .ok (fields.map fun f => .str f.1)
  | .null | .bool _ | .num _ _ => .error .unhandled

def isText : Option Json → Bool
  | some (.str s) => s = "text"
  | _ => false

/-- What a block of the content gives `"".join`, which takes strings only. -/
def blockText (c : Json) : Except Failure Str := do
  if isText (← get c "type") then
    match (← get c "text").getD (.str "") with
    | .str s => .ok s
    | _ => .error .unhandled
  else .ok ""

/-- A detail of `None` is replaced by the phrase of the status. -/
def badGateway (detail : Json) : Failure :=
  match detail with
  | .null => .httpException 502 (.str "Bad Gateway")
  | detail => .httpException 502 detail

/-- `mcp_call`; `url` is `MCP_SERVER_URL`. Of a status other than 200 the body is read for the log,
which may raise. -/
def mcpCall (py : Python) (url : String) (post : McpCallRequest → Upstream)
    (req : McpCallRequest) : Except Failure Str :=
  if url = "" then .error (.httpException 503 (.str "Tool server is not configured."))
  else
    match post req with
    | .requestError => .error (badGateway (.str "Tool server unreachable."))
    | .raised => .error .unhandled
    | .response status text json =>
        if status ≠ 200 then
          match text with
          | none => .error .unhandled
          | some _ => .error (badGateway (.str s!"Tool server error ({status})."))
        else
          match json with
          | none => .error .unhandled
          | some data => do
              let rpcError := (← get data "error").getD .null
              if truthy py.zero rpcError then
                let message := (← get rpcError "message").getD (.str "Tool call failed.")
                .error (badGateway message)
              else
                let result := (← get data "result").getD .null
                let result := if truthy py.zero result then result else .obj []
                let content ← iterate ((← get result "content").getD (.arr []))
                let text := Str.join (← content.mapM blockText)
                if truthy py.zero ((← get result "isError").getD .null) then
                  .error (badGateway (.str (if text = "" then "Tool call failed." else text)))
                else .ok text

/-! ## mcp_call, part by part -/

/-- A flag or an error is set when it is there and not empty. -/
def isSet (zero : Int → Int → Bool) (v : Option Json) : Bool := truthy zero (v.getD .null)

/-- The strings that `"".join` gets from a content. -/
def texts (content : Json) : Except Failure (List Str) := do
  let items ← iterate content
  items.mapM blockText

/-- The end of `mcp_call`, for what `data.get("result") or {}` is. -/
def readResult (zero : Int → Int → Bool) (result : Json) : Except Failure Str := do
  let content ← texts ((← get result "content").getD (.arr []))
  if isSet zero (← get result "isError") then
    .error (badGateway (.str
      (if Str.join content = "" then "Tool call failed." else Str.join content)))
  else .ok (Str.join content)

/-- `mcp_call` after `resp.json()`. -/
def readBody (zero : Int → Int → Bool) (data : Json) : Except Failure Str := do
  let rpcError := (← get data "error").getD .null
  if truthy zero rpcError then
    let message := (← get rpcError "message").getD (.str "Tool call failed.")
    .error (badGateway message)
  else
    let result := (← get data "result").getD .null
    readResult zero (if truthy zero result then result else .obj [])

theorem badGateway_status (detail : Json) : ∃ d, badGateway detail = .httpException 502 d := by
  unfold badGateway
  split
  · exact ⟨_, rfl⟩
  · exact ⟨_, rfl⟩

section
variable {py : Python} {url : String} {post : McpCallRequest → Upstream} {req : McpCallRequest}

theorem mcpCall_unreachable (hurl : url ≠ "") (hpost : post req = .requestError) :
    mcpCall py url post req = .error (badGateway (.str "Tool server unreachable.")) := by
  simp only [mcpCall, hurl, if_false, hpost]

theorem mcpCall_raised (hurl : url ≠ "") (hpost : post req = .raised) :
    mcpCall py url post req = .error .unhandled := by
  simp only [mcpCall, hurl, if_false, hpost]

theorem mcpCall_status (hurl : url ≠ "") {status : Nat} {text : String} {body : Option Json}
    (hpost : post req = .response status (some text) body) (hstatus : status ≠ 200) :
    mcpCall py url post req =
      .error (badGateway (.str s!"Tool server error ({status}).")) := by
  simp only [mcpCall, hurl, if_false, hpost, hstatus, ne_eq, not_false_eq_true, if_true]

theorem mcpCall_unreadable (hurl : url ≠ "") {status : Nat} {body : Option Json}
    (hpost : post req = .response status none body) (hstatus : status ≠ 200) :
    mcpCall py url post req = .error .unhandled := by
  simp only [mcpCall, hurl, if_false, hpost, hstatus, ne_eq, not_false_eq_true, if_true]

theorem mcpCall_undecoded (hurl : url ≠ "") {text : Option String}
    (hpost : post req = .response 200 text none) :
    mcpCall py url post req = .error .unhandled := by
  simp only [mcpCall, hurl, if_false, hpost, ne_eq, not_true_eq_false]

theorem mcpCall_body (hurl : url ≠ "") {text : Option String} {data : Json}
    (hpost : post req = .response 200 text (some data)) :
    mcpCall py url post req = readBody py.zero data := by
  simp only [mcpCall, hurl, if_false, hpost, ne_eq, not_true_eq_false, readBody, readResult, texts,
    isSet, bind_assoc]
  rfl

end

/-! ## The response -/

structure HttpResponse where
  status : Nat
  body : Json.Text

/-- `JSONResponse`, which escapes no more than it must. -/
def jsonResponse (status : Nat) (value : Json) : HttpResponse :=
  ⟨status, Json.print (fun _ => false) value⟩

def internalServerError : HttpResponse := ⟨500, "Internal Server Error".toList⟩

/-- `JSONResponse`, or the exception that it raises where it cannot write the value. -/
def rendered (py : Python) (status : Nat) (value : Json) : HttpResponse :=
  if value.renders py.finite then jsonResponse status value else internalServerError

def respond (py : Python) : Except Failure Str → HttpResponse
  | .ok output => rendered py 200 (.obj [("output", .str output)])
  | .error (.httpException status detail) => rendered py status (.obj [("detail", detail)])
  | .error .unhandled => internalServerError

end SpeechK8s.Demo
