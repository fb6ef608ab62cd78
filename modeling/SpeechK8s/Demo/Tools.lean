import SpeechK8s.Demo.Proxy

/-!
# demo/main.js: runTool

The function that runs the tool a model called, and the tools that ask a server. Values are JSON
values; `none` stands for `undefined`. Log messages are left out. Wherever two strings of unknown
content are put together there is text between them, so that no surrogates meet.
-/
namespace SpeechK8s.Demo

inductive NativeError where
  | network
  | notJson
  | notObject (key : String)
  | notPrimitive
  | notIterable

inductive Thrown where
  | error (message : Str)
  | native (e : NativeError)

/-- What is left to the engine: the numbers that are read as 0, `String(x)` of a number, what
`JSON.stringify` writes for it, and the texts of its errors. -/
structure Engine where
  zero : Int → Int → Bool
  numberText : Int → Int → String
  sent : Int → Int → Json
  message : NativeError → String

/-- `new Date().toISOString().slice(0, 10)` -/
structure Today where
  text : String
  plain : text.toList.all (fun c => c.isDigit || c = '-' || c = '+') = true

/-- What `runTool` reads of the page; a `fetch` may be rejected, and the camera may have no
frame. -/
structure Page where
  client : Bool
  today : Today
  serverSearchKey : Bool
  userSearchKey : String
  snapshot : Option String
  postSearch : Json.Fields → Option HttpResponse
  postMcpCall : McpCallRequest → Option HttpResponse

/-! ## Values -/

section
variable (engine : Engine)

def Engine.truthy : Json → Bool
  | .null => false
  | .bool b => b
  | .num m e => !engine.zero m e
  | .str s => s ≠ ""
  | .arr _ | .obj _ => true

mutual

/-- `String(x)`. An object with a key `toString` has no method of that name any more. -/
def Engine.display : Json → Except Thrown Str
  | .null => .ok "null"
  | .bool b => .ok (if b then "true" else "false")
  | .num m e => .ok (engine.numberText m e)
  | .str s => .ok s
  | .arr items => do .ok (Str.intercalate "," (← Engine.displayItems items))
  | .obj fields =>
      if (Json.lookup fields "toString").isSome then .error (.native .notPrimitive)
      else .ok "[object Object]"

def Engine.displayItems : List Json → Except Thrown (List Str)
  | [] => .ok []
  | .null :: items => do .ok ("" :: (← Engine.displayItems items))
  | x :: items => do
      let s ← Engine.display x
      .ok (s :: (← Engine.displayItems items))

end

/-- `${x}` -/
def Engine.template : Option Json → Except Thrown Str
  | none => .ok "undefined"
  | some x => engine.display x

/-- `x.key` -/
def property (x : Option Json) (key : String) : Except Thrown (Option Json) :=
  match x with
  | none | some .null => .error (.native (.notObject key))
  | some (.obj fields) => .ok (Json.lookup fields key)
  | some _ => .ok none

/-- `for (const r of x)` -/
def iterable : Json → Except Thrown (List Json)
  | .arr items => .ok items
  | .str s => .ok (s.points.map fun p => .str (.ofPoints [p]))
  | _ => .error (.native .notIterable)

/-! ## Responses -/

def HttpResponse.ok (res : HttpResponse) : Prop := 200 ≤ res.status ∧ res.status < 300

instance (res : HttpResponse) : Decidable res.ok := inferInstanceAs (Decidable (_ ∧ _))

def HttpResponse.json (res : HttpResponse) : Except Thrown Json :=
  match Json.parse res.body with
  | some v => .ok v
  | none => .error (.native .notJson)

/-- The status, unless the body has a `detail`. -/
def Engine.detail (res : HttpResponse) : Except Thrown Str :=
  match (do property (some (← res.json)) "detail") with
  | .ok (some detail) =>
      if engine.truthy detail then engine.display detail else .ok (toString res.status)
  | _ => .ok (toString res.status)

/-- The response to a `fetch`, with `search` or `tool` for the error it may be. -/
def Engine.fetched (kind : String) : Option HttpResponse → Except Thrown HttpResponse
  | none => .error (.native .network)
  | some res =>
      if res.ok then .ok res
      else do .error (.error (kind ++ " error (" ++ (← engine.detail res) ++ ")"))

/-! ## Tools -/

def joined (lines : List Str) : Str :=
  if 1 < lines.length then Str.intercalate "\n" lines
  else lines.headD "" ++ "\nNo results found."

def Engine.resultLine (r : Json) : Except Thrown Str := do
  let title ← engine.template (← property (some r) "title")
  let snippet ← engine.template (← property (some r) "snippet")
  let url ← engine.template (← property (some r) "url")
  .ok ("- " ++ title ++ ": " ++ snippet ++ " (" ++ url ++ ")")

variable (page : Page)

def execWebSearch (query : Str) : Except Thrown Str :=
  if query = "" then .ok "No query provided."
  else do
    let key := if !page.serverSearchKey && page.userSearchKey ≠ "" then
      [Json.field "key" (.str page.userSearchKey)] else []
    let res ← engine.fetched "search" (page.postSearch (("query", .str query) :: key))
    let json ← res.json
    let answer ← property (some json) "answer"
    let answerLine ←
      match answer with
      | some answer =>
          if engine.truthy answer then do .ok ["Answer: " ++ (← engine.display answer)] else .ok []
      | none => .ok []
    let results ←
      match ← property (some json) "results" with
      | some results => if engine.truthy results then iterable results else .ok []
      | none => .ok []
    let lines ← results.mapM engine.resultLine
    .ok (joined
      (.text ("Google search result from " ++ page.today.text ++ ":") :: answerLine ++ lines))

/-- `JSON.parse(output)`, or the output as it is. -/
def Engine.parseOutput (output : Option Json) : Option Json :=
  match engine.template output with
  | .ok text => (Json.parseStr text).or output
  | .error _ => output

def execMcpCall (name : String) (args : Json.Fields) : Except Thrown (Option Json) := do
  let res ← engine.fetched "tool" (page.postMcpCall ⟨name, args⟩)
  let output ← property (some (← res.json)) "output"
  .ok (engine.parseOutput output)

def Engine.timeText (d : Json) : Except Thrown Str := do
  let iso8601 ← engine.template (← property (some d) "iso8601")
  let weekday ← engine.template (← property (some d) "weekday")
  let timezone ← engine.template (← property (some d) "timezone")
  .ok ("It is currently " ++ iso8601 ++ " (" ++ weekday ++ ") in " ++ timezone ++ ".")

/-- `timezone ? { timezone } : {}` -/
def timeArgs (timezone : Str) : Json.Fields :=
  if timezone ≠ "" then [("timezone", .str timezone)] else []

def execLocalTime (timezone : Str) : Except Thrown Str := do
  let data ← execMcpCall engine page "local_time" (timeArgs timezone)
  match data with
  | some (.obj fields) => engine.timeText (.obj fields)
  | some (.arr items) => engine.timeText (.arr items)
  | data => engine.template data

/-- `data?.results`, if it is an array. -/
def resultsOf : Option Json → List Json
  | some (.obj fields) =>
      match Json.lookup fields "results" with
      | some (.arr results) => results
      | _ => []
  | _ => []

def Engine.searchText (data : Option Json) : Except Thrown Str := do
  let lines ← (resultsOf data).mapM engine.resultLine
  .ok (joined (.text ("Internet search result from " ++ page.today.text ++ ":") :: lines))

/-- The query, and the number of results unless it is 0 or absent. -/
def Engine.searchArgs (query : Str) : Option (Int × Int) → Json.Fields
  | some (m, e) =>
      ("query", .str query) :: (if engine.zero m e then [] else [("max_results", engine.sent m e)])
  | none => [("query", .str query)]

def execGlobalSearch (query : Str) (maxResults : Option (Int × Int)) : Except Thrown Str :=
  if query = "" then .ok "No query provided."
  else do
    let data ← execMcpCall engine page "global_internet_search"
      (engine.searchArgs query maxResults)
    engine.searchText page data

/-! ## runTool -/

structure ToolOutput where
  output : Str
  image : Option String
  deriving DecidableEq

/-- `typeof x === "string" ? x : ""` -/
def stringArg : Option Json → Str
  | some (.str s) => s
  | _ => ""

/-- `typeof x === "number" ? x : undefined` -/
def numberArg : Option Json → Option (Int × Int)
  | some (.num m e) => some (m, e)
  | _ => none

/-- The arguments of a call; a text that does not parse leaves the empty object. -/
def parseArgs (argsJson : Str) : Json :=
  (Json.parseStr (if argsJson = "" then "\x7b\x7d" else argsJson)).getD (.obj [])

/-- The body of the `try` statement. -/
def callTool (name : String) (args : Json) : Except Thrown ToolOutput := do
  if name = "web_search" then
    let query := stringArg (← property (some args) "query")
    .ok ⟨← execWebSearch engine page query, none⟩
  else if name = "local_time" then
    let timezone := stringArg (← property (some args) "timezone")
    .ok ⟨← execLocalTime engine page timezone, none⟩
  else if name = "global_internet_search" then
    let query := stringArg (← property (some args) "query")
    let maxResults := numberArg (← property (some args) "max_results")
    .ok ⟨← execGlobalSearch engine page query maxResults, none⟩
  else if name = "camera_snapshot" then
    match page.snapshot with
    | some image =>
        .ok ⟨"Snapshot captured from the webcam and attached as an image.", some image⟩
    | none => .ok ⟨"The camera is not available right now.", none⟩
  else .ok ⟨"Unknown tool: " ++ name, none⟩

def Engine.messageOf : Thrown → Str
  | .error message => message
  | .native e => engine.message e

def runTool (name : String) (argsJson : Str) : ToolOutput :=
  if page.client then
    match callTool engine page name (parseArgs argsJson) with
    | .ok result => result
    | .error thrown => ⟨"Tool failed: " ++ engine.messageOf thrown, none⟩
  else ⟨"", none⟩

end

end SpeechK8s.Demo
