import SpeechK8s.Lib.Json
import SpeechK8s.Mcp.Server

/-!
# What speech-mcp sends

The outputs of the two tools as `encoding/json` writes them, and the JSON-RPC responses that the
SDK makes of what a handler returns: of an error a result with `isError` and the error's text, of
an output a result whose one text block is the output's JSON.
-/
namespace SpeechK8s.Mcp
open Utf8 (Bytes)

/-- `encoding/json` replaces every byte that is not UTF-8. -/
def text (s : Bytes) : String := String.ofList (Utf8.decode s)

theorem text_bytes (s : String) : text (bytes s) = s := by
  rw [text, bytes, Utf8.decode_encode, String.ofList_toList]

def jsonString (s : Bytes) : Json := .str (text s)

/-- The characters that `encoding/json` escapes without need: `<`, `>`, `&` and two separators. -/
def escapesHtml (c : Char) : Bool :=
  c = '<' || c = '>' || c = '&' || c.toNat = 0x2028 || c.toNat = 0x2029

def marshal (v : Json) : Json.Text := Json.print escapesHtml v

def TimeOutput.json (out : TimeOutput) : Json :=
  .obj [("timezone", jsonString out.timezone), ("iso8601", jsonString out.iso8601),
    ("unix", .num out.unix.toInt 0), ("weekday", jsonString out.weekday)]

def Result.json (r : Result) : Json :=
  .obj [("title", jsonString r.title), ("url", jsonString r.url),
    ("snippet", jsonString r.snippet), ("source", jsonString r.source)]

def SearchOutput.json (out : SearchOutput) : Json :=
  .obj [("results", .arr (out.results.map Result.json))]

/-- What `encoding/json` can have written. -/
def Encoded (v : Json) : Prop := v.renders (fun _ _ => true) = true

/-- A block of the content of a tool result; one that is not text is named by its type. -/
inductive Block where
  | text (s : String)
  | other (type : String) (notText : type ≠ "text") (fields : List (Str × Json))
      (encoded : Encoded (.obj fields))

def Block.json : Block → Json
  | .text s => .obj [("type", .str "text"), ("text", .str s)]
  | .other type _ fields _ => .obj (fields ++ [Json.field "type" (.str type)])

def Block.said : Block → String
  | .text s => s
  | .other _ _ _ _ => ""

structure ToolResult where
  content : List Block
  structured : Option Json
  isError : Bool

def ToolResult.said (r : ToolResult) : String := String.join (r.content.map Block.said)

def ToolResult.json (r : ToolResult) : Json :=
  .obj ([Json.field "content" (.arr (r.content.map Block.json))] ++
    r.structured.toList.map (Json.field "structuredContent") ++
    (if r.isError then [Json.field "isError" (.bool true)] else []))

/-- `mcp.AddTool`: the result for what the handler returns. -/
def addTool {Output : Type} (json : Output → Json) : Except String Output → ToolResult
  | .error message => ⟨[.text message], none, true⟩
  | .ok out => ⟨[.text (String.ofList (marshal (json out)))], some (json out), false⟩

structure RpcError where
  code : Int
  message : String
  data : Option Json
  encoded : ∀ v ∈ data, Encoded v

def RpcError.json (e : RpcError) : Json :=
  .obj ([Json.field "code" (.num e.code 0), Json.field "message" (.str e.message)] ++
    e.data.toList.map (Json.field "data"))

/-- The body of a JSON-RPC response with one member, `result` or `error`. -/
def rpcResponse (member : String) (v : Json) : Json :=
  .obj [("jsonrpc", .str "2.0"), ("id", .num 1 0), (member, v)]

/-- What a call of a tool comes to on the way from the proxy to speech-mcp and back. The client
may fail before it sends anything, and `text` and `body` are what it makes of the body of a
response. -/
inductive Outcome (Output : Type) where
  | unsendable
  | unreachable
  | refused (status : Nat) (text : Option String) (body : Option Json) (notOk : status ≠ 200)
  | rpcError (e : RpcError)
  | toolError (content : List Block)
  | handled (returned : Except String Output)

def Outcome.output {Output : Type} : Outcome Output → Option Output
  | .handled (.ok out) => some out
  | _ => none

/-! ## All of it is text -/

theorem renders_append {finite : Int → Int → Bool} {fs gs : List (Str × Json)}
    (hfs : Json.rendersFields finite fs = true) (hgs : Json.rendersFields finite gs = true) :
    Json.rendersFields finite (fs ++ gs) = true := by
  induction fs with
  | nil => exact hgs
  | cons f fs ih =>
      obtain ⟨k, v⟩ := f
      obtain ⟨hk, hv, hrest⟩ := Json.renders_field hfs
      simp only [List.cons_append, Json.rendersFields, hk, hv, ih hrest, Bool.and_self]

theorem rendersItems_map {α : Type} {finite : Int → Int → Bool} {f : α → Json} {xs : List α}
    (h : ∀ x ∈ xs, (f x).renders finite = true) :
    Json.rendersItems finite (xs.map f) = true := by
  induction xs with
  | nil => rfl
  | cons x xs ih =>
      obtain ⟨hx, hxs⟩ := List.forall_mem_cons.mp h
      simp only [List.map_cons, Json.rendersItems, hx, ih hxs, Bool.and_self]

theorem TimeOutput.encoded (out : TimeOutput) : Encoded out.json := rfl

theorem SearchOutput.encoded (out : SearchOutput) : Encoded out.json := by
  have hitems : Json.rendersItems (fun _ _ => true) (out.results.map Result.json) = true :=
    rendersItems_map fun _ _ => rfl
  simp only [Encoded, SearchOutput.json, Json.renders, Json.rendersFields, Str.isText_text, hitems,
    Bool.and_self]

theorem Block.encoded (b : Block) : Encoded b.json := by
  cases b with
  | text s => rfl
  | other type notText fields encoded =>
      have htype : Json.rendersFields (fun _ _ => true) [Json.field "type" (.str type)] = true :=
        rfl
      exact renders_append encoded htype

theorem rendersFields_option {finite : Int → Int → Bool} (key : String) {data : Option Json}
    (h : ∀ v ∈ data, v.renders finite = true) :
    Json.rendersFields finite (data.toList.map (Json.field key)) = true := by
  cases data with
  | none => rfl
  | some v =>
      have hv := h v rfl
      simp only [Option.toList_some, List.map_cons, List.map_nil, Json.field, Json.rendersFields,
        Str.isText_text, hv, Bool.and_self]

theorem ToolResult.encoded {r : ToolResult} (h : ∀ v ∈ r.structured, Encoded v) :
    Encoded r.json := by
  obtain ⟨content, structured, isError⟩ := r
  have hitems : Json.rendersItems (fun _ _ => true) (content.map Block.json) = true :=
    rendersItems_map fun b _ => b.encoded
  have hcontent : Json.rendersFields (fun _ _ => true)
      [Json.field "content" (.arr (content.map Block.json))] = true := by
    simp only [Json.field, Json.rendersFields, Json.renders, Str.isText_text, hitems, Bool.and_self]
  have hflag : Json.rendersFields (fun _ _ => true)
      (if isError then [Json.field "isError" (.bool true)] else []) = true := by
    cases isError <;> rfl
  exact renders_append (renders_append hcontent (rendersFields_option _ h)) hflag

theorem addTool_encoded {Output : Type} {json : Output → Json} (h : ∀ out, Encoded (json out))
    (returned : Except String Output) : Encoded (addTool json returned).json := by
  apply ToolResult.encoded
  cases returned with
  | error message => exact nofun
  | ok out =>
      intro v hv
      obtain rfl := Option.some.inj hv
      exact h out

theorem RpcError.encoded_json (e : RpcError) : Encoded e.json := by
  have hhead : Json.rendersFields (fun _ _ => true)
      [Json.field "code" (.num e.code 0), Json.field "message" (.str e.message)] = true := rfl
  exact renders_append hhead (rendersFields_option _ e.encoded)

theorem rpcResponse_encoded (member : String) {v : Json} (h : Encoded v) :
    Encoded (rpcResponse member v) := by
  have hv : v.renders (fun _ _ => true) = true := h
  simp only [Encoded, rpcResponse, Json.renders, Json.rendersFields, Str.isText_text, hv,
    Bool.and_self]

theorem parse_marshal {v : Json} (h : Encoded v) : Json.parse (marshal v) = some v :=
  Json.parse_print _ h

end SpeechK8s.Mcp
