import SpeechK8s.Demo.Deployment

/-!
# A web search, from the model and back

A call of `web_search` goes through the page and `/api/search` to Serper. What the model is told
in the end: the hits in the order of Serper, or why there are none.
-/
namespace SpeechK8s.Demo
open Handler
open Tts (strip)

/-! ## The page and the server -/

section
variable (engine : Engine) (page : Page)

/-- The body that `execWebSearch` sends. -/
def searchBody (query : String) : Json.Fields :=
  ("query", .str query) ::
    (if !page.serverSearchKey && page.userSearchKey ≠ "" then
      [Json.field "key" (.str page.userSearchKey)] else [])

/-- The body of `/api/search` as the server reads it, `none` where it is refused before that. A
string that is not text is. -/
def readSearchRequest : Json → Option Server.SearchRequest
  | .obj fields =>
      match Json.lookup fields "query", Json.lookup fields "key" with
      | some (.str (.text query)), none | some (.str (.text query)), some .null =>
          some ⟨query, none⟩
      | some (.str (.text query)), some (.str (.text key)) => some ⟨query, some (.text key)⟩
      | _, _ => none
  | _ => none

/-- The request that the server gets for a query of the model. -/
def searchRequestOf (query : String) : Option Server.SearchRequest :=
  (Json.parse (Json.print (fun _ => false) (.obj (searchBody page query)))).bind readSearchRequest

/-- The key that the page sends. -/
def sentKey : Option String :=
  if !page.serverSearchKey && page.userSearchKey ≠ "" then some page.userSearchKey else none

theorem searchRequestOf_eq (query : String) :
    searchRequestOf page query = some ⟨query, (sentKey page).map .text⟩ := by
  have hrenders : Json.renders (fun _ _ => true) (.obj (searchBody page query)) = true := by
    unfold searchBody
    split <;> rfl
  rw [searchRequestOf, Json.parse_print _ hrenders]
  unfold searchBody sentKey
  split <;> rfl

theorem lookup_searchBody_key (query : String) : Json.lookup (searchBody page query) "key" =
    (sentKey page).map fun key => .str (.text key) := by
  unfold searchBody sentKey
  split <;> rfl

/-- The page gets `res` from a handler that has ended. -/
inductive Server.Ends (py : Python) : Server.Serve Server.Response → HttpResponse → Prop
  | done {r : Server.Response} {res : HttpResponse} (gives : r.Gives res) : Ends py (.done r) res
  | raise (f : Failure) : Ends py (.raise f) (respond py (.error f))

/-- `execWebSearch` after its `fetch`. -/
def Engine.webSearchText (res : HttpResponse) : Except Thrown Str := do
  let json ← res.json
  let answer ← property (some json) "answer"
  let answerLine ←
    match answer with
    | some answer =>
        if engine.truthy answer then do .ok ["Answer: " ++ (← engine.display answer)] else .ok []
    | none => .ok []
  let results ←
    match ← property (some json) "results" with
    | some results => if engine.truthy results then iterable results else .ok []
    | none => .ok []
  let lines ← results.mapM engine.resultLine
  let header := "Google search result from " ++ page.today.text ++ ":"
  .ok (joined (.text header :: answerLine ++ lines))

theorem execWebSearch_eq {query : String} (h : query ≠ "") :
    execWebSearch engine page query = (do
      let res ← engine.fetched "search" (page.postSearch (searchBody page query))
      engine.webSearchText page res) := by
  rw [execWebSearch, if_neg (h ∘ Str.text.inj)]
  rfl

end

/-! ## What Serper sends -/

/-- `x.get(key, "")`, if that is a string. -/
def Text (fields : Json.Fields) (key s : String) : Prop :=
  Json.lookup fields key = some (.str s) ∨ Json.lookup fields key = none ∧ s = ""

/-- `x.get(key) or {}`, if that is an object. -/
def Box (fields : Json.Fields) (key : String) (box : Json.Fields) : Prop :=
  Json.lookup fields key = some (.obj box) ∨ Json.lookup fields key = none ∧ box = []

structure WebHit where
  title : String
  snippet : String
  link : String

def WebHit.json (h : WebHit) : Json :=
  .obj [("title", .str h.title), ("snippet", .str h.snippet), ("url", .str h.link)]

def WebHit.line (h : WebHit) : String :=
  "- " ++ h.title ++ ": " ++ h.snippet ++ " (" ++ h.link ++ ")"

/-- A page of results: what the server looks for in it has the type that it should have, or is
missing. -/
structure SerperPage where
  fields : Json.Fields
  items : List (Json.Fields)
  hits : List WebHit
  box : Json.Fields
  answer : String
  snippet : String
  graph : Json.Fields
  description : String
  organic : Json.lookup fields "organic" = some (.arr (items.map Json.obj)) ∨
    Json.lookup fields "organic" = none ∧ items = []
  itemHits : List.Forall₂ (fun item hit => Text item "title" hit.title ∧
    Text item "snippet" hit.snippet ∧ Text item "link" hit.link) items hits
  answerBox : Box fields "answerBox" box
  boxAnswer : Text box "answer" answer
  boxSnippet : Text box "snippet" snippet
  knowledgeGraph : Box fields "knowledgeGraph" graph
  graphDescription : Text graph "description" description

/-- The direct answer of a page, the empty string for none. -/
def SerperPage.best (found : SerperPage) : String :=
  if found.answer ≠ "" then found.answer
  else if found.snippet ≠ "" then found.snippet
  else found.description

/-- What the server answers with a page. -/
def SerperPage.response (found : SerperPage) (query : String) : Json.Fields :=
  [("query", .str query), ("answer", if found.best ≠ "" then .str found.best else .null),
    ("results", .arr ((found.hits.take 5).map WebHit.json))]

/-- What the model is shown of a page. -/
def SerperPage.told (found : SerperPage) (today : Today) : String :=
  listing ("Google search result from " ++ today.text ++ ":")
    ((if found.best ≠ "" then ["Answer: " ++ found.best] else []) ++
      (found.hits.take 5).map WebHit.line)

section
variable {py : Python} {fields : Json.Fields} {key s : String}

theorem Text.getD (h : Text fields key s) : (Json.lookup fields key).getD (.str "") = .str s := by
  rcases h with h | ⟨h, rfl⟩
  · rw [h]
    rfl
  · rw [h]
    rfl

theorem Text.orElse (h : Text fields key s) (y : Json) :
    Server.orElse py (Json.lookup fields key) y = if s ≠ "" then .str s else y := by
  rcases h with h | ⟨h, rfl⟩
  · rw [h]
    simp [Server.orElse, truthy]
  · rw [h]
    rfl

theorem Box.get {box : Json.Fields} (h : Box fields key box) (name : String) :
    get (Server.orElse py (Json.lookup fields key) (.obj [])) name =
      .ok (Json.lookup box name) := by
  rcases h with h | ⟨h, rfl⟩
  · rw [h]
    cases box with
    | nil => rfl
    | cons f box => rfl
  · rw [h]
    rfl

theorem SerperPage.firstItems (found : SerperPage) :
    Server.firstItems Server.maxResults
        (Server.orElse py (Json.lookup found.fields "organic") (.arr [])) =
      .ok ((found.items.take Server.maxResults).map .obj) := by
  rcases found.organic with h | ⟨h, hnone⟩
  · rw [h]
    cases hitems : found.items with
    | nil => rfl
    | cons item items => simp [Server.orElse, truthy, Server.firstItems, List.map_take]
  · rw [h, hnone]
    rfl

theorem mapM_searchResult {items : List (Json.Fields)} {hits : List WebHit}
    (h : List.Forall₂ (fun item hit => Text item "title" hit.title ∧
      Text item "snippet" hit.snippet ∧ Text item "link" hit.link) items hits) (n : Nat) :
    ((items.take n).map Json.obj).mapM Server.searchResult =
      .ok ((hits.take n).map WebHit.json) := by
  induction h generalizing n with
  | nil => simp [pure, Except.pure]
  | @cons item hit items hits htexts _ ih =>
      obtain ⟨htitle, hsnippet, hlink⟩ := htexts
      cases n with
      | zero => simp [pure, Except.pure]
      | succ n =>
          have hresult : Server.searchResult (.obj item) = .ok hit.json := by
            simp [Server.searchResult, get, htitle.getD, hsnippet.getD, hlink.getD, bind,
              Except.bind, WebHit.json]
          simp only [List.take_succ_cons, List.map_cons, List.mapM_cons, hresult, ih n, bind,
            Except.bind, pure, Except.pure]

/-- What the server makes of a page. -/
theorem readSearch_page (query : String) (found : SerperPage) :
    Server.readSearch py query (.obj found.fields) = .ok (found.response query) := by
  have hget : ∀ name, get (.obj found.fields) name = .ok (Json.lookup found.fields name) :=
    fun _ => rfl
  unfold Server.readSearch SerperPage.response SerperPage.best
  simp only [hget, bind, Except.bind, found.firstItems, mapM_searchResult found.itemHits,
    found.answerBox.get, found.boxAnswer.orElse, found.boxSnippet.orElse]
  have hfive : Server.maxResults = 5 := rfl
  rw [hfive]
  by_cases hanswer : found.answer = ""
  · by_cases hsnippet : found.snippet = ""
    · simp [hanswer, hsnippet, truthy, found.knowledgeGraph.get, found.graphDescription.orElse]
    · simp [hanswer, hsnippet, truthy]
  · simp [hanswer, truthy]

theorem renders_response (finite : Int → Int → Bool) (query : String) (found : SerperPage) :
    Json.renders finite (.obj (found.response query)) = true := by
  have hhits : ∀ hits : List WebHit,
      Json.rendersItems finite (hits.map WebHit.json) = true := by
    intro hits
    induction hits with
    | nil => rfl
    | cons hit hits ih => simpa [Json.rendersItems, WebHit.json, Json.renders, Json.rendersFields]
  have hfive := hhits (found.hits.take 5)
  unfold SerperPage.response
  split <;> simp only [Json.renders, Json.rendersFields, hfive, Str.isText_text, Bool.and_self]

end

/-! ## What may fail -/

/-- What Serper says of an error: its status, and its message if it sends one. -/
inductive SaysError (py : Python) (a : Server.Answer) : Str → Prop
  | message {fields : Json.Fields} {msg : Json} (body : a.json = some (.obj fields))
      (said : Json.lookup fields "message" = some msg) (set : truthy py.zero msg = true) :
      SaysError py a
        (.text ("Search provider error (" ++ toString a.status ++ "): ") ++ py.text msg)
  | status (silent : ∀ fields msg, a.json = some (.obj fields) →
      Json.lookup fields "message" = some msg → truthy py.zero msg = false) :
      SaysError py a (.text ("Search provider error (" ++ toString a.status ++ ")"))

/-- Why Serper gives no hits, as the model is told it; of what the server does not handle it is
told the status. -/
inductive SerperFails (py : Python) : Server.Fetched Server.Answer → Str → Prop
  | unreachable : SerperFails py .requestError "Search provider unreachable."
  | refused {a : Server.Answer} {detail : Str} (status : a.status ≠ 200) (read : a.text ≠ none)
      (error : SaysError py a detail) (written : detail.isText = true) :
      SerperFails py (.response a) detail
  | raised : SerperFails py .raised "500"
  | unread {a : Server.Answer} (status : a.status ≠ 200) (undecoded : a.text = none) :
      SerperFails py (.response a) "500"
  | unwritten {a : Server.Answer} {detail : Str} (status : a.status ≠ 200)
      (error : SaysError py a detail) (ill : detail.isText = false) :
      SerperFails py (.response a) "500"
  | noPage {a : Server.Answer} (status : a.status = 200)
      (other : ∀ found : SerperPage, a.json ≠ some (.obj found.fields)) :
      SerperFails py (.response a) "500"

/-- Why a search fails, by how far it has come. -/
inductive SearchFails (py : Python) (cfg : Server.Settings) (query : String)
    (key : Option String) : Server.History → Str → Prop
  | empty (blank : strip query = "") : SearchFails py cfg query key [] "Empty query."
  | noKey (own : strip (key.getD "") = "") (server : cfg.serperKey = "") :
      SearchFails py cfg query key [] "Search is not configured."
  | serper {sent : Server.Sent} {reply : Server.Fetched Server.Answer} {detail : Str}
      (fails : SerperFails py reply detail) :
      SearchFails py cfg query key [⟨.serper (strip query), sent, reply⟩] detail

/-- The page reads `detail` in a failure of the server. -/
inductive Tells : Failure → Str → Prop
  | detail (status : Nat) (detail : String) (no : 300 ≤ status) (said : detail ≠ "") :
      Tells (.httpException status (.str detail)) detail
  | ill (status : Nat) (detail : Str) (ill : detail.isText = false) :
      Tells (.httpException status (.str detail)) "500"
  | unhandled : Tells .unhandled "500"

/-! ## /api/search, run by run -/

/-- `/api/search` once Serper has answered. -/
def Server.searched (py : Python) (query : String) (reply : Server.Fetched Server.Answer) :
    Server.Serve Server.Response := do
  let resp ← Server.fetched "Search provider unreachable." reply
  if resp.status ≠ 200 then Server.refusal resp (Server.searchError py resp)
  else
    match resp.json with
    | none => throw .unhandled
    | some data => do
        let fields ← ofExcept (Server.readSearch py query data)
        Server.rendered py (Server.asJson 200 fields "")

/-- The key that a request is answered with. -/
def Server.searchKey (cfg : Server.Settings) (key : Option String) : String :=
  if strip (key.getD "") ≠ "" then strip (key.getD "") else cfg.serperKey

theorem stripStr_text (s : String) : Server.stripStr s = strip s := Str.strip_text Tts.isSpace s

theorem search_eq (py : Python) (cfg : Server.Settings) (query : String) (key : Option String) :
    Server.search py cfg ⟨query, key.map .text⟩ =
      if strip query = "" then .raise (.httpException 400 (.str "Empty query."))
      else if Server.searchKey cfg key = "" then
        .raise (.httpException 503 (.str "Search is not configured."))
      else .call (.serper (strip query)) (.http Server.serperUrl
        [("X-API-KEY", Server.searchKey cfg key), ("Content-Type", "application/json")])
        (Server.searched py (strip query)) := by
  have hown : (key.map Str.text).getD "" = (key.getD "" : String) := by
    cases key <;> rfl
  have hkey : (if Server.stripStr ((key.map Str.text).getD "") ≠ "" then
      Server.stripStr ((key.map Str.text).getD "") else .text cfg.serperKey) =
        .text (Server.searchKey cfg key) := by
    rw [hown, stripStr_text, Server.searchKey, apply_ite Str.text]
    simp only [ne_eq, Str.text.injEq]
  unfold Server.search
  dsimp only
  rw [hkey, stripStr_text]
  simp only [Str.text.injEq]
  rfl

theorem steps_done {r : Server.Response} {t : Server.History} {p : Server.Serve Server.Response}
    (h : Steps (.done r) t p) : t = [] ∧ p = .done r := by
  cases h
  exact ⟨rfl, rfl⟩

theorem steps_raise {f : Failure} {t : Server.History} {p : Server.Serve Server.Response}
    (h : Steps (.raise f) t p) : t = [] ∧ p = .raise f := by
  cases h
  exact ⟨rfl, rfl⟩

/-- Only what the server does not handle is raised. -/
def Unhandled {α : Type} (x : Except Failure α) : Prop := ∀ f, x = .error f → f = .unhandled

section
variable {α β : Type}

theorem unhandled_ok (a : α) : Unhandled (.ok a) := nofun

theorem Unhandled.bind {x : Except Failure α} {f : α → Except Failure β} (h : Unhandled x)
    (hf : ∀ a, Unhandled (f a)) : Unhandled (x >>= f) := by
  intro e he
  cases x with
  | ok a => exact hf a e he
  | error e' =>
      obtain rfl : e' = e := Except.error.inj he
      exact h e' rfl

theorem unhandled_get (x : Json) (key : String) : Unhandled (get x key) := by
  intro f h
  unfold get at h
  split at h
  · cases h
  · exact (Except.error.inj h).symm

theorem unhandled_mapM {f : α → Except Failure β} (hf : ∀ a, Unhandled (f a)) (xs : List α) :
    Unhandled (xs.mapM f) := by
  induction xs with
  | nil => exact unhandled_ok []
  | cons x xs ih =>
      rw [List.mapM_cons]
      exact (hf x).bind fun _ => ih.bind fun _ => unhandled_ok _

theorem unhandled_readSearch (py : Python) (query : Str) (data : Json) :
    Unhandled (Server.readSearch py query data) := by
  have hitem : ∀ item, Unhandled (Server.searchResult item) := by
    intro item
    exact (unhandled_get _ _).bind fun _ => (unhandled_get _ _).bind fun _ =>
      (unhandled_get _ _).bind fun _ => unhandled_ok _
  have hfirst : ∀ n x, Unhandled (Server.firstItems n x) := by
    intro n x f h
    unfold Server.firstItems at h
    split at h
    · cases h
    · cases h
    · exact (Except.error.inj h).symm
  unfold Server.readSearch
  refine (unhandled_get _ _).bind fun _ => (hfirst _ _).bind fun _ => ?_
  refine (unhandled_mapM hitem _).bind fun _ => (unhandled_get _ _).bind fun _ => ?_
  refine (unhandled_get _ _).bind fun _ => (unhandled_get _ _).bind fun _ => ?_
  dsimp only
  split
  · exact unhandled_ok _
  · exact (unhandled_get _ _).bind fun _ => (unhandled_get _ _).bind fun _ => unhandled_ok _

end

section
variable {py : Python} {a : Server.Answer} {detail : Str}

theorem saysError_searchError (py : Python) (a : Server.Answer) :
    SaysError py a (Server.searchError py a) := by
  unfold Server.searchError
  dsimp only
  split
  · rename_i msg hmsg
    have hbody : ∃ fields, a.json = some (.obj fields) ∧
        Json.lookup fields "message" = some msg := by
      unfold Server.safeJson at hmsg
      split at hmsg
      · exact ⟨_, ‹_›, hmsg⟩
      · cases hmsg
    obtain ⟨fields, hjson, hsaid⟩ := hbody
    split
    · rename_i hset
      have hcolon : ")" ++ ": " = "): " := by decide
      rw [Str.text_append, String.append_assoc, hcolon]
      exact .message hjson hsaid hset
    · rename_i hset
      refine .status fun fields' msg' hjson' hsaid' => ?_
      obtain rfl := Json.obj.inj (Option.some.inj (hjson.symm.trans hjson'))
      obtain rfl := Option.some.inj (hsaid.symm.trans hsaid')
      exact Bool.eq_false_iff.mpr hset
  · rename_i hmsg
    refine .status fun fields msg hjson hsaid => ?_
    rw [Server.safeJson, hjson] at hmsg
    rw [hmsg] at hsaid
    cases hsaid

theorem SaysError.ne (h : SaysError py a detail) : detail ≠ "" := by
  have hstart : ∀ rest : String, "Search provider error (" ++ rest ≠ "" := by
    intro rest hnil
    have hlen := congrArg String.length hnil
    simp [String.length_append] at hlen
  cases h with
  | status silent =>
      refine fun hnil => hstart (toString a.status ++ ")") ?_
      rw [← String.append_assoc]
      exact Str.text.inj hnil
  | message body said set =>
      intro hnil
      have hpoints := Str.points_eq_nil.mpr hnil
      rw [Str.points_append, List.append_eq_nil_iff] at hpoints
      refine hstart (toString a.status ++ "): ") ?_
      rw [← String.append_assoc]
      exact Str.text.inj (Str.points_eq_nil.mp hpoints.1)

/-- What the page reads of an error of Serper. -/
theorem tells_error (hstatus : a.status ≠ 200) (hread : a.text ≠ none)
    (herror : SaysError py a detail) : ∃ told, Tells (.httpException 502 (.str detail)) told ∧
      SerperFails py (.response a) told := by
  have hwritten : ∀ {detail : Str}, SaysError py a detail → detail.isText = true →
      SerperFails py (.response a) detail := fun herror => .refused hstatus hread herror
  cases detail with
  | text detail =>
      have hsaid : detail ≠ "" := herror.ne ∘ congrArg Str.text
      exact ⟨detail, .detail 502 detail (by decide) hsaid, hwritten herror rfl⟩
  | ill ps unpaired =>
      exact ⟨"500", .ill 502 _ rfl, .unwritten hstatus herror rfl⟩

variable {query : String} {found : SerperPage} {text : Option String}

theorem searched_page (py : Python) (query : String) (found : SerperPage)
    (text : Option String) :
    Server.searched py query (.response ⟨200, text, some (.obj found.fields)⟩) =
      .done (Server.asJson 200 (found.response query) "") := by
  have hsearched : Server.searched py query (.response ⟨200, text, some (.obj found.fields)⟩) =
      (ofExcept (Server.readSearch py query (.obj found.fields)) >>= fun fields =>
        Server.rendered py (Server.asJson 200 fields "")) := rfl
  rw [hsearched, readSearch_page]
  exact if_pos (renders_response py.finite query found)

theorem searched_ok (py : Python) (query : String) (hstatus : a.status = 200) :
    (∃ r, Server.searched py query (.response a) = .done r) ∨
      Server.searched py query (.response a) = .raise .unhandled := by
  have hsearched : Server.searched py query (.response a) =
      match a.json with
      | none => .raise .unhandled
      | some data => ofExcept (Server.readSearch py query data) >>= fun fields =>
          Server.rendered py (Server.asJson 200 fields "") := by
    have hrest : Server.searched py query (.response a) = if a.status ≠ 200 then _ else _ := rfl
    rw [hrest, if_neg (not_not.mpr hstatus)]
    cases a.json <;> rfl
  rw [hsearched]
  cases a.json with
  | none => exact .inr rfl
  | some data =>
      dsimp only
      cases hread : Server.readSearch py query data with
      | error f =>
          obtain rfl := unhandled_readSearch py query data f hread
          exact .inr rfl
      | ok fields =>
          have hrendered : (Handler.ofExcept (.ok fields) >>= fun fields =>
              Server.rendered py (Server.asJson 200 fields "")) =
              Server.rendered py (Server.asJson 200 fields "") := rfl
          rw [hrendered, Server.rendered]
          split
          · exact .inl ⟨_, rfl⟩
          · exact .inr rfl

theorem searched_error (py : Python) (query : String) (hstatus : a.status ≠ 200) :
    ∃ f detail, Server.searched py query (.response a) = .raise f ∧ Tells f detail ∧
      SerperFails py (.response a) detail := by
  have hsearched : Server.searched py query (.response a) =
      Server.refusal a (Server.searchError py a) := by
    have hrest : Server.searched py query (.response a) = if a.status ≠ 200 then _ else _ := rfl
    rw [hrest, if_pos hstatus]
  rw [hsearched, Server.refusal]
  cases hread : a.text with
  | none => exact ⟨_, _, rfl, .unhandled, .unread hstatus hread⟩
  | some body =>
      have hsome : a.text ≠ none := by
        rw [hread]
        exact nofun
      obtain ⟨told, htells, hfails⟩ := tells_error hstatus hsome (saysError_searchError py a)
      exact ⟨_, told, rfl, htells, hfails⟩

/-- Once Serper has answered, the request ends without another call. -/
theorem searched_ends (py : Python) (query : String) (reply : Server.Fetched Server.Answer) :
    (∃ r, Server.searched py query reply = .done r) ∨
    ∃ f detail, Server.searched py query reply = .raise f ∧ Tells f detail ∧
      SerperFails py reply detail := by
  cases reply with
  | requestError =>
      exact .inr ⟨_, _, rfl, .detail 502 _ (by decide) (by decide), .unreachable⟩
  | raised => exact .inr ⟨_, _, rfl, .unhandled, .raised⟩
  | response a =>
      by_cases hstatus : a.status = 200
      · refine (searched_ok py query hstatus).imp_right fun hraised =>
          ⟨_, _, hraised, .unhandled, .noPage hstatus fun found hpage => ?_⟩
        -- a page of results would have been answered
        obtain ⟨status, text, json⟩ := a
        obtain rfl : status = 200 := hstatus
        obtain rfl : json = some (.obj found.fields) := hpage
        rw [searched_page] at hraised
        cases hraised
      · exact .inr (searched_error py query hstatus)

end

section
variable {py : Python} {cfg : Server.Settings} {query : String} {key : Option String}
  {e : Event Server.Call Server.Reply Server.Sent} {t : Server.History}
  {p : Server.Serve Server.Response}

/-- Serper has been asked once, for the query. -/
theorem search_answered (h : Steps (Server.search py cfg ⟨query, key.map .text⟩) (e :: t) p) :
    ∃ reply, e = ⟨.serper (strip query), .http Server.serperUrl
        [("X-API-KEY", Server.searchKey cfg key), ("Content-Type", "application/json")], reply⟩ ∧
      Server.searchKey cfg key ≠ "" ∧
      Steps (Server.searched py (strip query) reply) t p := by
  rw [search_eq] at h
  split at h
  · cases h
  · split at h
    · cases h
    · cases h with
      | call r rest => exact ⟨r, rfl, ‹_›, rest⟩

/-- The one call of a search. -/
theorem search_asks (h : Steps (Server.search py cfg ⟨query, key.map .text⟩) t p) (he : e ∈ t) :
    e.sent = .http Server.serperUrl
        [("X-API-KEY", Server.searchKey cfg key), ("Content-Type", "application/json")] ∧
      Server.searchKey cfg key ≠ "" := by
  cases t with
  | nil => cases he
  | cons e' t =>
      obtain ⟨reply, rfl, hkey, hrest⟩ := search_answered h
      have hnil : t = [] := by
        rcases searched_ends py (strip query) reply with ⟨_, hdone⟩ | ⟨_, _, hraise, _, _⟩
        · rw [hdone] at hrest
          exact (steps_done hrest).1
        · rw [hraise] at hrest
          exact (steps_raise hrest).1
      subst hnil
      obtain rfl := List.mem_singleton.mp he
      exact ⟨rfl, hkey⟩

theorem searchKey_eq_empty : Server.searchKey cfg key = "" ↔
    strip (key.getD "") = "" ∧ cfg.serperKey = "" := by
  unfold Server.searchKey
  split
  · rename_i hown
    exact iff_of_false hown fun h => hown h.1
  · rename_i hown
    exact ⟨fun h => ⟨not_not.mp hown, h⟩, And.right⟩

/-- The key of the request is its own, unless it has none but blanks. -/
theorem searchKey_own (cfg : Server.Settings) (key : Option String) :
    (∃ own, key = some own ∧ strip own ≠ "" ∧ Server.searchKey cfg key = strip own) ∨
      (∀ own, key = some own → strip own = "") ∧ Server.searchKey cfg key = cfg.serperKey := by
  have hblank : strip "" = "" := by decide
  unfold Server.searchKey
  cases key with
  | none => exact .inr ⟨nofun, by simp [hblank]⟩
  | some own =>
      by_cases hset : strip own = ""
      · refine .inr ⟨fun own' hown => ?_, by simp [hset]⟩
        obtain rfl := Option.some.inj hown
        exact hset
      · exact .inl ⟨own, rfl, hset, by simp [hset]⟩

/-- A page that knows whether the server has a key leaves that to be used. -/
theorem searchKey_read {page : Page}
    (hread : page.serverSearchKey = cfg.pageConfig.serverSearchKey) :
    Server.searchKey cfg (sentKey page) =
        (if cfg.serperKey ≠ "" then cfg.serperKey else strip page.userSearchKey) ∧
      (cfg.serperKey ≠ "" → sentKey page = none) := by
  have hblank : strip "" = "" := by decide
  by_cases hserver : cfg.serperKey = ""
  · have hfree : page.serverSearchKey = false :=
      hread.trans (decide_eq_false (not_not.mpr hserver))
    refine ⟨?_, fun h => absurd hserver h⟩
    rw [if_neg (not_not.mpr hserver)]
    unfold Server.searchKey sentKey
    by_cases hset : page.userSearchKey = ""
    · simp [hset, hblank, hserver]
    · by_cases huser : strip page.userSearchKey = ""
      · simp [hfree, hset, huser, hserver]
      · simp [hfree, hset, huser]
  · have hlocked : page.serverSearchKey = true := hread.trans (decide_eq_true hserver)
    have hnone : sentKey page = none := by simp [sentKey, hlocked]
    refine ⟨?_, fun _ => hnone⟩
    rw [if_pos hserver, hnone]
    simp [Server.searchKey, hblank]

/-- A search that ends with a failure, and what the page reads in it. -/
theorem search_raises {f : Failure}
    (h : Steps (Server.search py cfg ⟨query, key.map .text⟩) t (.raise f)) :
    ∃ detail, Tells f detail ∧ SearchFails py cfg query key t detail := by
  cases t with
  | nil =>
      rw [search_eq] at h
      split at h
      · obtain ⟨-, hf⟩ := steps_raise h
        obtain rfl := Handler.raise.inj hf
        exact ⟨_, .detail 400 _ (by decide) (by decide), .empty ‹_›⟩
      · split at h
        · rename_i hkey
          obtain ⟨hown, hserver⟩ := searchKey_eq_empty.mp hkey
          obtain ⟨-, hf⟩ := steps_raise h
          obtain rfl := Handler.raise.inj hf
          exact ⟨_, .detail 503 _ (by decide) (by decide), .noKey hown hserver⟩
        · cases h
  | cons e t =>
      obtain ⟨reply, rfl, -, hrest⟩ := search_answered h
      rcases searched_ends py (strip query) reply with
        ⟨r, hdone⟩ | ⟨f', detail, hraise, htells, hfails⟩
      · rw [hdone] at hrest
        obtain ⟨-, hf⟩ := steps_done hrest
        cases hf
      · rw [hraise] at hrest
        obtain ⟨rfl, hf⟩ := steps_raise hrest
        obtain rfl := Handler.raise.inj hf
        exact ⟨detail, htells, .serper hfails⟩

end

/-! ## The page -/

section
variable {engine : Engine} {page : Page}

theorem fetched_tells (py : Python) (kind : String) {f : Failure} {detail : Str}
    (h : Tells f detail) : engine.fetched kind (some (respond py (.error f))) =
      .error (.error (kind ++ " error (" ++ detail ++ ")")) := by
  cases h with
  | detail status detail hno hsaid =>
      have hrenders : Json.renders py.finite (.obj [("detail", .str detail)]) = true := rfl
      have hok : ¬ (jsonResponse status (.obj [("detail", .str detail)])).ok :=
        fun hok => absurd hok.2 (Nat.not_lt.mpr hno)
      have hproperty : property (some (.obj [("detail", .str detail)])) "detail" =
          .ok (some (.str detail)) := rfl
      have htruthy : engine.truthy (.str detail) = true :=
        decide_eq_true (hsaid ∘ Str.text.inj)
      have hdetail : engine.detail (jsonResponse status (.obj [("detail", .str detail)])) =
          .ok (.text detail) := by
        simp only [Engine.detail, json_jsonResponse status hrenders, bind, Except.bind, hproperty,
          htruthy, if_true, Engine.display]
      rw [respond, rendered, if_pos hrenders]
      simp only [Engine.fetched, hok, if_false, hdetail, bind, Except.bind]
  | ill status detail ill =>
      have hrenders : ¬ Json.renders py.finite (.obj [("detail", .str detail)]) = true := by
        simp [Json.renders, Json.rendersFields, ill]
      rw [respond, rendered, if_neg hrenders]
      exact fetched_internalServerError engine kind
  | unhandled => exact fetched_internalServerError engine kind

theorem resultLine_webHit (h : WebHit) : engine.resultLine h.json = .ok (.text h.line) := by
  have htitle : property (some h.json) "title" = .ok (some (.str h.title)) := rfl
  have hsnippet : property (some h.json) "snippet" = .ok (some (.str h.snippet)) := rfl
  have hurl : property (some h.json) "url" = .ok (some (.str h.link)) := rfl
  have htemplate : ∀ s, engine.template (some (.str s)) = .ok s := fun _ => rfl
  simp only [Engine.resultLine, htitle, hsnippet, hurl, htemplate, bind, Except.bind, WebHit.line,
    Str.text_append]

theorem webSearchText_page (query : String) (found : SerperPage) :
    engine.webSearchText page (jsonResponse 200 (.obj (found.response query))) =
      .ok (found.told page.today) := by
  have hanswer : ∀ answer results : Json, property (some (.obj [("query", .str query),
      ("answer", answer), ("results", results)])) "answer" = .ok (some answer) := fun _ _ => rfl
  have hresults : ∀ answer results : Json, property (some (.obj [("query", .str query),
      ("answer", answer), ("results", results)])) "results" = .ok (some results) := fun _ _ => rfl
  have hlines : ((found.hits.take 5).map WebHit.json).mapM engine.resultLine =
      .ok (((found.hits.take 5).map WebHit.line).map .text) := by
    rw [List.map_map]
    exact mapM_map_ok resultLine_webHit _
  have hrenders := renders_response (fun _ _ => true) query found
  unfold Engine.webSearchText SerperPage.told
  rw [json_jsonResponse 200 hrenders, SerperPage.response, ← joined_text]
  simp only [bind, Except.bind, hanswer, hresults, Engine.truthy, if_true, iterable, hlines]
  by_cases hbest : found.best = ""
  · simp [hbest]
  · simp [hbest, Engine.display]

theorem callTool_webSearch {fields : Json.Fields} :
    callTool engine page "web_search" (.obj fields) =
      (execWebSearch engine page (stringArg (Json.lookup fields "query"))).map
        fun output => ⟨output, none⟩ := by
  have hquery : property (some (.obj fields)) "query" = .ok (Json.lookup fields "query") := rfl
  simp [callTool, hquery, bind, Except.bind, Except.map]

end

/-! ## The whole way -/

section
variable {engine : Engine} {page : Page} {query : String}

theorem execWebSearch_page (hne : query ≠ "") {found : SerperPage} {asked : String}
    (hpost : page.postSearch (searchBody page query) =
      some (jsonResponse 200 (.obj (found.response asked)))) :
    execWebSearch engine page query = .ok (.text (found.told page.today)) := by
  have hfetched : engine.fetched "search" (some (jsonResponse 200 (.obj (found.response asked)))) =
      .ok (jsonResponse 200 (.obj (found.response asked))) := by
    unfold Engine.fetched
    exact if_pos (ok_jsonResponse _)
  rw [execWebSearch_eq engine page hne, hpost, hfetched]
  exact webSearchText_page asked found

theorem execWebSearch_fails (hne : query ≠ "") {py : Python} {f : Failure} {detail : Str}
    (htells : Tells f detail)
    (hpost : page.postSearch (searchBody page query) = some (respond py (.error f))) :
    execWebSearch engine page query =
      .error (.error (.text "search error (" ++ detail ++ .text ")")) := by
  rw [execWebSearch_eq engine page hne, hpost, fetched_tells py "search" htells]
  rfl

variable {py : Python} {cfg : Server.Settings} {fields : Json.Fields} {argsJson : Str}
  {req : Server.SearchRequest} {t : Server.History} {p : Server.Serve Server.Response}
  {res : HttpResponse}

/-- The model is told of the first five hits of Serper in their order, under the direct answer if
there is one; and of a search that fails for any reason, what has failed. -/
theorem web_search_told (engine : Engine) (hclient : page.client = true)
    (hargs : parseArgs argsJson = .obj fields)
    (hquery : stringArg (Json.lookup fields "query") = query) (hne : query ≠ "")
    (hreq : searchRequestOf page query = some req) (hsteps : Steps (Server.search py cfg req) t p)
    (hends : Server.Ends py p res) (hpost : page.postSearch (searchBody page query) = some res) :
    (∀ (found : SerperPage) asked sent text,
      t = [⟨.serper asked, sent, .response ⟨200, text, some (.obj found.fields)⟩⟩] →
      asked = strip query ∧
        runTool engine page "web_search" argsJson = ⟨found.told page.today, none⟩) ∧
    ∀ f, p = .raise f → ∃ detail, SearchFails py cfg query (sentKey page) t detail ∧
      runTool engine page "web_search" argsJson =
        ⟨.text "Tool failed: search error (" ++ detail ++ .text ")", none⟩ := by
  have hcall : callTool engine page "web_search" (parseArgs argsJson) =
      (execWebSearch engine page query).map fun output => ⟨output, none⟩ := by
    rw [hargs, callTool_webSearch, hquery]
  rw [searchRequestOf_eq] at hreq
  obtain rfl := Option.some.inj hreq
  constructor
  · rintro found asked sent text rfl
    obtain ⟨reply, he, -, hrest⟩ := search_answered hsteps
    obtain ⟨hasked, -, hreply⟩ := Handler.Event.mk.inj he
    obtain rfl := Server.Call.serper.inj hasked
    obtain rfl := eq_of_heq hreply
    rw [searched_page] at hrest
    obtain ⟨-, rfl⟩ := steps_done hrest
    cases hends with
    | done hgives =>
        obtain ⟨v, hv, rfl⟩ := hgives
        obtain rfl := Server.Body.json.inj hv
        refine ⟨rfl, runTool_ok engine hclient ?_⟩
        rw [hcall, execWebSearch_page hne hpost]
        rfl
  · rintro f rfl
    obtain ⟨detail, htells, hfails⟩ := search_raises hsteps
    cases hends with
    | raise =>
        refine ⟨detail, hfails, ?_⟩
        have hthrown : callTool engine page "web_search" (parseArgs argsJson) =
            .error (.error (.text "search error (" ++ detail ++ .text ")")) := by
          rw [hcall, execWebSearch_fails hne htells hpost]
          rfl
        simp only [runTool, hclient, if_true, hthrown, Engine.messageOf, ← Str.append_assoc,
          Str.text_append]
        rfl

/-- A page of one hit without a snippet, and a direct answer. -/
def soupPage : SerperPage where
  fields :=
    [("organic", .arr [.obj [("title", .str "Soup"), ("link", .str "https://example.org/")]]),
      ("answerBox", .obj [("snippet", .str "Served hot.")])]
  items := [[("title", .str "Soup"), ("link", .str "https://example.org/")]]
  hits := [⟨"Soup", "", "https://example.org/"⟩]
  box := [("snippet", .str "Served hot.")]
  answer := ""
  snippet := "Served hot."
  graph := []
  description := ""
  organic := .inl rfl
  itemHits := .cons ⟨.inl rfl, .inr ⟨rfl, rfl⟩, .inl rfl⟩ .nil
  answerBox := .inl rfl
  boxAnswer := .inr ⟨rfl, rfl⟩
  boxSnippet := .inl rfl
  knowledgeGraph := .inr ⟨rfl, rfl⟩
  graphDescription := .inr ⟨rfl, rfl⟩

def searching : Page :=
  { livePage with
    serverSearchKey := true
    postSearch := fun _ => some (jsonResponse 200 (.obj (soupPage.response "soup"))) }

def soupAsked : Event Server.Call Server.Reply Server.Sent :=
  ⟨.serper "soup", .http Server.serperUrl
    [("X-API-KEY", "serper-key"), ("Content-Type", "application/json")],
    .response ⟨200, none, some (.obj soupPage.fields)⟩⟩

theorem steps_soup : Steps (Server.search plainPython Server.spaceSettings ⟨"soup", none⟩)
    [soupAsked] (.done (Server.asJson 200 (soupPage.response "soup") "")) := by
  have hquery : strip "soup" = "soup" := by decide +kernel
  have hkey : Server.searchKey Server.spaceSettings none = "serper-key" := by decide +kernel
  have hsearch := search_eq plainPython Server.spaceSettings "soup" none
  rw [Option.map_none] at hsearch
  rw [hsearch, if_neg (by rw [hquery]; decide), if_neg (by rw [hkey]; decide), hquery, hkey]
  refine Steps.call (ρ := Server.Reply) (k := .serper "soup") _ ?_
  rw [searched_page]
  exact .refl _

theorem soup_told :
    runTool quietEngine searching "web_search"
        (String.ofList (Json.print (fun _ => false) (.obj spokenArgs))) =
      ⟨soupPage.told livePage.today, none⟩ := by
  have hquery : stringArg (Json.lookup spokenArgs "query") = "soup" := rfl
  have hargs := parseArgs_print (fun _ => false) (v := .obj spokenArgs) renders_spokenArgs
  have htold := web_search_told quietEngine rfl hargs hquery (by decide)
    (searchRequestOf_eq searching "soup") steps_soup (.done ⟨_, rfl, rfl⟩) rfl
  exact (htold.1 soupPage "soup" _ _ rfl).2

/-- A search goes to Serper with one key, the one that the page has sent if there is more to it
than blanks, and that of the server otherwise. After the page has read the configuration of a
server with a key it is that of the server, and the page sends none. -/
theorem search_keys (hreq : searchRequestOf page query = some req)
    (hsteps : Steps (Server.search py cfg req) t p)
    {e : Event Server.Call Server.Reply Server.Sent} (he : e ∈ t) :
    (∃ key, key ≠ "" ∧ e.sent = .http Server.serperUrl
        [("X-API-KEY", key), ("Content-Type", "application/json")] ∧
      ((∃ own : String, Json.lookup (searchBody page query) "key" = some (.str own) ∧
          strip own ≠ "" ∧ key = strip own) ∨
        (∀ own : String, Json.lookup (searchBody page query) "key" = some (.str own) →
          strip own = "") ∧ key = cfg.serperKey)) ∧
    (page.serverSearchKey = cfg.pageConfig.serverSearchKey →
      e.sent = .http Server.serperUrl [("X-API-KEY",
          if cfg.serperKey ≠ "" then cfg.serperKey else strip page.userSearchKey),
        ("Content-Type", "application/json")] ∧
      (cfg.serperKey ≠ "" → Json.lookup (searchBody page query) "key" = none)) := by
  rw [searchRequestOf_eq] at hreq
  obtain rfl := Option.some.inj hreq
  obtain ⟨hsent, hkey⟩ := search_asks hsteps he
  simp only [lookup_searchBody_key, Option.map_eq_some_iff, Json.str.injEq, Str.text.injEq,
    exists_eq_right]
  refine ⟨⟨_, hkey, hsent, searchKey_own cfg (sentKey page)⟩, fun hread => ?_⟩
  obtain ⟨hchosen, hnone⟩ := searchKey_read hread
  rw [hsent, hchosen]
  exact ⟨rfl, fun hserver => by rw [hnone hserver]; rfl⟩

theorem soup_keys :
    (∃ key, key ≠ "" ∧ soupAsked.sent = .http Server.serperUrl
        [("X-API-KEY", key), ("Content-Type", "application/json")] ∧
      ((∃ own : String, Json.lookup (searchBody searching "soup") "key" = some (.str own) ∧
          strip own ≠ "" ∧ key = strip own) ∨
        (∀ own : String, Json.lookup (searchBody searching "soup") "key" = some (.str own) →
          strip own = "") ∧ key = Server.spaceSettings.serperKey)) ∧
    (searching.serverSearchKey = Server.spaceSettings.pageConfig.serverSearchKey →
      soupAsked.sent = .http Server.serperUrl [("X-API-KEY",
          if Server.spaceSettings.serperKey ≠ "" then Server.spaceSettings.serperKey
          else strip searching.userSearchKey), ("Content-Type", "application/json")] ∧
      (Server.spaceSettings.serperKey ≠ "" →
        Json.lookup (searchBody searching "soup") "key" = none)) :=
  search_keys (searchRequestOf_eq searching "soup") steps_soup List.mem_cons_self

end

end SpeechK8s.Demo
