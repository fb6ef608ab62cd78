import SpeechK8s.Demo.Outgoing

/-!
# The server as a broker of sessions

The load balancer hands out sessions, the limiter keeps the budgets, and any number of requests
is on its way at a time. What a request reserves with the limiter is what its response grants,
and nothing is reserved, nor the load balancer asked for a session, over the budget.
-/
namespace SpeechK8s.Demo.Server
open Handler

abbrev History := Trace Call Reply Sent

/-! ## Dicts -/

theorem lookup_append (d fields : Json.Fields) (key : String) :
    Json.lookup (d ++ fields) key = (Json.lookup fields key).or (Json.lookup d key) := by
  induction d with
  | nil => simp [Json.lookup]
  | cons f d ih =>
      obtain ⟨k, v⟩ := f
      simp only [List.cons_append, Json.lookup, ih]
      cases Json.lookup fields key <;> simp

theorem lookup_replace {d : Json.Fields} {key : String} {v : Json}
    (h : d.any (·.1 = .text key) = true) (name : String) :
    Json.lookup (d.map fun f => if f.1 = .text key then (.text key, v) else f) name =
      if name = key then some v else Json.lookup d name := by
  have other : ∀ d : Json.Fields, name ≠ key →
      Json.lookup (d.map fun f => if f.1 = .text key then (.text key, v) else f) name =
        Json.lookup d name := by
    intro d hne
    induction d with
    | nil => rfl
    | cons f d ih =>
        by_cases hf : f.1 = .text key
        · simp [Json.lookup, ih, hf, Ne.symm hne]
        · simp [Json.lookup, ih, hf]
  have same : ∀ d : Json.Fields,
      Json.lookup (d.map fun f => if f.1 = .text key then (.text key, v) else f) key =
        if d.any (·.1 = .text key) then some v else none := by
    intro d
    induction d with
    | nil => rfl
    | cons f d ih =>
        by_cases hf : f.1 = .text key
        · simp [Json.lookup, ih, hf]
          split <;> simp_all
        · simp [Json.lookup, ih, hf]
          split <;> simp_all
  by_cases hname : name = key
  · subst hname
    rw [same, h, if_pos rfl, if_pos rfl]
  · rw [other d hname, if_neg hname]

@[simp] theorem lookup_setField (d : Json.Fields) (key name : String) (v : Json) :
    Json.lookup (setField d key v) name = if name = key then some v else Json.lookup d name := by
  unfold setField
  split
  · rename_i h
    exact lookup_replace h name
  · rw [lookup_append]
    by_cases hname : name = key
    · simp [Json.lookup, hname]
    · simp [Json.lookup, hname, Ne.symm hname]

/-! ## Rules for the parts of a route -/

section
variable {J : Call → Sent → History → Prop} {E : Failure → History → Prop} {t : History}

@[simp] theorem wp_issue {k : Call} {sent : Sent} {Q : Reply k → History → Prop} :
    (issue k sent).wp J Q E t ↔ J k sent t ∧ ∀ r, Q r (t ++ [⟨k, sent, r⟩]) := Iff.rfl

@[simp] theorem wp_notFound {α : Type} {Q : α → History → Prop} :
    (notFound : Serve α).wp J Q E t ↔ E (.httpException 404 (.str "Not found.")) t := Iff.rfl

@[simp] theorem wp_fetched {α : Type} {unreachable : String} {f : Fetched α}
    {Q : α → History → Prop} : (fetched unreachable f).wp J Q E t ↔
      match f with
      | .requestError => E (.httpException 502 (.str unreachable)) t
      | .raised => E .unhandled t
      | .response a => Q a t := by
  cases f <;> exact Iff.rfl

@[simp] theorem wp_limited {α : Type} {r : Option α} {Q : α → History → Prop} :
    (limited r).wp J Q E t ↔
      match r with
      | none => E .unhandled t
      | some a => Q a t := by
  cases r <;> exact Iff.rfl

theorem wp_rendered {py : Python} {r : Response} {Q : Response → History → Prop}
    (h : r.renders py = true → Q r t) (hE : r.renders py = false → E .unhandled t) :
    (rendered py r).wp J Q E t := by
  unfold rendered
  exact wp_ite h fun hno => hE (Bool.eq_false_iff.mpr hno)

theorem wp_refusal {α : Type} {resp : Answer} {detail : Str} {Q : α → History → Prop}
    (h : ∀ e, E e t) : (refusal resp detail : Serve α).wp J Q E t := by
  unfold refusal
  split <;> exact h _

end

/-! ## What a request has done so far -/

def beginOf (e : Event Call Reply Sent) : Option Json :=
  match e.call with
  | .limiterBegin sessionId _ _ => some sessionId
  | _ => none

/-- The sessions that have been reserved with the limiter. -/
def begun (t : History) : List Json := t.filterMap beginOf

@[simp] theorem begun_append (t u : History) : begun (t ++ u) = begun t ++ begun u :=
  List.filterMap_append

/-- The response of the load balancer to a request for a session or to a poll of the queue. -/
def answerOf : Event Call Reply Sent → Option Answer
  | ⟨.allocate, _, r⟩ | ⟨.poll _, _, r⟩ =>
      match (r : Fetched Answer) with
      | .response a => some a
      | _ => none
  | _ => none

/-- The load balancer grants a session with this response. -/
structure Grant (a : Answer) (data : Json.Fields) : Prop where
  status : a.status = 200
  body : a.json = some (.obj data)
  claimed : isStr "queued" (Json.lookup data "state") = false

/-- The load balancer has granted a session with these data. -/
def GrantedBy (data : Json.Fields) (t : History) : Prop :=
  ∃ e ∈ t, ∃ a, answerOf e = some a ∧ Grant a data

/-- The load balancer has granted a session with this id. -/
def Offered (sessionId : Json) (t : History) : Prop :=
  ∃ e ∈ t, ∃ a data, answerOf e = some a ∧ Grant a data ∧
    (Json.lookup data "session_id").getD .null = sessionId

/-- A call in which the limiter has failed. -/
def limiterFails : Event Call Reply Sent → Prop
  | ⟨.limiterRemaining _ _, _, r⟩ => (r : Option (Option Secs)) = none
  | ⟨.limiterBegin _ _ _, _, r⟩ => (r : Option Unit) = none
  | _ => False

/-- The limiter has told what is left of the budget. -/
def BudgetTold (who : Identity) (rem : Option Secs) (t : History) : Prop :=
  (⟨.limiterRemaining who.keys who.tier, .within, some rem⟩ : Event Call Reply Sent) ∈ t

/-- The limiter has been asked for the budget, and there is some left. -/
def BudgetLeft (who : Identity) (t : History) : Prop :=
  ∃ rem : Option Secs, rem.any Secs.spent = false ∧ BudgetTold who rem t

theorem BudgetLeft.mono {who : Identity} {t u : History} (h : BudgetLeft who t) (hu : t <+: u) :
    BudgetLeft who u := by
  obtain ⟨rem, hleft, hmem⟩ := h
  exact ⟨rem, hleft, hu.subset hmem⟩

theorem GrantedBy.mono {data : Json.Fields} {t u : History} (h : GrantedBy data t) (hu : t <+: u) :
    GrantedBy data u := by
  obtain ⟨e, he, hgrant⟩ := h
  exact ⟨e, hu.subset he, hgrant⟩

theorem GrantedBy.offered {data : Json.Fields} {t : History} (h : GrantedBy data t) :
    Offered ((Json.lookup data "session_id").getD .null) t := by
  obtain ⟨e, he, a, hanswer, hgrant⟩ := h
  exact ⟨e, he, a, data, hanswer, hgrant, rfl⟩

theorem Offered.mono {sessionId : Json} {t u : History} (h : Offered sessionId t) (hu : t <+: u) :
    Offered sessionId u := by
  obtain ⟨e, he, hgrant⟩ := h
  exact ⟨e, hu.subset he, hgrant⟩

section
variable {Visitor : Type} (py : Python) (cfg : Settings) (auth : Auth Visitor) (limiter : Limiter)

/-- What a request has behind it when it makes a call. -/
def Lawful (who : Identity) (k : Call) (t : History) : Prop :=
  match k with
  | .allocate => begun t = [] ∧ (tracked cfg limiter who = true → BudgetLeft who t)
  | .limiterBegin sessionId keys tier =>
      begun t = [] ∧ tracked cfg limiter who = true ∧ keys = who.keys ∧ tier = who.tier ∧
        truthy py.zero sessionId = true ∧ BudgetLeft who t ∧ Offered sessionId t
  | .limiterRemaining keys tier => keys = who.keys ∧ tier = who.tier ∧ (begun t).length ≤ 1
  | _ => begun t = []

/-- A granted session whose response cannot be written as JSON, with what is left of the budget. -/
def Unwritable (who : Identity) (t : History) : Prop :=
  ∃ data rem, GrantedBy data t ∧ BudgetTold who rem t ∧
    (grantResponse cfg limiter data who rem).renders py = false

/-- A request that fails has reserved nothing, unless a call of the limiter has failed or its grant
cannot be written. -/
def Lost (who : Identity) (e : Failure) (t : History) : Prop :=
  begun t = [] ∨ e = .unhandled ∧ (begun t).length = 1 ∧
    ((∃ event ∈ t, limiterFails event) ∨ Unwritable py cfg limiter who t)

/-- The session that a body grants under a budget. -/
def grantOf (resp : Response) : List Json :=
  match resp.body with
  | .json (.obj fields) =>
      let sessionId := (Json.lookup fields "session_id").getD .null
      if resp.status = 200 ∧ isStr "queued" (Json.lookup fields "state") = false ∧
          truthy py.zero ((Json.lookup fields "limited").getD .null) = true ∧
          truthy py.zero sessionId = true then
        [sessionId]
      else []
  | _ => []

/-- The session that a response grants under a budget. -/
def granted (route : Route) (resp : Response) : List Json :=
  match route with
  | .session | .queueStatus _ => grantOf py resp
  | _ => []

end

/-! ## The parts of a route -/

section
variable {Visitor : Type} {py : Python} {cfg : Settings} {auth : Auth Visitor} {limiter : Limiter}
  {who : Identity} {t : History} {lb : Answer} {data : Json.Fields}

theorem lost_limiter {e : Event Call Reply Sent} (h : (begun (t ++ [e])).length ≤ 1)
    (he : limiterFails e) : Lost py cfg limiter who .unhandled (t ++ [e]) := by
  rcases Nat.le_one_iff_eq_zero_or_eq_one.mp h with h | h
  · exact .inl (List.length_eq_zero_iff.mp h)
  · exact .inr ⟨rfl, h, .inl ⟨e, List.mem_append_right _ List.mem_cons_self, he⟩⟩

theorem wp_remaining {Q : Option Secs → History → Prop} (hlen : (begun t).length ≤ 1)
    (h : ∀ rem u, begun u = begun t → t <+: u → BudgetTold who rem u → Q rem u) :
    (remaining who).wp (fun k _ => Lawful py cfg limiter who k) Q (Lost py cfg limiter who) t := by
  rw [remaining, wp_bind]
  refine ⟨⟨rfl, rfl, hlen⟩, fun r => ?_⟩
  have hbegun : begun (t ++ [⟨.limiterRemaining who.keys who.tier, .within, r⟩]) = begun t := by
    rw [begun_append]
    exact List.append_nil _
  cases r with
  | none => exact lost_limiter (hbegun ▸ hlen) rfl
  | some rem =>
      exact h rem _ hbegun (List.prefix_append _ _) (List.mem_append_right _ List.mem_cons_self)

theorem wp_outOfBudget {Q : Bool → History → Prop} (hnone : begun t = [])
    (h : ∀ spent u, begun u = [] → t <+: u →
      (spent = false → tracked cfg limiter who = true → BudgetLeft who u) → Q spent u) :
    (outOfBudget cfg limiter who).wp (fun k _ => Lawful py cfg limiter who k) Q
      (Lost py cfg limiter who) t := by
  unfold outOfBudget
  split
  · rw [wp_bind]
    refine wp_remaining (by simp [hnone]) fun rem u hu hpre htold => ?_
    exact h _ u (hu.trans hnone) hpre fun hspent _ => ⟨rem, hspent, htold⟩
  · rename_i huntracked
    exact h false t hnone (List.prefix_refl t) fun _ htracked => absurd htracked huntracked

theorem grantOf_grantResponse (hstate : isStr "queued" (Json.lookup data "state") = false)
    (rem : Option Secs) :
    grantOf py (grantResponse cfg limiter data who rem) =
      if tracked cfg limiter who && truthy py.zero ((Json.lookup data "session_id").getD .null) then
        [(Json.lookup data "session_id").getD .null] else [] := by
  simp [grantOf, grantResponse, asJson, update, hstate, truthy]

theorem wp_finalizeGrant (hnone : begun t = [])
    (hleft : tracked cfg limiter who = true → BudgetLeft who t)
    (hstate : isStr "queued" (Json.lookup data "state") = false) (hgranted : GrantedBy data t) :
    (finalizeGrant py cfg limiter data who).wp (fun k _ => Lawful py cfg limiter who k)
      (fun resp u => begun u = grantOf py resp) (Lost py cfg limiter who) t := by
  have hresponse : ∀ rem, grantOf py (grantResponse cfg limiter data who rem) =
      if tracked cfg limiter who && truthy py.zero ((Json.lookup data "session_id").getD .null) then
        [(Json.lookup data "session_id").getD .null] else [] := grantOf_grantResponse hstate
  unfold finalizeGrant
  dsimp only
  refine wp_ite (fun hlimited => ?_) (fun hfree => ?_)
  · obtain ⟨htracked, hsession⟩ := Bool.and_eq_true_iff.mp hlimited
    rw [wp_bind]
    refine ⟨⟨hnone, htracked, rfl, rfl, hsession, hleft htracked, hgranted.offered⟩, fun r => ?_⟩
    have hbegun : begun (t ++ [⟨.limiterBegin ((Json.lookup data "session_id").getD .null)
        who.keys who.tier, .within, r⟩]) = [(Json.lookup data "session_id").getD .null] := by
      rw [begun_append, hnone]
      rfl
    cases r with
    | none => exact lost_limiter (by rw [hbegun]; exact Nat.le_refl 1) rfl
    | some _ =>
        rw [wp_done, wp_bind, wp_limited, wp_bind]
        refine wp_remaining (by rw [hbegun]; exact Nat.le_refl 1) fun rem u hu hpre htold => ?_
        refine wp_rendered (fun _ => ?_) fun hno => ?_
        · rw [hu, hbegun, hresponse, hlimited, if_pos rfl]
        · have hwritten : GrantedBy data u := (hgranted.mono (List.prefix_append _ _)).mono hpre
          exact .inr ⟨rfl, by rw [hu, hbegun]; rfl, .inr ⟨data, rem, hwritten, htold, hno⟩⟩
  · rw [wp_bind, wp_pure]
    refine wp_rendered (fun _ => ?_) fun _ => .inl hnone
    rw [hresponse, hnone, if_neg hfree]

theorem grantOf_status {status : Nat} (h : status ≠ 200) (fields : Json.Fields)
    (cookie : String) (forgets : Bool) :
    grantOf py ⟨status, .json (.obj fields), cookie, forgets⟩ = [] := by
  simp [grantOf, h]

theorem grantOf_queuedResponse (h : isStr "queued" (Json.lookup data "state") = true) :
    grantOf py (queuedResponse data who) = [] := by
  simp [grantOf, queuedResponse, asJson, h]

theorem wp_sessionAnswered (hnone : begun t = [])
    (hleft : tracked cfg limiter who = true → BudgetLeft who t)
    (hasked : ∃ e ∈ t, answerOf e = some lb) :
    (sessionAnswered py cfg auth limiter lb who).wp (fun k _ => Lawful py cfg limiter who k)
      (fun resp u => begun u = grantOf py resp) (Lost py cfg limiter who) t := by
  unfold sessionAnswered
  refine wp_ite (fun _ => ?_) fun _ => wp_ite (fun _ => ?_) fun _ => wp_ite (fun _ => ?_)
    fun hok => ?_
  · have hstatus : (503 : Nat) ≠ 200 := by decide
    rw [wp_pure, hnone]
    exact (grantOf_status hstatus _ _ _).symm
  · have hstatus : (401 : Nat) ≠ 200 := by decide
    dsimp only
    refine wp_rendered (fun _ => ?_) fun _ => .inl hnone
    rw [hnone]
    exact (grantOf_status hstatus _ _ _).symm
  · exact wp_refusal fun _ => .inl hnone
  · rw [wp_bind]
    unfold jsonDict
    split
    · rename_i data hdata
      refine wp_ite (fun hqueued => ?_) fun hclaimed => ?_
      · refine wp_rendered (fun _ => ?_) fun _ => .inl hnone
        rw [hnone, grantOf_queuedResponse hqueued]
      · have hclaimed := Bool.eq_false_iff.mpr hclaimed
        obtain ⟨e, he, hanswer⟩ := hasked
        have hgrant : Grant lb data := ⟨not_not.mp hok, hdata, hclaimed⟩
        exact wp_finalizeGrant hnone hleft hclaimed ⟨e, he, lb, hanswer, hgrant⟩
    · exact .inl hnone

theorem begun_concat {k : Call} {sent : Sent} {r : Reply k}
    (hk : beginOf ⟨k, sent, r⟩ = none) : begun (t ++ [⟨k, sent, r⟩]) = begun t := by
  rw [begun_append]
  simp [begun, hk]

theorem wp_session {v : Visitor} :
    (session py cfg auth limiter v).wp
      (fun k _ => Lawful py cfg limiter (auth.resolveIdentity v) k)
      (fun resp u => begun u = grantOf py resp)
      (Lost py cfg limiter (auth.resolveIdentity v)) [] := by
  unfold session
  dsimp only
  refine wp_ite (fun _ => .inl rfl) fun _ => wp_ite (fun _ => ?_) fun _ => ?_
  · have hstatus : (401 : Nat) ≠ 200 := by decide
    exact (grantOf_status hstatus _ _ _).symm
  · rw [wp_bind]
    refine wp_outOfBudget rfl fun spent u hnone _ hleft => wp_ite (fun _ => ?_) fun hspent => ?_
    · have hstatus : (402 : Nat) ≠ 200 := by decide
      rw [wp_pure, hnone]
      exact (grantOf_status hstatus _ _ _).symm
    · have hleft := hleft (Bool.eq_false_iff.mpr hspent)
      rw [wp_bind]
      refine ⟨⟨hnone, hleft⟩, fun r => ?_⟩
      have hbegun : begun (u ++ [⟨.allocate, toLoadBalancer cfg auth v "/session", r⟩]) = [] :=
        (begun_concat rfl).trans hnone
      cases r with
      | requestError => exact .inl hbegun
      | raised => exact .inl hbegun
      | response lb =>
          rw [wp_done, wp_bind, wp_fetched]
          exact wp_sessionAnswered hbegun
            (fun htracked => (hleft htracked).mono (List.prefix_append _ _))
            ⟨_, List.mem_append_right _ List.mem_cons_self, rfl⟩

theorem wp_queueAnswered (hnone : begun t = []) (hasked : ∃ e ∈ t, answerOf e = some lb) :
    (queueAnswered py cfg limiter lb who).wp (fun k _ => Lawful py cfg limiter who k)
      (fun resp u => begun u = grantOf py resp) (Lost py cfg limiter who) t := by
  unfold queueAnswered
  refine wp_ite (fun _ => ?_) fun _ =>
    wp_ite (fun _ => wp_refusal fun _ => .inl hnone) fun hok => ?_
  · have hstatus : (404 : Nat) ≠ 200 := by decide
    rw [wp_pure, hnone]
    exact (grantOf_status hstatus _ _ _).symm
  · rw [wp_bind]
    unfold jsonDict
    split
    · rename_i data hdata
      refine wp_ite (fun hqueued => ?_) fun hclaimed => ?_
      · refine wp_rendered (fun _ => ?_) fun _ => .inl hnone
        rw [hnone, grantOf_queuedResponse hqueued]
      · have hclaimed := Bool.eq_false_iff.mpr hclaimed
        obtain ⟨e, he, hanswer⟩ := hasked
        have hgrant : Grant lb data := ⟨not_not.mp hok, hdata, hclaimed⟩
        have hgranted : GrantedBy data t := ⟨e, he, lb, hanswer, hgrant⟩
        rw [wp_bind]
        -- the budget may have been spent during the wait
        refine wp_outOfBudget hnone fun spent u hu hpre hleft =>
          wp_ite (fun _ => ?_) fun hspent => ?_
        · have hstatus : (402 : Nat) ≠ 200 := by decide
          rw [wp_pure, hu]
          exact (grantOf_status hstatus _ _ _).symm
        · exact wp_finalizeGrant hu (hleft (Bool.eq_false_iff.mpr hspent)) hclaimed
            (hgranted.mono hpre)
    · exact .inl hnone

theorem wp_queueStatus {queueId : String} {v : Visitor} :
    (queueStatus py cfg auth limiter queueId v).wp
      (fun k _ => Lawful py cfg limiter (auth.resolveIdentity v) k)
      (fun resp u => begun u = grantOf py resp)
      (Lost py cfg limiter (auth.resolveIdentity v)) [] := by
  unfold queueStatus
  dsimp only
  refine wp_ite (fun _ => .inl rfl) fun _ => wp_ite (fun _ => ?_) fun _ => ?_
  · have hstatus : (401 : Nat) ≠ 200 := by decide
    exact (grantOf_status hstatus _ _ _).symm
  · rw [wp_bind]
    refine ⟨rfl, fun r => ?_⟩
    cases r with
    | requestError => exact .inl rfl
    | raised => exact .inl rfl
    | response lb =>
        rw [wp_done, wp_bind, wp_fetched]
        exact wp_queueAnswered rfl ⟨_, List.mem_cons_self, rfl⟩

/-- The routes on which a session may be granted. -/
def Route.grants : Route → Bool
  | .session | .queueStatus _ => true
  | _ => false

theorem lawful_makes {checks : List Char → Bool} {req : Request Visitor} {k : Call} {sent : Sent}
    (hroute : req.route.grants = false) (h : Makes py cfg auth checks req k sent)
    (hnone : begun t = []) :
    Lawful py cfg limiter (auth.resolveIdentity req.visitor) k t ∧
      ∀ r : Reply k, beginOf ⟨k, sent, r⟩ = none := by
  obtain ⟨route, v⟩ := req
  cases k with
  | allocate | limiterBegin sessionId keys tier =>
      cases route <;> first | exact h.elim | exact nomatch hroute
  | limiterRemaining keys tier =>
      have hown : keys = (auth.resolveIdentity v).keys ∧ tier = (auth.resolveIdentity v).tier := by
        cases route <;> first | exact h.elim | exact ⟨h.1, h.2.1⟩
      exact ⟨⟨hown.1, hown.2, by rw [hnone]; exact Nat.zero_le 1⟩, fun _ => rfl⟩
  | serper | answer | poll | leave | tool | limiterHeartbeat | limiterEnd =>
      exact ⟨hnone, fun _ => rfl⟩

theorem wp_serve {checks : List Char → Bool} (req : Request Visitor) :
    (serve py cfg auth limiter checks req).wp
      (fun k _ => Lawful py cfg limiter (auth.resolveIdentity req.visitor) k)
      (fun resp u => begun u = granted py req.route resp)
      (Lost py cfg limiter (auth.resolveIdentity req.visitor)) [] := by
  cases hroute : req.route.grants with
  | false =>
      have hgranted : ∀ resp, granted py req.route resp = [] := by
        intro resp
        unfold granted
        split
        · rename_i h
          rw [h] at hroute
          cases hroute
        · rename_i h
          rw [h] at hroute
          cases hroute
        · rfl
      refine (serve_makes req).wp (fun u => begun u = []) ?_ ?_ ?_ ?_ rfl
      · exact fun k sent u h hu => (lawful_makes hroute h hu).1
      · intro k sent r u h hu
        have hlawful : Lawful py cfg limiter (auth.resolveIdentity req.visitor) k u ∧
            ∀ r : Reply k, beginOf ⟨k, sent, r⟩ = none := lawful_makes hroute h hu
        exact (begun_concat (hlawful.2 r)).trans hu
      · exact fun resp u hu => hu.trans (hgranted resp).symm
      · exact fun e u hu => .inl hu
  | true =>
      obtain ⟨route, v⟩ := req
      cases route with
      | session => exact wp_session
      | queueStatus queueId => exact wp_queueStatus
      | config | me | search | calls | queueLeave | queueEnd | sessionHeartbeat | sessionEnd
      | mcpCall => cases hroute

end

/-! ## Any number of requests -/

section
variable {Visitor : Type} {py : Python} {cfg : Settings} {auth : Auth Visitor} {limiter : Limiter}
  {checks : List Char → Bool} {s : Pool (Request Visitor) Call Reply Sent Failure Response}

/-- The sessions that a request has been granted. -/
def grants (py : Python) (x : Request Visitor × Serve Response) : List Json :=
  match x.2 with
  | .done resp => granted py x.1.route resp
  | _ => []

/-- Before the request of a metered visitor asks the load balancer for a session, and before it
reserves one, it has found budget left; and it reserves only a session that the load balancer has
granted to it, on the account of its own visitor. -/
theorem budget_first (hs : Pool.Reachable (serve py cfg auth limiter checks) s)
    {before after : List (Nat × Event Call Reply Sent)} {i : Nat} {e : Event Call Reply Sent}
    (he : s.log = before ++ (i, e) :: after) :
    ∃ req p, s.running[i]? = some (req, p) ∧
      Lawful py cfg limiter (auth.resolveIdentity req.visitor) e.call (share i before) :=
  hs.called (J := fun req k _ => Lawful py cfg limiter (auth.resolveIdentity req.visitor) k)
    (Q := fun req resp u => begun u = granted py req.route resp)
    (E := fun req => Lost py cfg limiter (auth.resolveIdentity req.visitor)) wp_serve he

end

/-! ## A session for one visitor -/

/-- A visitor asks for a session and gets one. -/
def asking : Request Unit := ⟨.session, ()⟩

def slot : Json.Fields := [("session_id", .str "s1")]

def visitor : Identity := anonymous.resolveIdentity ()

def asked : History :=
  [⟨.limiterRemaining visitor.keys visitor.tier, .within, some (some ⟨600, 0⟩)⟩,
    ⟨.allocate, toLoadBalancer spaceSettings anonymous () "/session",
      .response ⟨200, none, some (.obj slot)⟩⟩,
    ⟨.limiterBegin (.str "s1") visitor.keys visitor.tier, .within, some ()⟩,
    ⟨.limiterRemaining visitor.keys visitor.tier, .within, some (some ⟨590, 0⟩)⟩]

theorem reachable_granted : Pool.Reachable spaceServe
    ⟨[(asking, .done (grantResponse spaceSettings tenMinutes slot visitor (some ⟨590, 0⟩)))],
      asked.map fun e => (0, e)⟩ := by
  apply Pool.Reachable.alone
  refine Steps.call (ρ := Reply) (k := .limiterRemaining visitor.keys visitor.tier)
    (some (some ⟨600, 0⟩)) ?_
  refine Steps.call (ρ := Reply) (k := .allocate) (.response ⟨200, none, some (.obj slot)⟩) ?_
  refine Steps.call (ρ := Reply) (k := .limiterBegin (.str "s1") visitor.keys visitor.tier)
    (some ()) ?_
  exact Steps.call (ρ := Reply) (k := .limiterRemaining visitor.keys visitor.tier)
    (some (some ⟨590, 0⟩)) (.refl _)

theorem asked_first : ∃ req p, ([(asking, .done (grantResponse spaceSettings tenMinutes slot
      visitor (some ⟨590, 0⟩)))] : List (Request Unit × Serve Response))[0]? = some (req, p) ∧
    Lawful plainPython spaceSettings tenMinutes (anonymous.resolveIdentity req.visitor)
      (.limiterBegin (.str "s1") visitor.keys visitor.tier)
      (share 0 ((asked.take 2).map fun e => (0, e))) := by
  have hlog : (asked.map fun e => (0, e)) = (asked.take 2).map (fun e => (0, e)) ++
      (0, ⟨.limiterBegin (.str "s1") visitor.keys visitor.tier, .within, some ()⟩) ::
        (asked.drop 3).map fun e => (0, e) := rfl
  exact budget_first reachable_granted hlog

end SpeechK8s.Demo.Server
