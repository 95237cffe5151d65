import Electorate.Proofs.RequestLimit

/-!
# Which responses carry the security headers

A request passes through the layers that the settings ask for. The one that limits requests stands
outside the one that adds the security headers, and the response to a fault of the program is made
outside all of them.

* `headerValues`, `setHeader`: the values of a header, and headers in which it has one value.
  `headerValues_setHeaders`: headers that are set have the values that were set.
* `Secured`: a response with exactly the values of the security headers that it should have.
* `OriginPolicy`: what the layer for browsers of other origins answers and adds, whatever that is.
* `Layer.around`, `Application.respondThrough`: the layers put around the routes, one by one.
* `Application.respondThrough_eq`: where no origin is dealt with, this is `respond`.
* `Application.secured_respondThrough_iff`, `Application.secured_respond_iff`: one request.
* `Application.exchanges`: requests that arrive one after the other.
* `Application.secured_served_iff`: all responses to them.
-/

namespace Electorate.Web

/-! ## Headers -/

/-- Two names are those of one header. -/
def SameName (a b : String) : Prop := Text.lowerAscii a = Text.lowerAscii b

instance (a b : String) : Decidable (SameName a b) := inferInstanceAs (Decidable (_ = _))

/-- All values of a header. -/
def headerValues (headers : Headers) (name : String) : List String :=
  (headers.filter fun h => SameName h.1 name).map Prod.snd

/-- Headers in which a name has one value. It stands at the first place of the name, or last if the
name is new. -/
def setHeader (name value : String) : Headers → Headers
  | [] => [(name, value)]
  | h :: rest =>
    if SameName h.1 name then (name, value) :: rest.filter fun h => ¬SameName h.1 name
    else h :: setHeader name value rest

/-- Headers in which some names have one value each. -/
def setHeaders (more headers : Headers) : Headers :=
  more.foldl (fun headers h => setHeader h.1 h.2 headers) headers

theorem headerValues_cons (h : String × String) (headers : Headers) (name : String) :
    headerValues (h :: headers) name =
      if SameName h.1 name then h.2 :: headerValues headers name
      else headerValues headers name := by
  by_cases hn : SameName h.1 name <;> simp [headerValues, hn]

/-- To drop a header touches no other one. -/
theorem headerValues_filter (name : String) (headers : Headers) (other : String) :
    headerValues (headers.filter fun h => ¬SameName h.1 name) other =
      if SameName name other then [] else headerValues headers other := by
  induction headers with
  | nil => simp [headerValues]
  | cons h rest ih =>
    by_cases hn : SameName h.1 name
    · have hother : SameName h.1 other ↔ SameName name other :=
        ⟨hn.symm.trans, hn.trans⟩
      have hdrop : ((h :: rest).filter fun h => ¬SameName h.1 name) =
          rest.filter fun h => ¬SameName h.1 name :=
        List.filter_cons_of_neg (by simpa using hn)
      rw [hdrop, ih, headerValues_cons]
      by_cases ho : SameName name other <;> simp [ho, hother]
    · have hkeep : ((h :: rest).filter fun h => ¬SameName h.1 name) =
          h :: rest.filter fun h => ¬SameName h.1 name :=
        List.filter_cons_of_pos (by simpa using hn)
      rw [hkeep, headerValues_cons, headerValues_cons, ih]
      by_cases ho : SameName name other
      · have hother : ¬SameName h.1 other := fun hho => hn (hho.trans ho.symm)
        simp [ho, hother]
      · simp [ho]

/-- To set a header touches no other one. -/
theorem headerValues_setHeader (name value : String) (headers : Headers) (other : String) :
    headerValues (setHeader name value headers) other =
      if SameName name other then [value] else headerValues headers other := by
  induction headers with
  | nil => exact headerValues_cons ..
  | cons h rest ih =>
    rw [setHeader]
    by_cases hn : SameName h.1 name
    · have hother : SameName h.1 other ↔ SameName name other :=
        ⟨hn.symm.trans, hn.trans⟩
      rw [if_pos hn, headerValues_cons, headerValues_filter, headerValues_cons]
      by_cases ho : SameName name other <;> simp [ho, hother]
    · rw [if_neg hn, headerValues_cons, ih, headerValues_cons]
      by_cases ho : SameName name other
      · have hother : ¬SameName h.1 other := fun hho => hn (hho.trans ho.symm)
        simp [ho, hother]
      · simp [ho]

theorem headerValues_setHeaders_of_not_mem {more : Headers} {name : String}
    (h : ∀ e ∈ more, ¬SameName e.1 name) (headers : Headers) :
    headerValues (setHeaders more headers) name = headerValues headers name := by
  induction more generalizing headers with
  | nil => rfl
  | cons e more ih =>
    obtain ⟨he, hmore⟩ := List.forall_mem_cons.mp h
    calc headerValues (setHeaders more (setHeader e.1 e.2 headers)) name
        = headerValues (setHeader e.1 e.2 headers) name := ih hmore _
      _ = headerValues headers name := by rw [headerValues_setHeader, if_neg he]

/-- Headers of different names that are set have the values that were set. -/
theorem headerValues_setHeaders {more : Headers}
    (hnames : more.Pairwise fun a b => ¬SameName b.1 a.1) (headers : Headers)
    {e : String × String} (he : e ∈ more) :
    headerValues (setHeaders more headers) e.1 = [e.2] := by
  induction more generalizing headers with
  | nil => cases he
  | cons a more ih =>
    obtain ⟨ha, hmore⟩ := List.pairwise_cons.mp hnames
    have hset : setHeaders (a :: more) headers = setHeaders more (setHeader a.1 a.2 headers) := rfl
    rw [hset]
    obtain rfl | he := List.mem_cons.mp he
    · have hself : SameName e.1 e.1 := rfl
      rw [headerValues_setHeaders_of_not_mem ha, headerValues_setHeader, if_pos hself]
    · exact ih hmore _ he

/-! ## Responses -/

/-- A response with exactly the values that the security headers should have. -/
def Secured (r : Response) : Prop :=
  ∀ e ∈ securityHeaders, headerValues r.headers e.1 = [e.2]

/-- A response in which the security headers are set, whatever it had under their names. -/
def Response.secure (r : Response) : Response :=
  { r with headers := setHeaders securityHeaders r.headers }

theorem Response.secured_secure (r : Response) : Secured r.secure := fun _ he =>
  headerValues_setHeaders (by decide +kernel) r.headers he

/-- The headers are added to a response that has none yet. -/
theorem Response.secure_eq_withHeaders {r : Response} (h : r.headers = []) :
    r.secure = r.withHeaders securityHeaders := by
  have hset : setHeaders securityHeaders [] = securityHeaders := by decide +kernel
  rw [secure, withHeaders, h, hset]
  rfl

theorem not_secured_of_headers_eq_nil {r : Response} (h : r.headers = []) : ¬Secured r := by
  intro hr
  have hvalues := hr _ (List.mem_cons_self ..)
  rw [h] at hvalues
  cases hvalues

theorem headers_response? {e : Refusal} {r : Response} (h : e.response? = some r) :
    r.headers = [] := by
  cases e with
  | failed f =>
    cases f with
    | fault | unreadable =>
      simp only [Refusal.response?, failureResponse?] at h
      split at h
      · obtain rfl := Option.some.inj h
        rfl
      · cases h
    | unavailable | unfit | refused | nothingSelected =>
      obtain rfl := Option.some.inj h
      rfl
  | badFields | badYears | noVoter =>
    obtain rfl := Option.some.inj h
    rfl

namespace Application

variable {app : Application} {year : Int} {r : Request} {response : Response}

theorem headers_respondAt {q : Query} {e : Endpoint}
    (h : (app.respondAt year q e).1 = some response) : response.headers = [] := by
  unfold respondAt at h
  split at h
  · split at h
    · obtain rfl := Option.some.inj h
      rfl
    · exact headers_response? h
  · cases h

/-- The routes give no headers of their own. -/
theorem headers_route (h : (app.route year r).1 = some response) : response.headers = [] := by
  unfold route at h
  split at h
  · obtain rfl := Option.some.inj h
    rfl
  · obtain rfl := Option.some.inj h
    rfl
  · split at h
    · exact headers_respondAt h
    · obtain rfl := Option.some.inj h
      rfl

end Application

/-! ## The layers -/

/-- How browsers of other origins are dealt with: some requests are answered before they reach the
routes, and the other responses are given more headers. -/
structure OriginPolicy where
  answers : OriginRule → Request → Option Response
  rewrites : OriginRule → Request → Response → Response

/-- The policy that leaves every request and response as it is. -/
def OriginPolicy.none : OriginPolicy := ⟨fun _ _ => .none, fun _ _ response => response⟩

/-- What answers requests: a response and the application after it. There is no response if the
program is at fault. -/
abbrev Handler := Application → Request → Option Response × Application

/-- The routes, with ages taken in a year. -/
def routes (year : Int) : Handler := fun app r =>
  let (response, session) := app.route year r
  (response, { app with session := session })

/-- A layer put around what answers requests. A fault passes through every layer. -/
def Layer.around (policy : OriginPolicy) : Layer → Handler → Handler
  | .rateLimit limit trusted, inner, app, r =>
    let client := clientAddress trusted r.headers r.peer
    let (count, hits) := app.hits.hit client app.session.now windowSeconds
    if admits limit count then inner { app with hits := hits } r
    else (some Application.tooMany, { app with hits := hits })
  | .securityHeaders, inner, app, r =>
    let (response, app) := inner app r
    (response.map Response.secure, app)
  | .origins rule, inner, app, r =>
    match policy.answers rule r with
    | some response => (some response, app)
    | .none =>
      let (response, app) := inner app r
      (response.map (policy.rewrites rule r), app)

namespace Application

variable {app : Application} {year : Int} {r : Request} {policy : OriginPolicy}

/-- The response to a request that passes through the layers of the settings, the first of them
outermost, and the application after it. -/
def respondThrough (policy : OriginPolicy) (app : Application) (year : Int) (r : Request) :
    Response × Application :=
  let (response, app) := (layers app.settings).foldr (Layer.around policy) (routes year) app r
  (response.getD crash, app)

/-- What the routes and the layer for browsers give to a request that the limit lets through. -/
def answered (policy : OriginPolicy) (app : Application) (year : Int) (r : Request) :
    Option Response × Application :=
  (originLayer app.settings).around policy (routes year) { app with hits := (app.counted r).2 } r

theorem respondThrough_of_admits
    (h : admits app.settings.rateLimitPerMinute (app.counted r).1) :
    app.respondThrough policy year r =
      (((app.answered policy year r).1.map Response.secure).getD crash,
        (app.answered policy year r).2) := by
  have houter : (layers app.settings).foldr (Layer.around policy) (routes year) app r =
      Layer.securityHeaders.around policy ((originLayer app.settings).around policy (routes year))
        { app with hits := (app.counted r).2 } r := if_pos h
  rw [respondThrough, houter]
  rfl

theorem respondThrough_of_not_admits
    (h : ¬admits app.settings.rateLimitPerMinute (app.counted r).1) :
    app.respondThrough policy year r = (tooMany, { app with hits := (app.counted r).2 }) := by
  have houter : (layers app.settings).foldr (Layer.around policy) (routes year) app r =
      (some tooMany, { app with hits := (app.counted r).2 }) := if_neg h
  rw [respondThrough, houter]
  rfl

/-- Where browsers are not dealt with, the layers together do what `respond` does. -/
theorem respondThrough_eq (app : Application) (year : Int) (r : Request) :
    app.respondThrough .none year r = app.respond year r := by
  by_cases h : admits app.settings.rateLimitPerMinute (app.counted r).1
  · have hanswered : app.answered .none year r = ((app.route year r).1,
        { app with hits := (app.counted r).2, session := (app.route year r).2 }) :=
      Prod.ext (congrFun Option.map_id_fun' _) rfl
    rw [respondThrough_of_admits h, respond_of_admits h, hanswered]
    congr 1
    cases hroute : (app.route year r).1 with
    | none => rfl
    | some response => exact Response.secure_eq_withHeaders (headers_route hroute)
  · rw [respondThrough_of_not_admits h, respond_of_not_admits h]

/-- The response to a request carries the security headers unless the limit refuses the request or
the program is at fault. -/
theorem secured_respondThrough_iff (policy : OriginPolicy) (app : Application) (year : Int)
    (r : Request) : Secured (app.respondThrough policy year r).1 ↔
      admits app.settings.rateLimitPerMinute (app.counted r).1 ∧
        (app.answered policy year r).1.isSome := by
  by_cases h : admits app.settings.rateLimitPerMinute (app.counted r).1
  · rw [respondThrough_of_admits h]
    cases hanswered : (app.answered policy year r).1 with
    | none => simp [not_secured_of_headers_eq_nil (r := crash) rfl]
    | some response => simp [h, response.secured_secure]
  · rw [respondThrough_of_not_admits h]
    simp [h, not_secured_of_headers_eq_nil (r := tooMany) rfl]

/-- What lacks the security headers is one of two responses. -/
theorem respondThrough_of_not_secured
    (h : ¬Secured (app.respondThrough policy year r).1) :
    (app.respondThrough policy year r).1 = tooMany ∨
      (app.respondThrough policy year r).1 = crash := by
  by_cases hadmits : admits app.settings.rateLimitPerMinute (app.counted r).1
  · have hfault : (app.answered policy year r).1 = none := by
      rw [← Option.not_isSome_iff_eq_none]
      exact fun hsome => h ((secured_respondThrough_iff policy app year r).mpr ⟨hadmits, hsome⟩)
    right
    rw [respondThrough_of_admits hadmits, hfault]
    rfl
  · left
    rw [respondThrough_of_not_admits hadmits]

/-- By their statuses, all responses carry the security headers but those beyond the limit and those
to a fault. -/
theorem secured_respond_iff (app : Application) (year : Int) (r : Request) :
    Secured (app.respond year r).1 ↔
      (app.respond year r).1.status ≠ 429 ∧ (app.respond year r).1.status ≠ 500 := by
  rw [← respondThrough_eq]
  constructor
  · intro h
    obtain ⟨hadmits, hsome⟩ := (secured_respondThrough_iff ..).mp h
    obtain ⟨response, hanswered⟩ := Option.isSome_iff_exists.mp hsome
    have hroute : (app.route year r).1 = some response := by
      rw [← hanswered]
      exact (congrFun Option.map_id_fun' _).symm
    have hstatus := status_route hroute
    simp only [List.mem_cons, List.not_mem_nil, or_false] at hstatus
    rw [respondThrough_of_admits hadmits, hanswered]
    change response.status ≠ 429 ∧ response.status ≠ 500
    omega
  · intro h
    by_contra hnot
    obtain htooMany | hcrash := respondThrough_of_not_secured hnot
    · rw [htooMany] at h
      exact h.1 rfl
    · rw [hcrash] at h
      exact h.2 rfl

/-! ## Rows of requests -/

/-- A request that was responded to. -/
structure Exchange where
  /-- The application that the request meets. -/
  met : Application
  arrival : Arrival
  response : Response

/-- Requests that arrive one after the other and pass through the layers. -/
def exchanges (policy : OriginPolicy) (app : Application) : List Arrival → List Exchange
  | [] => []
  | a :: rest =>
    let met := { app with session := a.session }
    let (response, after) := met.respondThrough policy a.year a.request
    ⟨met, a, response⟩ :: after.exchanges policy rest

/-- Each request of a row is responded to as it would be alone, by the application that it meets. -/
theorem response_of_mem_exchanges {arrivals : List Arrival} {e : Exchange}
    (h : e ∈ app.exchanges policy arrivals) :
    e.response = (e.met.respondThrough policy e.arrival.year e.arrival.request).1 := by
  induction arrivals generalizing app with
  | nil => cases h
  | cons a arrivals ih =>
    obtain rfl | h := List.mem_cons.mp h
    · rfl
    · exact ih h

theorem map_exchanges_none (app : Application) (arrivals : List Arrival) :
    (app.exchanges .none arrivals).map (fun e => (e.arrival, e.response)) = app.served arrivals := by
  induction arrivals generalizing app with
  | nil => rfl
  | cons a arrivals ih =>
    rw [exchanges, served, List.map_cons, ih]
    simp only [receive, respondThrough_eq]

/-- Whatever is done for browsers of other origins, each response of a row of requests carries the
security headers with the values that they should have, each once, unless the limit refuses the
request or the program is at fault. These two are always responded to in the same way, without a
header. Where browsers are not dealt with, the row is the one of the application itself, and what
carries the headers is told by the status. -/
theorem secured_served_iff (policy : OriginPolicy) (app : Application) (arrivals : List Arrival) :
    (∀ e ∈ app.exchanges policy arrivals,
      (Secured e.response ↔
        admits e.met.settings.rateLimitPerMinute (e.met.counted e.arrival.request).1 ∧
          (e.met.answered policy e.arrival.year e.arrival.request).1.isSome) ∧
      (¬Secured e.response → e.response = tooMany ∨ e.response = crash)) ∧
    (app.exchanges .none arrivals).map (fun e => (e.arrival, e.response)) = app.served arrivals ∧
    ∀ e ∈ app.served arrivals, Secured e.2 ↔ e.2.status ≠ 429 ∧ e.2.status ≠ 500 := by
  refine ⟨fun e he => ?_, map_exchanges_none app arrivals, fun e he => ?_⟩
  · rw [response_of_mem_exchanges he]
    exact ⟨secured_respondThrough_iff .., respondThrough_of_not_secured⟩
  · rw [← map_exchanges_none] at he
    obtain ⟨exchange, hexchange, rfl⟩ := List.mem_map.mp he
    have hresponse := response_of_mem_exchanges hexchange
    rw [respondThrough_eq] at hresponse
    rw [hresponse]
    exact secured_respond_iff ..

/-- Under a limit of one request, the response to the second one of a client has none of the
headers. -/
theorem not_secured_beyondLimit :
    let app : Application := ⟨{ Settings.ofUrl "db" with rateLimitPerMinute := 1 }, true, .empty,
      ⟨[], [], .empty 1 1, 0⟩⟩
    let arrival : Arrival :=
      ⟨⟨"GET", "/api/v1/nowhere", [], [], some "a"⟩, ⟨[], [], .empty 1 1, 0⟩, 2024⟩
    ¬∀ e ∈ app.served [arrival, arrival], Secured e.2 := by
  intro app arrival hsecured
  have hsecond : (app.served [arrival, arrival])[1]?.map (fun e => e.2.headers) = some [] := by
    decide +kernel
  obtain ⟨e, he, hheaders⟩ := Option.map_eq_some_iff.mp hsecond
  exact not_secured_of_headers_eq_nil hheaders (hsecured e (List.mem_of_getElem? he))

end Application

end Electorate.Web
