import Electorate.Web.Application

/-!
# The statuses of responses

* `status_response?`: the statuses of refused requests.
* `status_route`: the statuses of requests that the limit lets through.
* `respond_of_admits`, `respond_of_not_admits`: a request is routed or refused by the limit.
* `respondAt_of_ok`, `respondAt_of_error`: a routed request is answered or refused by its endpoint.
* `status_respond_eq_iff`: the status 429 is that of the limit alone.
-/

namespace Electorate.Web

open Electorate.Store (Failure Session)

@[simp] theorem status_plain (status : Nat) (body : Body) :
    (Response.plain status body).status = status := rfl

@[simp] theorem status_json (status : Nat) (value : Json) :
    (Response.json status value).status = status := rfl

@[simp] theorem status_detail (status : Nat) (reason : String) :
    (detail status reason).status = status := rfl

@[simp] theorem status_withHeaders (r : Response) (more : Headers) :
    (r.withHeaders more).status = r.status := rfl

theorem status_failureResponse? {f : Failure} {r : Response} (h : failureResponse? f = some r) :
    r.status = 400 ∨ r.status = 503 := by
  cases f with
  | unavailable =>
    obtain rfl := Option.some.inj h
    exact .inr rfl
  | fault | unreadable =>
    simp only [failureResponse?] at h
    split at h
    · obtain rfl := Option.some.inj h
      exact .inl rfl
    · cases h
  | unfit | refused | nothingSelected =>
    obtain rfl := Option.some.inj h
    exact .inl rfl

theorem status_response? {e : Refusal} {r : Response} (h : e.response? = some r) :
    r.status ∈ [400, 404, 422, 503] := by
  cases e with
  | failed f =>
    obtain hr | hr := status_failureResponse? h <;> simp [hr]
  | badFields | badYears | noVoter =>
    obtain rfl := Option.some.inj h
    simp

namespace Application

variable {app : Application} {year : Int} {r : Request}

/-- The client that a request counts for. -/
def clientOf (app : Application) (r : Request) : String :=
  clientAddress app.settings.trustedHeaderList r.headers r.peer

/-- The number of a request among those of its client in the window that ends now, and the log with
it. -/
def counted (app : Application) (r : Request) : Nat × HitLog :=
  app.hits.hit (app.clientOf r) app.session.now windowSeconds

theorem respond_of_admits (h : admits app.settings.rateLimitPerMinute (app.counted r).1) :
    app.respond year r = (throughLayers (app.route year r).1,
      { app with hits := (app.counted r).2, session := (app.route year r).2 }) :=
  if_pos h

theorem respond_of_not_admits (h : ¬admits app.settings.rateLimitPerMinute (app.counted r).1) :
    app.respond year r = (tooMany, { app with hits := (app.counted r).2 }) :=
  if_neg h

variable {q : Query} {e : Endpoint} {after : Session}

/-- An answer that can be sent is sent. -/
theorem respondAt_of_ok (hstarted : app.started = true) {j : Json}
    (hrun : (do sendable (← answer app.settings year q e)).run.run app.session = (.ok j, after)) :
    app.respondAt year q e = (some (.json 200 j), after) := by
  rw [respondAt, if_pos hstarted]
  split
  · rename_i j' session hrun'
    obtain ⟨hj, rfl⟩ := Prod.mk.inj (hrun'.symm.trans hrun)
    obtain rfl := Except.ok.inj hj
    rfl
  · rename_i refusal session hrun'
    cases (Prod.mk.inj (hrun'.symm.trans hrun)).1

/-- A request that is not answered is refused. -/
theorem respondAt_of_error (hstarted : app.started = true) {refusal : Refusal}
    (hrun : (do sendable (← answer app.settings year q e)).run.run app.session =
      (.error refusal, after)) : app.respondAt year q e = (refusal.response?, after) := by
  rw [respondAt, if_pos hstarted]
  split
  · rename_i j session hrun'
    cases (Prod.mk.inj (hrun'.symm.trans hrun)).1
  · rename_i refusal' session hrun'
    obtain ⟨hrefusal, rfl⟩ := Prod.mk.inj (hrun'.symm.trans hrun)
    obtain rfl := Except.error.inj hrefusal
    rfl

/-- The session after a response is the one after the answer. -/
theorem respondAt_snd (hstarted : app.started = true) (year : Int) (q : Query) (e : Endpoint) :
    (app.respondAt year q e).2 =
      ((do sendable (← answer app.settings year q e)).run.run app.session).2 := by
  rcases hrun : (do sendable (← answer app.settings year q e)).run.run app.session with
    ⟨refusal | j, after⟩
  · rw [respondAt_of_error hstarted hrun, hrun]
  · rw [respondAt_of_ok hstarted hrun, hrun]

/-- An endpoint answers, refuses the request, or the program is at fault. -/
theorem status_respondAt {q : Query} {e : Endpoint} {response : Response}
    (h : (app.respondAt year q e).1 = some response) :
    response.status ∈ [200, 400, 404, 422, 503] := by
  unfold respondAt at h
  split at h
  · split at h
    · obtain rfl := Option.some.inj h
      simp
    · exact List.mem_cons_of_mem _ (status_response? h)
  · cases h

theorem status_route {response : Response} (h : (app.route year r).1 = some response) :
    response.status ∈ [200, 307, 400, 404, 405, 422, 503] := by
  unfold route at h
  split at h
  · obtain rfl := Option.some.inj h
    simp
  · obtain rfl := Option.some.inj h
    simp
  · split at h
    · have hstatus := status_respondAt h
      simp only [List.mem_cons, List.not_mem_nil, or_false] at hstatus ⊢
      omega
    · obtain rfl := Option.some.inj h
      simp

/-- The layers keep the status. -/
theorem status_throughLayers_ne (year : Int) (r : Request) :
    (throughLayers (app.route year r).1).status ≠ 429 := by
  cases h : (app.route year r).1 with
  | none => decide
  | some response =>
    have hstatus := status_route h
    simp only [List.mem_cons, List.not_mem_nil, or_false] at hstatus
    rw [throughLayers, status_withHeaders]
    omega

/-- The status 429 is that of a request beyond the limit, and of no other one. -/
theorem status_respond_eq_iff : (app.respond year r).1.status = 429 ↔
    ¬admits app.settings.rateLimitPerMinute (app.counted r).1 := by
  by_cases h : admits app.settings.rateLimitPerMinute (app.counted r).1
  · simp [respond_of_admits h, status_throughLayers_ne, h]
  · simp [respond_of_not_admits h, h, tooMany]

end Application

end Electorate.Web
