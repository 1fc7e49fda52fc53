import DiagramGraph.Proofs.Json.Record
import DiagramGraph.Proofs.Json.RoundTrip
import DiagramGraph.Service.Router

/-!
# How failures are answered

Whoever is refused shall learn why: the answer is a JSON record of a message and a
code, and the code belongs to the status. This holds of every failure that is found
by the service itself. But requests that go astray before they reach it, to a path
that is not served, by a method that is not allowed, with a query that names its field
twice or with a body that is too long, are answered without such a record.
-/

namespace DiagramGraph.Service

open DiagramGraph.Json DiagramGraph.Json.Value

/-! ## Records of an error -/

/-- All codes of errors, each with the status that it belongs to. -/
def documentedCodes : List (String × Nat) :=
  [ ("missing_headers", 400), ("empty_body", 400), ("invalid_context", 400),
    ("invalid_parameter", 400), ("not_found", 404), ("parse_failed", 422),
    ("conversion_failed", 500), ("internal_error", 500) ]

/-- A response reports an error: it says that its body is JSON, and the body is an
object of a message and the code and of nothing else. -/
structure Reports (response : Response) (status : Nat) (code : String) : Prop where
  status_eq : response.status = status
  typed : response.contentType = some "application/json"
  record : ∃ message, read? Context.depthLimit response.body.toList =
    some (.object [("error", .string message), ("code", .string code)])

/-- A response reports an error by a code that belongs to its status. -/
def ReportsDocumented (response : Response) : Prop :=
  ∃ code, (code, response.status) ∈ documentedCodes ∧ Reports response response.status code

/-- The code that is reported can be read from the body. -/
theorem Reports.code_eq {response : Response} {status other : Nat} {code further : String}
    (reports : Reports response status code) (again : Reports response other further) :
    further = code := by
  obtain ⟨message, read⟩ := reports.record
  obtain ⟨said, reread⟩ := again.record
  rw [read] at reread
  have same : message = said ∧ code = further := by simpa using reread
  exact same.2.symm

theorem ErrorBody.fits_toJson (body : ErrorBody) : body.toJson.Fits Number.Exact 1 := by
  apply fits_sparse (by simp)
  simp only [List.forall_mem_cons]
  exact ⟨each_some (fits_string _), each_some (fits_string _), nofun⟩

/-- What is written about a rejection is read back. -/
theorem Rejection.reports (rejection : Rejection) :
    Reports rejection.response rejection.status rejection.code where
  status_eq := rfl
  typed := rfl
  record := by
    have fits : (ErrorBody.toJson ⟨rejection.message, rejection.code⟩).Fits Number.Exact
        Context.depthLimit := (ErrorBody.fits_toJson _).mono (by decide)
    have read : read? Context.depthLimit
        ((ErrorBody.toJson ⟨rejection.message, rejection.code⟩).write .compact 0 ++ []) = some _ :=
      read?_write_exact Layout.separating_compact fits.1 fits.2 (by simp)
    rw [List.append_nil] at read
    refine ⟨rejection.message, ?_⟩
    rw [Rejection.response, Value.compact, String.toList_ofList, read]
    rfl

/-- A rejection reports its own status and code only. -/
theorem Rejection.reports_iff {rejection : Rejection} {status : Nat} {code : String} :
    Reports rejection.response status code ↔ rejection.status = status ∧ rejection.code = code := by
  constructor
  · intro reports
    exact ⟨reports.status_eq, reports.code_eq rejection.reports⟩
  · rintro ⟨rfl, rfl⟩
    exact rejection.reports

theorem Rejection.documented (rejection : Rejection) :
    (rejection.code, rejection.status) ∈ documentedCodes := by
  cases rejection with
  | source error => cases error <;> simp [documentedCodes, code, status]
  | _ => simp [documentedCodes, code, status]

theorem Rejection.reportsDocumented (rejection : Rejection) :
    ReportsDocumented rejection.response :=
  ⟨rejection.code, rejection.documented, rejection.reports⟩

/-! ## Requests that go astray -/

/-- The methods of a route. -/
def Route.methods : Route → List String
  | .conversion => ["PUT"]
  | _ => ["GET", "HEAD"]

/-- An answer to a request that is refused before the service looks at it. -/
inductive Unattended (request : Request) : Response → Prop where
  | unknownPath {target : Target} (read : Target.ofText? request.target.toList = some target)
      (unknown : Route.ofPath? target.path = none) : Unattended request { status := 404 }
  | otherMethod {target : Target} {route : Route}
      (read : Target.ofText? request.target.toList = some target)
      (routed : Route.ofPath? target.path = some route) (other : request.method ∉ route.methods) :
      Unattended request { status := 405, allow := some (",".intercalate route.methods) }
  | repeatedName {target : Target} {first second : String} {others : List String}
      (read : Target.ofText? request.target.toList = some target)
      (routed : Route.ofPath? target.path = some .shape) (method : request.method = "GET")
      (named : queriedNames (target.query.getD []) = first :: second :: others) :
      Unattended request
        { status := 400
          contentType := some "text/plain; charset=utf-8"
          body := "Failed to deserialize query string: duplicate field \x60name\x60" }
  | oversized {target : Target} (read : Target.ofText? request.target.toList = some target)
      (routed : Route.ofPath? target.path = some .conversion) (method : request.method = "PUT")
      (long : bodyLimit < request.body.length) :
      Unattended request
        { status := 413
          contentType := some "text/plain; charset=utf-8"
          body := "Failed to buffer the request body: length limit exceeded" }

/-- Such an answer is not said to be JSON. -/
theorem Unattended.contentType_ne {request : Request} {response : Response}
    (unattended : Unattended request response) :
    response.contentType ≠ some "application/json" := by
  cases unattended with
  | unknownPath => exact nofun
  | otherMethod => exact nofun
  | repeatedName => simp
  | oversized => simp

/-! ## Routes -/

section Routes

variable {environment : Environment} {request : Request} {target : Target}

theorem Route.answer_of_mem {route : Route} (allowed : request.method ∈ route.methods)
    (withBody : request.method ≠ "HEAD") :
    route.answer environment request target = route.respond environment request target := by
  cases route with
  | conversion => exact if_pos (List.mem_singleton.1 allowed)
  | _ =>
      have get : request.method = "GET" := by simpa [Route.methods, withBody] using allowed
      exact if_pos get

theorem Route.answer_of_notMem {route : Route} (other : request.method ∉ route.methods) :
    route.answer environment request target =
      { status := 405, allow := some (",".intercalate route.methods) } := by
  cases route with
  | conversion => exact if_neg fun put => other (List.mem_singleton.2 put)
  | _ =>
      have apart : request.method ≠ "GET" ∧ request.method ≠ "HEAD" := by
        simpa [Route.methods] using other
      exact (if_neg apart.1).trans (if_neg apart.2)

theorem namedShapeResponse_reports {name : String}
    (failed : 400 ≤ (namedShapeResponse environment name).status) :
    ReportsDocumented (namedShapeResponse environment name) := by
  rw [namedShapeResponse] at failed ⊢
  cases found : environment.shape name with
  | ok text => simp [found] at failed
  | error missing => exact (Rejection.ofMissing missing).reportsDocumented

theorem conversionResponse_reports (failed : 400 ≤ (conversionResponse request).status) :
    ReportsDocumented (conversionResponse request) := by
  rw [conversionResponse] at failed ⊢
  cases made : conversionDocument request with
  | ok document => simp [made] at failed
  | error rejection => exact rejection.reportsDocumented

theorem boundedConversionResponse_of_le (short : request.body.length ≤ bodyLimit) :
    boundedConversionResponse request = conversionResponse request :=
  if_pos short

theorem boundedConversionResponse_of_lt (long : bodyLimit < request.body.length) :
    boundedConversionResponse request = oversizedResponse :=
  if_neg (Nat.not_le.2 long)

/-- A route is not answered with a failure without reporting it, unless a query names
its field twice or a body is too long. -/
theorem Route.respond_reports {route : Route}
    (failed : 400 ≤ (route.respond environment request target).status) :
    ReportsDocumented (route.respond environment request target) ∨
      (∃ first second others, route = .shape ∧
        queriedNames (target.query.getD []) = first :: second :: others) ∨
      (route = .conversion ∧ bodyLimit < request.body.length) := by
  cases route with
  | description => simp [Route.respond, jsonResponse] at failed
  | health => simp [Route.respond, jsonResponse] at failed
  | conversion =>
      rcases Nat.lt_or_ge bodyLimit request.body.length with long | short
      · exact .inr (.inr ⟨rfl, long⟩)
      · rw [Route.respond, boundedConversionResponse_of_le short] at failed ⊢
        exact .inl (conversionResponse_reports failed)
  | shape =>
      rw [Route.respond, shapeResponse] at failed ⊢
      split
      · exact .inl Rejection.missingName.reportsDocumented
      · next name single =>
          rw [single] at failed
          exact .inl (namedShapeResponse_reports failed)
      · next names noName manyNames =>
          right
          left
          cases named : queriedNames (target.query.getD []) with
          | nil => exact absurd named noName
          | cons first names =>
              cases names with
              | nil => exact absurd named (manyNames first)
              | cons second others => exact ⟨first, second, others, rfl, rfl⟩

theorem shapeResponse_of_repeated {query : List Char} {first second : String}
    {others : List String} (named : queriedNames query = first :: second :: others) :
    shapeResponse environment query = duplicateNameResponse := by
  rw [shapeResponse, named]

end Routes

/-! ## The main statement -/

/-- What is answered is answered to a target. -/
theorem exists_target_of_answer? {environment : Environment} {request : Request}
    {response : Response} (answered : answer? environment request = some response) :
    ∃ target, Target.ofText? request.target.toList = some target ∧
      answerTarget environment request target = response := by
  rw [answer?] at answered
  split at answered
  · next target read =>
      split at answered
      · exact ⟨target, read, Option.some.inj answered⟩
      · contradiction
  · contradiction

/-- Every failure is reported, except for requests that go astray; and those are
answered without a report. -/
theorem failure_reported_iff {environment : Environment} {request : Request} {response : Response}
    (answered : answer? environment request = some response) (failed : 400 ≤ response.status)
    (withBody : request.method ≠ "HEAD") :
    ReportsDocumented response ↔ ¬ Unattended request response := by
  constructor
  · rintro ⟨code, -, reports⟩ unattended
    exact unattended.contentType_ne reports.typed
  · intro attended
    obtain ⟨target, read, rfl⟩ := exists_target_of_answer? answered
    rw [answerTarget] at failed attended ⊢
    cases routed : Route.ofPath? target.path with
    | none =>
        rw [routed] at attended
        exact absurd (.unknownPath read routed) attended
    | some route =>
        rw [routed] at failed attended
        dsimp only at failed attended ⊢
        by_cases allowed : request.method ∈ route.methods
        · -- The route is asked, so only the query or the body can be at fault.
          rw [Route.answer_of_mem allowed withBody] at failed attended ⊢
          rcases Route.respond_reports failed with
            reports | ⟨first, second, others, rfl, named⟩ | ⟨rfl, long⟩
          · exact reports
          · have method : request.method = "GET" := by
              simpa [Route.methods, withBody] using allowed
            rw [Route.respond, shapeResponse_of_repeated named] at attended
            exact absurd (.repeatedName read routed method named) attended
          · have method : request.method = "PUT" := List.mem_singleton.1 allowed
            rw [Route.respond, boundedConversionResponse_of_lt long] at attended
            exact absurd (.oversized read routed method long) attended
        · rw [Route.answer_of_notMem allowed] at attended
          exact absurd (.otherMethod read routed allowed) attended

/-- A service without any shapes. -/
def emptyEnvironment : Environment :=
  { shape := fun name => .error (.notFound name)
    name := "puml-ld"
    now := "2026-01-01T00:00:00+00:00" }

/-- A request for a shape that there is none of. -/
def lostShapeRequest : Request :=
  { method := "GET", target := "/shacl?name=Caf%C3%A9" }

theorem lostShape_failure_reported :
    answer? emptyEnvironment lostShapeRequest = some (Rejection.shapeNotFound "Café").response ∧
      400 ≤ (Rejection.shapeNotFound "Café").response.status ∧
      lostShapeRequest.method ≠ "HEAD" ∧
      ReportsDocumented (Rejection.shapeNotFound "Café").response := by
  have answered : answer? emptyEnvironment lostShapeRequest =
      some (Rejection.shapeNotFound "Café").response := by decide +kernel
  have failed : 400 ≤ (Rejection.shapeNotFound "Café").response.status := by decide
  have withBody : lostShapeRequest.method ≠ "HEAD" := by decide
  refine ⟨answered, failed, withBody, (failure_reported_iff answered failed withBody).2 ?_⟩
  exact fun unattended => unattended.contentType_ne rfl

/-- So not every failure is reported: a path that is not served is answered with
nothing but its status. -/
theorem exists_unreported_failure :
    ¬ ∀ environment request response, answer? environment request = some response →
      400 ≤ response.status → request.method ≠ "HEAD" → ReportsDocumented response := by
  intro uniform
  have answered : answer? emptyEnvironment { method := "GET", target := "/nope" } =
      some { status := 404 } := by decide +kernel
  obtain ⟨code, -, reports⟩ := uniform _ _ _ answered (by decide) (by decide)
  have typed := reports.typed
  contradiction

end DiagramGraph.Service
