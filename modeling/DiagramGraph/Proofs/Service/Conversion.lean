import DiagramGraph.Proofs.Graph.Conversion
import DiagramGraph.Proofs.Service.Failure
import DiagramGraph.Proofs.Service.Header

/-!
# How conversions are answered

A conversion is refused for the first reason in a fixed order: a header that is
missing, a body that is empty or no text, a context that is no plain text or none
that is accepted, a base that is no plain text, a source without a directive. If
there is no such reason the answer is the document. What comes behind the first
reason has no influence, and neither have headers that repeat an earlier name. All
this holds of bodies of any length once they have been read, and only a body that is
too long is not read.
-/

namespace DiagramGraph.Service

open DiagramGraph.Detection DiagramGraph.Text

/-! ## Requests for a conversion -/

/-- A request that can be sent asks for a conversion. -/
structure AsksConversion (request : Request) : Prop where
  method : request.method = "PUT"
  path : ∃ target, Target.ofText? request.target.toList = some target ∧
    target.path = "/convert".toList
  sendable : ∀ header ∈ request.headers, header.isWellFormed = true

section Asks

variable {environment : Environment} {request : Request} (asks : AsksConversion request)

include asks

theorem AsksConversion.answer?_eq :
    answer? environment request = some (boundedConversionResponse request) := by
  obtain ⟨target, read, path⟩ := asks.path
  have routed : Route.ofPath? target.path = some .conversion := by
    rw [path]
    rfl
  have token : isToken request.method = true := by
    rw [asks.method]
    decide
  have sendable : request.headers.all Header.isWellFormed = true :=
    List.all_eq_true.2 asks.sendable
  rw [answer?, read]
  dsimp only
  rw [token, sendable, Bool.and_self, if_pos rfl, answerTarget, routed]
  exact congrArg some (if_pos asks.method)

theorem AsksConversion.answer?_of_le (short : request.body.length ≤ bodyLimit) :
    answer? environment request = some (conversionResponse request) := by
  rw [asks.answer?_eq, boundedConversionResponse_of_le short]

theorem AsksConversion.answer?_of_lt (long : bodyLimit < request.body.length) :
    answer? environment request = some oversizedResponse := by
  rw [asks.answer?_eq, boundedConversionResponse_of_lt long]

end Asks

/-! ## The order of checks -/

/-- Both headers are there, and these are their values. -/
structure Headed (request : Request) (contextValue idValue : List UInt8) : Prop where
  context : request.Gives contextHeader contextValue
  id : request.Gives idHeader idValue

/-- Besides, the body is this source. -/
structure Posed (request : Request) (contextValue idValue : List UInt8) (source : String) :
    Prop extends Headed request contextValue idValue where
  filled : request.body ≠ []
  text : Utf8.encode source.toList = request.body

/-- Besides, the value for the context is a plain text that denotes one. -/
inductive Framed (request : Request) (idValue : List UInt8) (source : String)
    (context : Context) : Prop where
  | intro {text : String} (plain : IsPlain text) (accepted : Context.ofText? text = some context)
      (posed : Posed request (Utf8.encode text.toList) idValue source)

/-- Besides, the value for the base is a plain text. -/
structure Based (request : Request) (source : String) (context : Context) (base : String) :
    Prop where
  plain : IsPlain base
  framed : Framed request (Utf8.encode base.toList) source context

/-- Why a request is refused: the status, the code and the rejection for the first
check that fails. -/
inductive Refuses (request : Request) : Nat → String → Rejection → Prop where
  | missingHeaders (lacks : request.Lacks contextHeader ∨ request.Lacks idHeader) :
      Refuses request 400 "missing_headers" .missingHeaders
  | emptyBody {contextValue idValue : List UInt8} (headed : Headed request contextValue idValue)
      (empty : request.body = []) : Refuses request 400 "empty_body" .emptyBody
  | bodyNotText {contextValue idValue : List UInt8} {fault : Utf8.Fault}
      (headed : Headed request contextValue idValue)
      (noText : ∀ text, Utf8.encode text ≠ request.body)
      (decoded : Utf8.decode request.body = .error fault) :
      Refuses request 400 "invalid_parameter" (.bodyNotText fault)
  | contextUnreadable {contextValue idValue : List UInt8} {source : String} {byte : UInt8}
      (posed : Posed request contextValue idValue source) (member : byte ∈ contextValue)
      (strange : ¬ IsPlainByte byte) : Refuses request 400 "invalid_context" .contextUnreadable
  | contextMalformed {idValue : List UInt8} {source text : String}
      (posed : Posed request (Utf8.encode text.toList) idValue source) (plain : IsPlain text)
      (malformed : Context.ofText? text = none) :
      Refuses request 400 "invalid_context" .contextMalformed
  | idUnreadable {idValue : List UInt8} {source : String} {context : Context} {byte : UInt8}
      (framed : Framed request idValue source context) (member : byte ∈ idValue)
      (strange : ¬ IsPlainByte byte) : Refuses request 400 "invalid_parameter" .idUnreadable
  | undirected {source : String} {context : Context} {base : String}
      (based : Based request source context base)
      (none : ∀ before behind, ¬ DirectiveAt source.toList before behind) :
      Refuses request 422 "parse_failed" (.source .missingDirective)

/-- How a request is answered. -/
inductive Settles (request : Request) : Response → Prop where
  | refused {status : Nat} {code : String} {cause : Rejection}
      (refuses : Refuses request status code cause) : Settles request cause.response
  | converted {source : String} {context : Context} {base : String} {before behind : List Char}
      {document : String} (based : Based request source context base)
      (directive : DirectiveAt source.toList before behind)
      (made : convert source context base = .ok document) :
      Settles request
        { status := 200, contentType := some "application/ld+json", body := document }

/-! ## One of the cases applies -/

section Cases

variable {request : Request}

/-- A value is plain, or one of its bytes is not. -/
theorem exists_plain_or_strange (value : List UInt8) :
    (∃ text, IsPlain text ∧ Utf8.encode text.toList = value) ∨
      ∃ byte ∈ value, ¬ IsPlainByte byte := by
  cases read : headerText? value with
  | none => exact .inr (headerText?_eq_none_iff.1 read)
  | some text => exact .inl ⟨text, headerText?_eq_some_iff.1 read⟩

theorem exists_settles_of_based {source : String} {context : Context} {base : String}
    (based : Based request source context base) : ∃ response, Settles request response := by
  by_cases opened : ∃ before behind, DirectiveAt source.toList before behind
  · obtain ⟨before, behind, directive⟩ := opened
    obtain ⟨kind, made⟩ := exists_documentText directive
    exact ⟨_, .converted based directive (made context base)⟩
  · have none : ∀ before behind, ¬ DirectiveAt source.toList before behind :=
      fun before behind directive => opened ⟨before, behind, directive⟩
    exact ⟨_, .refused (.undirected based none)⟩

theorem exists_settles_of_posed {contextValue idValue : List UInt8} {source : String}
    (posed : Posed request contextValue idValue source) :
    ∃ response, Settles request response := by
  rcases exists_plain_or_strange contextValue with ⟨text, plain, rfl⟩ | ⟨byte, member, strange⟩
  · cases accepted : Context.ofText? text with
    | none => exact ⟨_, .refused (.contextMalformed posed plain accepted)⟩
    | some context =>
        have framed : Framed request idValue source context := .intro plain accepted posed
        rcases exists_plain_or_strange idValue with ⟨base, plainBase, rfl⟩ | ⟨byte, member, strange⟩
        · exact exists_settles_of_based ⟨plainBase, framed⟩
        · exact ⟨_, .refused (.idUnreadable framed member strange)⟩
  · exact ⟨_, .refused (.contextUnreadable posed member strange)⟩

theorem exists_settles_of_headed {contextValue idValue : List UInt8}
    (headed : Headed request contextValue idValue) : ∃ response, Settles request response := by
  by_cases empty : request.body = []
  · exact ⟨_, .refused (.emptyBody headed empty)⟩
  · cases decoded : Utf8.decode request.body with
    | ok text =>
        have posed : Posed request contextValue idValue (String.ofList text) :=
          { headed with
            filled := empty
            text := by rw [String.toList_ofList, Utf8.decode_eq_ok_iff.1 decoded] }
        exact exists_settles_of_posed posed
    | error fault =>
        have noText : ∀ text, Utf8.encode text ≠ request.body := by
          intro text same
          rw [Utf8.decode_eq_ok_iff.2 same] at decoded
          contradiction
        exact ⟨_, .refused (.bodyNotText headed noText decoded)⟩

/-- Every request is settled. -/
theorem exists_settles (request : Request) : ∃ response, Settles request response := by
  cases foundContext : request.header? contextHeader with
  | none => exact ⟨_, .refused (.missingHeaders (.inl (header?_eq_none_iff.1 foundContext)))⟩
  | some contextValue =>
      cases foundId : request.header? idHeader with
      | none => exact ⟨_, .refused (.missingHeaders (.inr (header?_eq_none_iff.1 foundId)))⟩
      | some idValue =>
          exact exists_settles_of_headed
            ⟨header?_eq_some_iff.1 foundContext, header?_eq_some_iff.1 foundId⟩

end Cases

/-! ## The answer of a case -/

theorem orReject_some_bind {α β : Type} (value : α) (rejection : Rejection)
    (next : α → Except Rejection β) : orReject (some value) rejection >>= next = next value :=
  rfl

theorem orReject_none_bind {α β : Type} (rejection : Rejection) (next : α → Except Rejection β) :
    orReject none rejection >>= next = .error rejection :=
  rfl

theorem ok_bind {α β : Type} (value : α) (next : α → Except Rejection β) :
    Except.ok value >>= next = next value :=
  rfl

section Answers

variable {request : Request}

/-- A header that is missing decides before everything else. -/
theorem conversionDocument_of_lacks
    (lacks : request.Lacks contextHeader ∨ request.Lacks idHeader) :
    conversionDocument request = .error .missingHeaders := by
  rw [conversionDocument]
  rcases lacks with lacks | lacks
  · rw [header?_eq_none_iff.2 lacks]
    rfl
  · rw [header?_eq_none_iff.2 lacks]
    cases request.header? contextHeader <;> rfl

section Headed

variable {contextValue idValue : List UInt8} (headed : Headed request contextValue idValue)

include headed

theorem Headed.header?_context : request.header? contextHeader = some contextValue :=
  header?_eq_some_iff.2 headed.context

theorem Headed.header?_id : request.header? idHeader = some idValue :=
  header?_eq_some_iff.2 headed.id

theorem Headed.conversionDocument_of_empty (empty : request.body = []) :
    conversionDocument request = .error .emptyBody := by
  rw [conversionDocument, headed.header?_context, headed.header?_id, empty]
  rfl

theorem Headed.conversionDocument_of_noText {fault : Utf8.Fault}
    (noText : ∀ text, Utf8.encode text ≠ request.body)
    (decoded : Utf8.decode request.body = .error fault) :
    conversionDocument request = .error (.bodyNotText fault) := by
  have filled : request.body.isEmpty = false :=
    List.isEmpty_eq_false_iff.2 fun empty => noText [] empty.symm
  rw [conversionDocument, headed.header?_context, headed.header?_id, filled, bodyText, decoded]
  rfl

end Headed

section Posed

variable {contextValue idValue : List UInt8} {source : String}
  (posed : Posed request contextValue idValue source)

include posed

theorem Posed.bodyText_eq : bodyText request.body = .ok source := by
  rw [bodyText, Utf8.decode_eq_ok_iff.2 posed.text]
  dsimp only
  rw [String.ofList_toList]

/-- What is left to do is to read the headers and to convert. -/
theorem Posed.conversionDocument_eq :
    conversionDocument request = (do
      let contextText ← orReject (headerText? contextValue) .contextUnreadable
      let context ← orReject (Context.ofText? contextText) .contextMalformed
      let base ← orReject (headerText? idValue) .idUnreadable
      (convert source context base).mapError .source) := by
  have filled : request.body.isEmpty = false := List.isEmpty_eq_false_iff.2 posed.filled
  rw [conversionDocument, posed.header?_context, posed.header?_id, filled, posed.bodyText_eq]
  simp only [orReject_some_bind, ok_bind, Bool.false_eq_true, if_false]
  -- Both sides make the last step alike, but in different words.
  refine bind_congr fun contextText => bind_congr fun context => bind_congr fun base => ?_
  cases convert source context base <;> rfl

theorem Posed.conversionDocument_of_strange {byte : UInt8} (member : byte ∈ contextValue)
    (strange : ¬ IsPlainByte byte) : conversionDocument request = .error .contextUnreadable := by
  rw [posed.conversionDocument_eq, headerText?_eq_none_iff.2 ⟨byte, member, strange⟩,
    orReject_none_bind]

end Posed

theorem Posed.conversionDocument_of_malformed {idValue : List UInt8} {source text : String}
    (posed : Posed request (Utf8.encode text.toList) idValue source) (plain : IsPlain text)
    (malformed : Context.ofText? text = none) :
    conversionDocument request = .error .contextMalformed := by
  rw [posed.conversionDocument_eq, headerText?_eq_some_iff.2 ⟨plain, rfl⟩, orReject_some_bind,
    malformed, orReject_none_bind]

/-- With a context the base is read. -/
theorem Framed.conversionDocument_eq {idValue : List UInt8} {source : String} {context : Context}
    (framed : Framed request idValue source context) :
    conversionDocument request = (do
      let base ← orReject (headerText? idValue) .idUnreadable
      (convert source context base).mapError .source) := by
  obtain ⟨plain, accepted, posed⟩ := framed
  rw [posed.conversionDocument_eq, headerText?_eq_some_iff.2 ⟨plain, rfl⟩, orReject_some_bind,
    accepted, orReject_some_bind]

/-- With a base the source is converted. -/
theorem Based.conversionDocument_eq {source : String} {context : Context} {base : String}
    (based : Based request source context base) :
    conversionDocument request = (convert source context base).mapError .source := by
  rw [based.framed.conversionDocument_eq, headerText?_eq_some_iff.2 ⟨based.plain, rfl⟩,
    orReject_some_bind]

theorem Refuses.conversionDocument_eq {status : Nat} {code : String} {cause : Rejection}
    (refuses : Refuses request status code cause) : conversionDocument request = .error cause := by
  cases refuses with
  | missingHeaders lacks => exact conversionDocument_of_lacks lacks
  | emptyBody headed empty => exact headed.conversionDocument_of_empty empty
  | bodyNotText headed noText decoded => exact headed.conversionDocument_of_noText noText decoded
  | contextUnreadable posed member strange =>
      exact posed.conversionDocument_of_strange member strange
  | contextMalformed posed plain malformed =>
      exact posed.conversionDocument_of_malformed plain malformed
  | idUnreadable framed member strange =>
      rw [framed.conversionDocument_eq, headerText?_eq_none_iff.2 ⟨_, member, strange⟩,
        orReject_none_bind]
  | undirected based none =>
      rw [based.conversionDocument_eq, convert_of_undirected none]
      rfl

theorem Settles.conversionResponse_eq {response : Response} (settles : Settles request response) :
    conversionResponse request = response := by
  rw [conversionResponse]
  cases settles with
  | refused refuses => rw [refuses.conversionDocument_eq]
  | converted based directive made =>
      rw [based.conversionDocument_eq, made]
      rfl

end Answers

/-- The cases settle the answer. -/
theorem conversionResponse_eq_iff {request : Request} {response : Response} :
    conversionResponse request = response ↔ Settles request response := by
  constructor
  · rintro rfl
    obtain ⟨response, settles⟩ := exists_settles request
    rwa [settles.conversionResponse_eq]
  · exact Settles.conversionResponse_eq

/-! ## What is reported -/

section Reported

variable {request : Request} {status : Nat} {code : String} {cause : Rejection}

theorem Refuses.reports (refuses : Refuses request status code cause) :
    Reports cause.response status code := by
  cases refuses <;> exact Rejection.reports _

theorem Refuses.status_eq (refuses : Refuses request status code cause) :
    status = 400 ∨ status = 422 := by
  cases refuses <;> simp

theorem Refuses.code_ne (refuses : Refuses request status code cause) :
    code ≠ "conversion_failed" ∧ code ≠ "internal_error" := by
  cases refuses <;> simp

variable {response : Response}

theorem Settles.status_eq (settles : Settles request response) :
    response.status = 200 ∨ response.status = 400 ∨ response.status = 422 := by
  cases settles with
  | refused refuses =>
      rw [refuses.reports.status_eq]
      exact .inr refuses.status_eq
  | converted => exact .inl rfl

theorem Settles.code_ne (settles : Settles request response)
    (reports : Reports response status code) :
    code ≠ "conversion_failed" ∧ code ≠ "internal_error" := by
  cases settles with
  | refused refuses =>
      rw [refuses.reports.code_eq reports]
      exact refuses.code_ne
  | converted =>
      have typed := reports.typed
      simp at typed

end Reported

/-! ## Headers that repeat a name -/

section Repeated

variable {request : Request} {before repeated after : List Header}

/-- Only the first headers and the body count. -/
theorem conversionResponse_congr {other : Request}
    (context : other.header? contextHeader = request.header? contextHeader)
    (id : other.header? idHeader = request.header? idHeader) (body : other.body = request.body) :
    conversionResponse other = conversionResponse request := by
  rw [conversionResponse, conversionDocument, context, id, body]
  rfl

theorem boundedConversionResponse_congr {other : Request} (body : other.body = request.body)
    (same : conversionResponse other = conversionResponse request) :
    boundedConversionResponse other = boundedConversionResponse request := by
  rw [boundedConversionResponse, boundedConversionResponse, body, same]

theorem conversionResponse_of_repeats (split : request.headers = before ++ repeated ++ after)
    (repeats : ∀ header ∈ repeated, header.Repeats before) :
    conversionResponse { request with headers := before ++ after } = conversionResponse request :=
  conversionResponse_congr (header?_of_repeats split repeats).symm
    (header?_of_repeats split repeats).symm rfl

/-- Headers that repeat a name can be put in the place of others. -/
theorem conversionResponse_of_replaced {others : List Header}
    (split : request.headers = before ++ repeated ++ after)
    (repeats : ∀ header ∈ repeated, header.Repeats before)
    (othersRepeat : ∀ header ∈ others, header.Repeats before) :
    conversionResponse { request with headers := before ++ others ++ after } =
      conversionResponse request := by
  have replaced : { request with headers := before ++ others ++ after }.headers =
      before ++ others ++ after := rfl
  rw [← conversionResponse_of_repeats replaced othersRepeat,
    ← conversionResponse_of_repeats split repeats]

theorem AsksConversion.replaced {others : List Header} (asks : AsksConversion request)
    (split : request.headers = before ++ repeated ++ after)
    (sendable : ∀ header ∈ others, header.isWellFormed = true) :
    AsksConversion { request with headers := before ++ others ++ after } where
  method := asks.method
  path := asks.path
  sendable := by
    have all := asks.sendable
    rw [split] at all
    simp only [List.forall_mem_append] at all ⊢
    exact ⟨⟨all.1.1, sendable⟩, all.2⟩

end Repeated

/-! ## The main statement -/

/-- A request to convert a source, with a short context and base. -/
def shortRequest (source : String) : Request :=
  { method := "PUT"
    target := "/convert"
    headers := [⟨"Context", Utf8.encode "https://schema.org/".toList⟩,
      ⟨"Id", Utf8.encode "https://id.example/".toList⟩]
    body := Utf8.encode source.toList }

theorem asksConversion_shortRequest (source : String) : AsksConversion (shortRequest source) where
  method := rfl
  path := by
    have target : (shortRequest source).target = "/convert" := rfl
    refine ⟨⟨"/convert".toList, none⟩, ?_, rfl⟩
    rw [target]
    decide +kernel
  sendable := by
    have headers : (shortRequest source).headers = (shortRequest "").headers := rfl
    rw [headers, ← List.all_eq_true]
    decide +kernel

theorem headed_shortRequest (source : String) :
    Headed (shortRequest source) (Utf8.encode "https://schema.org/".toList)
      (Utf8.encode "https://id.example/".toList) where
  context := header?_eq_some_iff.1 rfl
  id := header?_eq_some_iff.1 rfl

/-- Once the body has been read, one of three statuses is answered. -/
theorem status_of_conversionResponse (request : Request) :
    (conversionResponse request).status = 200 ∨ (conversionResponse request).status = 400 ∨
      (conversionResponse request).status = 422 :=
  (conversionResponse_eq_iff.1 rfl).status_eq

/-- Each of the statuses occurs for a short body. -/
theorem exists_conversionResponse_of_status {status : Nat}
    (listed : status = 200 ∨ status = 400 ∨ status = 422) :
    ∃ request, AsksConversion request ∧ request.body.length ≤ bodyLimit ∧
      (conversionResponse request).status = status := by
  rcases listed with rfl | rfl | rfl
  · exact ⟨_, asksConversion_shortRequest "@startuml", by decide, by decide +kernel⟩
  · exact ⟨_, asksConversion_shortRequest "", by decide, by decide +kernel⟩
  · exact ⟨_, asksConversion_shortRequest "startuml", by decide, by decide +kernel⟩

theorem status_of_conversionResponse_iff {status : Nat} :
    (∃ request, AsksConversion request ∧ (conversionResponse request).status = status) ↔
      status = 200 ∨ status = 400 ∨ status = 422 := by
  constructor
  · rintro ⟨request, -, rfl⟩
    exact status_of_conversionResponse request
  · intro listed
    obtain ⟨request, asks, -, answered⟩ := exists_conversionResponse_of_status listed
    exact ⟨request, asks, answered⟩

/-- A conversion whose body is read is answered with one of three statuses, and each of
them occurs. -/
theorem status_of_conversion_iff {environment : Environment} {status : Nat} :
    (∃ request response, AsksConversion request ∧ request.body.length ≤ bodyLimit ∧
      answer? environment request = some response ∧ response.status = status) ↔
        status = 200 ∨ status = 400 ∨ status = 422 := by
  constructor
  · rintro ⟨request, response, asks, short, answered, rfl⟩
    rw [asks.answer?_of_le short, Option.some.injEq] at answered
    rw [← answered]
    exact status_of_conversionResponse request
  · intro listed
    obtain ⟨request, asks, short, rfl⟩ := exists_conversionResponse_of_status listed
    exact ⟨request, _, asks, short, asks.answer?_of_le short, rfl⟩

/-- A conversion is answered, and by the first check that fails: with the status and
the code of that check, or with the document if there is none. This is so for every
body that is read, and would be for the longer ones, which are refused instead. Two of
the codes are never reported, only three statuses occur for what is read, and headers
that repeat an earlier name could be any others that do, or none. -/
theorem conversion_settled {environment : Environment} {request : Request}
    (asks : AsksConversion request) :
    (∃ response, answer? environment request = some response) ∧
      (∀ response, conversionResponse request = response ↔ Settles request response) ∧
      (request.body.length ≤ bodyLimit →
        ∀ response, answer? environment request = some response ↔ Settles request response) ∧
      (bodyLimit < request.body.length → answer? environment request = some oversizedResponse) ∧
      (∀ status code cause, Refuses request status code cause →
        conversionResponse request = cause.response ∧ Reports cause.response status code ∧
          (request.body.length ≤ bodyLimit →
            answer? environment request = some cause.response)) ∧
      (∀ response status code,
        conversionResponse request = response ∨ answer? environment request = some response →
        Reports response status code → code ≠ "conversion_failed" ∧ code ≠ "internal_error") ∧
      (∀ status, (∃ other, AsksConversion other ∧ (conversionResponse other).status = status) ↔
        status = 200 ∨ status = 400 ∨ status = 422) ∧
      (∀ status, (∃ other response, AsksConversion other ∧ other.body.length ≤ bodyLimit ∧
        answer? environment other = some response ∧ response.status = status) ↔
          status = 200 ∨ status = 400 ∨ status = 422) ∧
      ∀ before repeated others after, request.headers = before ++ repeated ++ after →
        (∀ header ∈ repeated, header.Repeats before) →
        (∀ header ∈ others, header.Repeats before ∧ header.isWellFormed = true) →
        conversionResponse { request with headers := before ++ others ++ after } =
            conversionResponse request ∧
          answer? environment { request with headers := before ++ others ++ after } =
            answer? environment request := by
  have settled (response : Response) : conversionResponse request = response ↔
      Settles request response := conversionResponse_eq_iff
  refine ⟨⟨_, asks.answer?_eq⟩, settled, ?within, asks.answer?_of_lt, ?refused, ?codes,
    fun _ => status_of_conversionResponse_iff, fun _ => status_of_conversion_iff, ?repeated⟩
  case within =>
    intro short response
    rw [asks.answer?_of_le short, Option.some.injEq, settled]
  case refused =>
    intro status code cause refuses
    have made := (settled _).2 (.refused refuses)
    refine ⟨made, refuses.reports, fun short => ?_⟩
    rw [asks.answer?_of_le short, made]
  case codes =>
    rintro response status code (made | answered) reports
    · exact ((settled response).1 made).code_ne reports
    · rcases Nat.lt_or_ge bodyLimit request.body.length with long | short
      · rw [asks.answer?_of_lt long, Option.some.injEq] at answered
        subst answered
        exact absurd reports.typed (by simp [oversizedResponse])
      · rw [asks.answer?_of_le short, Option.some.injEq] at answered
        exact ((settled response).1 answered).code_ne reports
  case repeated =>
    intro before repeated others after split repeats othersRepeat
    have same := conversionResponse_of_replaced split repeats
      fun header member => (othersRepeat header member).1
    have replaced := asks.replaced split fun header member => (othersRepeat header member).2
    refine ⟨same, ?_⟩
    rw [replaced.answer?_eq, asks.answer?_eq]
    exact congrArg some (boundedConversionResponse_congr rfl same)

theorem shortRequest_settled :
    AsksConversion (shortRequest "startuml") ∧
      (shortRequest "startuml").body.length ≤ bodyLimit ∧
      answer? emptyEnvironment (shortRequest "startuml") =
        some (Rejection.source .missingDirective).response ∧
      Reports (Rejection.source .missingDirective).response 422 "parse_failed" := by
  have asks := asksConversion_shortRequest "startuml"
  have short : (shortRequest "startuml").body.length ≤ bodyLimit := by decide
  have accepted : Context.ofText? "https://schema.org/" = some (.iri "https://schema.org/") := rfl
  have posed : Posed (shortRequest "startuml") _ _ "startuml" :=
    { headed_shortRequest "startuml" with
      filled := by decide
      text := rfl }
  have based : Based (shortRequest "startuml") "startuml" (.iri "https://schema.org/")
      "https://id.example/" := ⟨by decide, .intro (by decide) accepted posed⟩
  have none : ∀ before behind, ¬ DirectiveAt "startuml".toList before behind :=
    directives_eq_nil_iff.1 (by decide)
  obtain ⟨-, -, -, -, refused, -⟩ := @conversion_settled emptyEnvironment _ asks
  obtain ⟨-, reports, answered⟩ := refused _ _ _ (.undirected based none)
  exact ⟨asks, short, answered short, reports⟩

end DiagramGraph.Service
