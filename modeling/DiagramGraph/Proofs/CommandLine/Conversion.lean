import DiagramGraph.CommandLine.Run
import DiagramGraph.Proofs.Service.Conversion

/-!
# The command line and the service convert alike

A conversion can be asked for on the command line or of the service. Each of them
makes its own checks and has its own way to tell what went wrong, but for the same
source, context and base they tell the same, and the document is the same too. Only a
source that is too long for the body of a request is refused by the service for its
length, which the command line does not look at.
-/

namespace DiagramGraph.CommandLine

open DiagramGraph.Detection DiagramGraph.Service DiagramGraph.Text

/-! ## Outcomes and responses -/

/-- The outcome of a run tells what a response tells. -/
structure Agrees (outcome : Outcome) (response : Response) : Prop where
  converted : outcome.exit = 0 ↔ response.status = 200
  document : outcome.exit = 0 → outcome.output = response.body ++ "\n"
  malformed : outcome.exit = 2 ↔ Reports response 400 "invalid_context"
  undirected : outcome.exit = 1 ↔ Reports response 422 "parse_failed"
  silent : outcome.exit ≠ 0 → outcome.output = ""

theorem agrees_success (document : String) :
    Agrees (.success (document ++ "\n"))
      { status := 200, contentType := some documentType, body := document } where
  converted := by simp [Outcome.success]
  document := fun _ => rfl
  malformed := ⟨nofun, fun reports => nomatch reports.status_eq⟩
  undirected := ⟨nofun, fun reports => nomatch reports.status_eq⟩
  silent := fun failed => absurd rfl failed

theorem agrees_unusable (message : String) :
    Agrees (.unusable message) Rejection.contextMalformed.response where
  converted := by simp [Outcome.unusable, Rejection.response, Rejection.status]
  document := nofun
  malformed := by simp [Outcome.unusable, Rejection.reports_iff, Rejection.status, Rejection.code]
  undirected := by simp [Outcome.unusable, Rejection.reports_iff, Rejection.status]
  silent := fun _ => rfl

theorem agrees_failed :
    Agrees (.failed .missingDirective) (Rejection.source .missingDirective).response where
  converted := by simp [Outcome.failed, Rejection.response, Rejection.status]
  document := nofun
  malformed := by simp [Outcome.failed, Rejection.reports_iff, Rejection.status]
  undirected := by simp [Outcome.failed, Rejection.reports_iff, Rejection.status, Rejection.code]
  silent := fun _ => rfl

/-! ## Requests for the same conversion -/

/-- A request asks for the conversion of a source with a context and a base. -/
structure Poses (request : Service.Request) (source context base : String) : Prop where
  asks : AsksConversion request
  headed : Headed request (Utf8.encode context.toList) (Utf8.encode base.toList)
  body : request.body = Utf8.encode source.toList

section Poses

variable {request : Service.Request} {source context base : String}
  (poses : Poses request source context base)

include poses

theorem Poses.posed (nonempty : source ≠ "") :
    Posed request (Utf8.encode context.toList) (Utf8.encode base.toList) source where
  toHeaded := poses.headed
  filled := by
    intro empty
    have bytes : Utf8.encode source.toList = Utf8.encode [] := poses.body.symm.trans empty
    exact nonempty (String.toList_eq_nil_iff.1 (Utf8.encode_inj.1 bytes))
  text := poses.body.symm

/-- Both front ends check the context first and convert then. -/
theorem Poses.agrees (nonempty : source ≠ "") (plainContext : IsPlain context)
    (plainBase : IsPlain base) :
    Agrees (conversionOutcome source context base) (conversionResponse request) := by
  have posed := poses.posed nonempty
  rw [conversionOutcome, conversionResponse]
  cases accepted : Context.ofText? context with
  | none =>
      rw [posed.conversionDocument_of_malformed plainContext accepted]
      exact agrees_unusable _
  | some denoted =>
      have based : Based request source denoted base :=
        ⟨plainBase, .intro plainContext accepted posed⟩
      rw [based.conversionDocument_eq]
      dsimp only
      cases converted : convert source denoted base with
      | ok document => exact agrees_success document
      | error error =>
          -- The two would not agree on a document that cannot be written.
          obtain rfl := eq_missingDirective_of_convert converted
          exact agrees_failed

end Poses

/-! ## The main statement -/

/-- A command to convert a source and a request for the same have the same result, if
the source is no longer than a body may be. A longer source is refused by the service.
Whatever its length, a command that fails prints nothing. -/
theorem convert_agrees {inputs : Inputs} {environment : Environment} {request : Service.Request}
    {file source context base : String} (read : inputs.source file = .ok source)
    (nonempty : source ≠ "") (plainContext : IsPlain context) (plainBase : IsPlain base)
    (poses : Poses request source context base) :
    ∃ response, answer? environment request = some response ∧
      ((Utf8.encode source.toList).length ≤ bodyLimit →
        Agrees ((Command.convert file context base).outcome inputs) response) ∧
      (bodyLimit < (Utf8.encode source.toList).length → response = oversizedResponse) ∧
      (((Command.convert file context base).outcome inputs).exit ≠ 0 →
        ((Command.convert file context base).outcome inputs).output = "") := by
  have outcome : (Command.convert file context base).outcome inputs =
      conversionOutcome source context base := by
    rw [Command.outcome, Command.file, read]
    rfl
  have agrees := poses.agrees nonempty plainContext plainBase
  rw [outcome, ← poses.body]
  refine ⟨_, poses.asks.answer?_eq, ?_, boundedConversionResponse_of_lt, agrees.silent⟩
  intro short
  rwa [boundedConversionResponse_of_le short]

theorem poses_shortRequest (source : String) :
    Poses (shortRequest source) source "https://schema.org/" "https://id.example/" where
  asks := asksConversion_shortRequest source
  headed := headed_shortRequest source
  body := rfl

/-- A source on the standard input. -/
def pipedInputs (source : String) : Inputs :=
  { file := fun _ => .error .missing
    standardInput := .ok source }

theorem source_pipedInputs (source : String) : (pipedInputs source).source "-" = .ok source :=
  rfl

theorem convert_agrees_on_pipedInputs :
    (pipedInputs "@startuml").source "-" = .ok "@startuml" ∧ "@startuml" ≠ "" ∧
      IsPlain "https://schema.org/" ∧ IsPlain "https://id.example/" ∧
      Poses (shortRequest "@startuml") "@startuml" "https://schema.org/" "https://id.example/" ∧
      (Utf8.encode "@startuml".toList).length ≤ bodyLimit ∧
      ∃ response, answer? emptyEnvironment (shortRequest "@startuml") = some response ∧
        response.status = 200 ∧
        ((Command.convert "-" "https://schema.org/" "https://id.example/").outcome
          (pipedInputs "@startuml")).output = response.body ++ "\n" := by
  have read := source_pipedInputs "@startuml"
  have nonempty : "@startuml" ≠ "" := by decide
  have plainContext : IsPlain "https://schema.org/" := by decide
  have plainBase : IsPlain "https://id.example/" := by decide
  have poses := poses_shortRequest "@startuml"
  have short : (Utf8.encode "@startuml".toList).length ≤ bodyLimit := by decide
  have succeeds : ((Command.convert "-" "https://schema.org/" "https://id.example/").outcome
      (pipedInputs "@startuml")).exit = 0 := by decide +kernel
  obtain ⟨response, answered, within, -, -⟩ :=
    @convert_agrees _ emptyEnvironment _ _ _ _ _ read nonempty plainContext plainBase poses
  have agrees := within short
  exact ⟨read, nonempty, plainContext, plainBase, poses, short, response, answered,
    agrees.converted.1 succeeds, agrees.document succeeds⟩

/-! ## Sources that are too long -/

/-- A source with a directive is converted on the command line, however long it is. -/
theorem exit_conversionOutcome {source context base : String} {denoted : Context}
    {before behind : List Char} (accepted : Context.ofText? context = some denoted)
    (directive : DirectiveAt source.toList before behind) :
    (conversionOutcome source context base).exit = 0 := by
  obtain ⟨kind, made⟩ := exists_documentText directive
  rw [conversionOutcome, accepted]
  dsimp only
  rw [made]
  rfl

/-- On a source with a directive that is too long they do not agree. -/
theorem Poses.not_agrees {environment : Environment} {request : Service.Request}
    {response : Response} {source context base : String} {denoted : Context}
    {before behind : List Char} (poses : Poses request source context base)
    (answered : answer? environment request = some response)
    (accepted : Context.ofText? context = some denoted)
    (directive : DirectiveAt source.toList before behind)
    (long : bodyLimit < (Utf8.encode source.toList).length) :
    ¬ Agrees (conversionOutcome source context base) response := by
  intro agrees
  have converted : response.status = 200 :=
    agrees.converted.1 (exit_conversionOutcome accepted directive)
  rw [← poses.body] at long
  rw [poses.asks.answer?_of_lt long, Option.some.injEq] at answered
  rw [← answered] at converted
  contradiction

/-- A directive with blanks behind it. Their number is left open in what is said of it,
since a source that is too long could not be evaluated. -/
def paddedSource (count : Nat) : String :=
  "@startuml" ++ String.ofList (List.replicate count ' ')

theorem toList_paddedSource (count : Nat) :
    (paddedSource count).toList = "@startuml".toList ++ List.replicate count ' ' := by
  simp only [paddedSource, String.toList_append, String.toList_ofList]

theorem directiveAt_paddedSource (count : Nat) :
    DirectiveAt (paddedSource count).toList [] (['u', 'm', 'l'] ++ List.replicate count ' ') where
  split := by
    have marked : "@startuml".toList = directiveMark ++ ['u', 'm', 'l'] := by decide
    rw [toList_paddedSource, marked, List.nil_append, List.append_assoc]
  word := ⟨'u', rfl, by decide⟩

theorem length_encode_paddedSource (count : Nat) :
    (Utf8.encode (paddedSource count).toList).length = "@startuml".length + count := by
  have ascii : ∀ char ∈ "@startuml".toList ++ List.replicate count ' ', char.toNat < 0x80 := by
    intro char member
    rcases List.mem_append.1 member with member | member
    · have all : "@startuml".toList.all (·.toNat < 0x80) = true := by decide
      exact of_decide_eq_true (List.all_eq_true.1 all char member)
    · rw [List.eq_of_mem_replicate member]
      decide
  rw [toList_paddedSource, Utf8.length_encode_of_ascii ascii, List.length_append,
    List.length_replicate, String.length_toList]

/-- So the two do not agree on all sources: a long one is converted on the command line,
and the service refuses it. -/
theorem exists_disagreement_on_long_source :
    ¬ ∀ (inputs : Inputs) (environment : Environment) (request : Service.Request)
      (file source context base : String), inputs.source file = .ok source → source ≠ "" →
        IsPlain context → IsPlain base → Poses request source context base →
        ∃ response, answer? environment request = some response ∧
          Agrees ((Command.convert file context base).outcome inputs) response := by
  intro uniform
  have directive := directiveAt_paddedSource bodyLimit
  have read := source_pipedInputs (paddedSource bodyLimit)
  have nonempty : paddedSource bodyLimit ≠ "" := by
    intro empty
    rw [empty] at directive
    exact not_directiveAt_nil directive
  have long : bodyLimit < (Utf8.encode (paddedSource bodyLimit).toList).length := by
    rw [length_encode_paddedSource]
    exact Nat.lt_add_of_pos_left (by decide)
  have poses := poses_shortRequest (paddedSource bodyLimit)
  obtain ⟨response, answered, agrees⟩ := uniform (pipedInputs (paddedSource bodyLimit))
    emptyEnvironment _ "-" _ _ _ read nonempty (by decide) (by decide) poses
  have accepted : Context.ofText? "https://schema.org/" = some (.iri "https://schema.org/") := rfl
  rw [Command.outcome, Command.file, read] at agrees
  exact poses.not_agrees answered accepted directive long agrees

end DiagramGraph.CommandLine
