import Mathlib
import Reckoner.Proofs.Expr.Regrouping
import Reckoner.Proofs.Loop
import Reckoner.Proofs.Settings
import Reckoner.Proofs.Text.Trimming
import Reckoner.Service.Routing

/-! The service and the command line on one expression. A request that is valid is answered with
the result of a run under its settings or with what the run complains of. The service shows the
tree that was read, too, so it may fail to show anything where the run succeeds. -/

namespace Reckoner

/-- Blanks that a payload is stripped of are blanks of a source. -/
theorem Source.read_trimWhiteSpace (ctx : Context) (text : String) :
    read ctx (Text.trimWhiteSpace text) = read ctx text := by
  rw [read, read, Text.trimWhiteSpace, String.toList_ofList,
    Text.trimBy_trimBy fun _ => Text.isBlank_of_isWhiteSpace]

theorem Evaluator.reduce_trimWhiteSpace (ev : Evaluator) (text : String) :
    ev.reduce (Text.trimWhiteSpace text) = ev.reduce text := by
  rw [reduce, reduce, Source.read_trimWhiteSpace]

theorem Expr.exists_exact_of_kind {e : Expr} (h : e.kind = .exact) :
    ∃ q, e = .constant (.exact q) := by
  cases e with
  | constant v =>
    cases v with
    | exact q => exact ⟨q, rfl⟩
    | decimal d => cases h
  | symbol | binary | neg | apply => cases h

/-- An exact number is written the same in every width. -/
theorem Expr.print_exact {digits : ℤ} (width : ¬digits < 1) (q : ℚ) :
    (Expr.constant (.exact q)).print digits = .ok (Value.displayExact q) := by
  have plain : decide ((Value.exact q).precedence.rank < Precedence.none.rank) = false :=
    decide_eq_false (Nat.not_lt_zero _)
  rw [print, if_neg width, textAt, plain]
  exact congrArg Except.ok String.ofList_toList

namespace Service

namespace Payload

theorem displayDigitsOf_pos {value : Json} {n : ℕ} (h : displayDigitsOf value = .ok n) : 0 < n := by
  obtain ⟨z, -, h⟩ := bind_eq_ok.mp h
  by_cases small : z < 1
  · rw [if_pos small] at h
    cases h
  · rw [if_neg small] at h
    by_cases large : (maxDisplayDigits : ℤ) < z
    · simp only [if_pos large] at h
      cases h
    · simp only [if_neg large] at h
      cases h
      omega

theorem checkDisplayDigits_pos {entry : Option Json} {digits : Option ℕ}
    (h : checkDisplayDigits entry = .ok digits) : ∀ n ∈ digits, 0 < n := by
  unfold checkDisplayDigits at h
  split at h
  · cases h
    exact nofun
  · cases h
    exact nofun
  · split at h
    next n within =>
      cases h
      intro m same
      obtain rfl : n = m := Option.some.inj same
      exact displayDigitsOf_pos within
    next => cases h

/-- What a valid payload asks for: its expression without white space at the ends, and any number
of digits but none. -/
theorem validate_eq_ok {document : Json} {text : String} {payload : Payload}
    (given : document.member? expressionKey = some (.string text))
    (h : validate document = .ok payload) :
    payload.expression = Text.trimWhiteSpace text ∧ ∀ n ∈ payload.displayDigits, 0 < n := by
  cases document with
  | object members =>
    have present : (Json.object members).isFalsy = false := by
      cases members with
      | nil => cases given
      | cons first rest => rfl
    simp only [validate, present, Bool.false_eq_true, if_false, given, checkExpression] at h
    split at h
    next stripped _ found _ =>
      cases stripped
      cases h
      exact ⟨rfl, checkDisplayDigits_pos found⟩
    next => cases h
  | null | bool | integer | real | string | array => cases given

end Payload

/-- What a client is told of a failed run. -/
def told (complaint : Complaint) : Json :=
  let errors := complaint.issues.map fun issue =>
    Json.object [("column", .integer issue.column), ("message", .string issue.message)]
  .object [("success", .bool false), ("error", .object (
    [("code", .string complaint.code), ("message", .string complaint.message)] ++
      if errors.isEmpty then [] else [("details", .object [("errors", .array errors)])]))]

/-- The data of an answer report a result: its text, its kind, and the terms of an exact one, which
are the text again. -/
structure Reports (tree : Expr) (text : String) (data : Json) : Prop where
  result : data.member? "result" = some (.string text)
  kind : data.member? "kind" = some (.string tree.kind.name)
  terms : ∀ q, tree = .constant (.exact q) → ∃ (n : ℤ) (d : ℕ),
    data.member? "numerator" = some (.string (toString n)) ∧
    data.member? "denominator" = some (.string (toString d)) ∧
    0 < d ∧ n.natAbs.Coprime d ∧ q = n / d ∧
    text = if d = 1 then toString n else toString n ++ "/" ++ toString d

/-- A source whose tree or result is too large to be shown. -/
def Unshown (settings : Settings) (width : 0 < settings.displayDigits) (source : String) : Prop :=
  ∃ parsed result, settings.evaluator.reduce source = .ok (parsed, result) ∧
    ¬(parsed.Every (Value.Shown settings.displayDigits width) ∧
      result.Every (Value.Shown settings.displayDigits width))

/-- The answers to a source, by their status. -/
inductive Answered (settings : Settings) (width : 0 < settings.displayDigits) (source : String) :
    Int × Json → Prop where
  | result {tree : Expr} {text : String} {data : Json}
    (done : settings.evaluator.run source = .ok (tree, text))
    (shown : ¬Unshown settings width source) (reports : Reports tree text data) :
    Answered settings width source (200, .object [("success", .bool true), ("data", data)])
  | complaint {error : RunError} {complaint : Complaint}
    (failed : settings.evaluator.run source = .error error)
    (known : error.complaint? = some complaint) : Answered settings width source (400, told complaint)
  | unshown (h : Unshown settings width source) {body : Json} :
    Answered settings width source (500, body)

theorem envelope_refusal {error : RunError} {complaint : Complaint}
    (known : error.complaint? = some complaint) :
    envelope (.error (Application.refusal error)) = (400, told complaint) := by
  rw [Application.refusal, known]
  obtain ⟨code, message, issues⟩ := complaint
  cases issues <;> rfl

theorem reports_answer {settings : Settings} {tree : Expr} {text : String}
    (width : 0 < settings.displayDigits) (rendered : settings.evaluator.render tree = .ok text)
    (input : String) :
    Reports tree text (.object ([("input", .string input), ("result", .string text),
      ("kind", .string tree.kind.name),
      ("precision", .integer settings.evaluator.precision.digits),
      ("rounding", .string settings.evaluator.rounding.name)] ++ Application.terms tree)) := by
  refine ⟨rfl, rfl, ?_⟩
  rintro q rfl
  have positive : ¬(settings.displayDigits : ℤ) < 1 := by omega
  have spelled := rendered.symm.trans (Expr.print_exact positive q)
  exact ⟨q.num, q.den, rfl, rfl, q.den_pos, q.reduced, (Rat.num_div_den q).symm,
    Except.ok.inj spelled⟩

section Answer

variable {settings : Settings} {width : 0 < settings.displayDigits} {source : String}
  {parsed tree : Expr} {answer : Int × Json}

theorem answer_shown (reduced : settings.evaluator.reduce source = .ok (parsed, tree))
    (input : parsed.Every (Value.Shown settings.displayDigits width))
    (result : tree.Every (Value.Shown settings.displayDigits width)) :
    Answered settings width source (envelope (Application.answer settings source)) := by
  obtain ⟨read, renderedInput⟩ := (parsed.print_succeeds width).exists_ok input
  obtain ⟨text, rendered⟩ := (tree.print_succeeds width).exists_ok result
  replace renderedInput : settings.evaluator.render parsed = .ok read := renderedInput
  replace rendered : settings.evaluator.render tree = .ok text := rendered
  have done := Evaluator.run_of_render reduced rendered
  have shown : ¬Unshown settings width source := by
    rintro ⟨parsed', tree', reduced', large⟩
    cases reduced.symm.trans reduced'
    exact large ⟨input, result⟩
  obtain ⟨data, answered, reports⟩ :
      ∃ data, Application.answer settings source = .ok data ∧ Reports tree text data := by
    refine ⟨_, ?_, reports_answer width rendered read⟩
    rw [Application.answer, reduced]
    exact bind_eq_ok.mpr ⟨(parsed, tree), rfl,
      bind_eq_ok.mpr ⟨read, mapError_eq_ok.mpr renderedInput,
        bind_eq_ok.mpr ⟨text, mapError_eq_ok.mpr rendered, rfl⟩⟩⟩
  rw [answered]
  exact .result done shown reports

theorem answer_unshown (h : Unshown settings width source) :
    Application.answer settings source = .error .unforeseen := by
  obtain ⟨parsed, tree, reduced, large⟩ := h
  -- The tree comes first, so the result may be all right and still not be told.
  have failed {e : Expr} (large : ¬e.Every (Value.Shown settings.displayDigits width)) :
      (settings.evaluator.render e).mapError (fun _ => Failure.unforeseen) = .error .unforeseen :=
    mapError_eq_error.mpr ⟨_, (e.print_succeeds width).eq_error large, rfl⟩
  rw [Application.answer, reduced]
  refine bind_eq_error.mpr (.inr ⟨(parsed, tree), rfl, ?_⟩)
  by_cases input : parsed.Every (Value.Shown settings.displayDigits width)
  · obtain ⟨read, rendered⟩ := (parsed.print_succeeds width).exists_ok input
    refine bind_eq_error.mpr (.inr ⟨read, mapError_eq_ok.mpr rendered, bind_eq_error.mpr (.inl ?_)⟩)
    exact failed fun result => large ⟨input, result⟩
  · exact bind_eq_error.mpr (.inl (failed input))

/-- A source that can be reduced is answered with its result, or with nothing of it where the tree or
the result cannot be shown. -/
theorem answered (settings : Settings) (width : 0 < settings.displayDigits) (source : String) :
    Answered settings width source (envelope (Application.answer settings source)) := by
  by_cases large : Unshown settings width source
  · rw [answer_unshown large]
    exact .unshown large
  cases reduction : settings.evaluator.reduce source with
  | ok pair =>
    obtain ⟨parsed, tree⟩ := pair
    obtain ⟨input, result⟩ := not_not.mp fun h => large ⟨parsed, tree, reduction, h⟩
    exact answer_shown reduction input result
  | error error =>
    obtain ⟨complaint, known⟩ := Evaluator.exists_complaint rfl reduction
    have refused : Application.answer settings source = .error (Application.refusal error) := by
      rw [Application.answer, reduction]
      rfl
    rw [refused, envelope_refusal known]
    exact .complaint (Evaluator.run_of_reduce_error reduction) known

/-- What is read and reduced but not shown is no complaint. -/
theorem Unshown.no_complaint (h : Unshown settings width source) {error : RunError}
    (failed : settings.evaluator.run source = .error error) : error.complaint? = none := by
  obtain ⟨parsed, tree, reduced, -⟩ := h
  rw [Evaluator.run_eq, reduced] at failed
  rcases bind_eq_error.mp failed with impossible | ⟨pair, -, failed⟩
  · cases impossible
  · rcases bind_eq_error.mp failed with display | ⟨text, -, impossible⟩
    · obtain ⟨cause, -, rfl⟩ := mapError_eq_error.mp display
      rfl
    · cases impossible

/-- The kinds of answer exclude each other: a run ends in one way, and what has a complaint is not
reduced. -/
theorem Answered.status_iff (h : Answered settings width source answer) :
    answer.1 = 200 ↔ (∃ tree text, settings.evaluator.run source = .ok (tree, text)) ∧
      ¬Unshown settings width source := by
  cases h with
  | result done shown => exact ⟨fun _ => ⟨⟨_, _, done⟩, shown⟩, fun _ => rfl⟩
  | complaint failed =>
    refine ⟨nofun, ?_⟩
    rintro ⟨⟨tree, text, done⟩, -⟩
    cases failed.symm.trans done
  | unshown large => exact ⟨nofun, fun other => absurd large other.2⟩

theorem Answered.reports (h : Answered settings width source answer) {text : String}
    (done : settings.evaluator.run source = .ok (tree, text))
    (shown : ¬Unshown settings width source) :
    ∃ data, some answer.2 = some (.object [("success", .bool true), ("data", data)]) ∧
      Reports tree text data := by
  cases h with
  | result done' _ reports =>
    cases done.symm.trans done'
    exact ⟨_, rfl, reports⟩
  | complaint failed => cases failed.symm.trans done
  | unshown large => exact absurd large shown

theorem Answered.told (h : Answered settings width source answer) {error : RunError}
    {complaint : Complaint} (failed : settings.evaluator.run source = .error error)
    (known : error.complaint? = some complaint) :
    answer.1 = 400 ∧ some answer.2 = some (told complaint) := by
  cases h with
  | result done => cases failed.symm.trans done
  | complaint failed' known' =>
    cases failed.symm.trans failed'
    cases known.symm.trans known'
    exact ⟨rfl, rfl⟩
  | unshown large => cases known.symm.trans (large.no_complaint failed)

theorem Answered.unshown_iff (h : Answered settings width source answer) :
    answer.1 = 500 ↔ Unshown settings width source := by
  cases h with
  | result _ shown => exact ⟨nofun, fun large => absurd large shown⟩
  | complaint failed known =>
    refine ⟨nofun, fun large => ?_⟩
    cases known.symm.trans (large.no_complaint failed)
  | unshown large => exact ⟨fun _ => large, fun _ => rfl⟩

end Answer

/-- The text in the document of a request, and the payload that the document is valid as. -/
def asked? (request : Request) : Option (String × Payload) := do
  let document ← request.document.toOption
  let payload ← (Payload.validate document).toOption
  match document.member? Payload.expressionKey with
  | some (.string text) => some (text, payload)
  | _ => none

theorem exists_document {request : Request} {text : String} {payload : Payload}
    (h : asked? request = some (text, payload)) :
    ∃ document, request.document = .ok document ∧ Payload.validate document = .ok payload ∧
      document.member? Payload.expressionKey = some (.string text) := by
  have found {ε α : Type} {r : Except ε α} {a : α} (h : r.toOption = some a) : r = .ok a := by
    cases r with
    | ok b => exact congrArg _ (Option.some.inj h)
    | error e => cases h
  obtain ⟨document, read, h⟩ := Option.bind_eq_some_iff.mp h
  obtain ⟨payload', valid, h⟩ := Option.bind_eq_some_iff.mp h
  split at h
  next given =>
    cases h
    exact ⟨document, found read, found valid, given⟩
  next => cases h

/-- A valid request to evaluate a text. -/
structure Asks (request : Request) (text : String) (payload : Payload) : Prop where
  method : request.method = "POST"
  path : request.path = Resource.interface ++ "/evaluate"
  document : asked? request = some (text, payload)

namespace Application

variable {app : Application} {settings : Settings} {request : Request} {text : String}
  {payload : Payload}

theorem evaluate_eq (configured : app.settings = .ok settings)
    (short : payload.expression.length ≤ settings.maxExpressionLength) :
    app.evaluate payload = answer (payload.adjust settings) payload.expression := by
  rw [evaluate, configured]
  exact if_neg (not_lt.mpr short)

theorem respond_eq (app : Application) (fresh : String) (asks : Asks request text payload) :
    let answer := envelope (app.evaluate payload)
    (app.respond fresh request).status = answer.1 ∧
      (app.respond fresh request).body = some answer.2 := by
  obtain ⟨document, read, valid, -⟩ := exists_document asks.document
  have target : Target.find (Resource.interface ++ "/evaluate") "POST" = .resource .evaluate := by
    decide +kernel
  have evaluated : (request.document >>= app.evaluateDocument) = app.evaluate payload := by
    rw [read]
    show app.evaluateDocument document = _
    rw [evaluateDocument, valid]
  have method : String.ofList ("POST".toList.map Char.toUpper) = "POST" := by decide +kernel
  have handled : app.handle request =
      ((envelope (app.evaluate payload)).1, some (envelope (app.evaluate payload)).2, jsonType) := by
    rw [handle, asks.method, asks.path, method, target, evaluated]
    rfl
  rw [respond, handled]
  exact ⟨rfl, rfl⟩

/-- A valid request is answered as its text runs under its settings: with the result of the run, and
the terms of one that is exact, or with what the run complains of. Nothing is answered where the
tree that was read or the result is too large to be shown, and in no other case. -/
theorem respond_as_run (app : Application) (fresh : String) (configured : app.settings = .ok settings)
    (asks : Asks request text payload)
    (short : (Text.trimWhiteSpace text).length ≤ settings.maxExpressionLength) :
    let own := payload.adjust settings
    let response := app.respond fresh request
    ∃ width : 0 < own.displayDigits,
      (response.status = 200 ↔ (∃ tree result, own.evaluator.run text = .ok (tree, result)) ∧
        ¬Unshown own width text) ∧
      (∀ tree result, own.evaluator.run text = .ok (tree, result) → ¬Unshown own width text →
        ∃ data, response.body = some (.object [("success", .bool true), ("data", data)]) ∧
          Reports tree result data) ∧
      (∀ error complaint, own.evaluator.run text = .error error →
        error.complaint? = some complaint →
          response.status = 400 ∧ response.body = some (told complaint)) ∧
      (response.status = 500 ↔ Unshown own width text) := by
  intro own response
  obtain ⟨document, -, valid, given⟩ := exists_document asks.document
  obtain ⟨expression, digits⟩ := Payload.validate_eq_ok given valid
  have width : 0 < own.displayDigits := by
    show 0 < payload.displayDigits.getD settings.displayDigits
    cases asked : payload.displayDigits with
    | none => exact Settings.load_displayDigits (mapError_eq_ok.mp configured)
    | some n => exact digits n asked
  -- The payload has lost its white space, the reader would have dropped more than that.
  have evaluated : app.evaluate payload = answer own text := by
    rw [evaluate_eq configured (by rwa [expression]), expression, answer, answer,
      Evaluator.reduce_trimWhiteSpace]
  obtain ⟨status, body⟩ := respond_eq app fresh asks
  rw [evaluated] at status body
  have outcome := answered own width text
  rw [status, body]
  exact ⟨width, outcome.status_iff, fun tree result done shown => outcome.reports done shown,
    fun error complaint failed known => outcome.told failed known, outcome.unshown_iff⟩

/-- A fraction between blanks, with four digits for decimals. -/
theorem respond_as_run_fraction :
    let app : Application := { site := .null, calculator := .null, plugins := [calculatorPlugin] }
    let request : Request :=
      { method := "POST"
        path := "/api/precise_calculator/evaluate"
        contentType := "application/json"
        body := "\x7b\"expression\": \" 2/6\\n\", \"display_digits\": 4\x7d" }
    app.settings = .ok {} ∧ Asks request " 2/6\n" { expression := "2/6", displayDigits := some 4 } ∧
      (Text.trimWhiteSpace " 2/6\n").length ≤ ({} : Settings).maxExpressionLength ∧
      (app.respond "" request).status = 200 ∧ ∃ data,
        (app.respond "" request).body = some (.object [("success", .bool true), ("data", data)]) ∧
          Reports (.constant (.exact (1 / 3))) "1/3" data := by
  intro app request
  have asks : Asks request " 2/6\n" { expression := "2/6", displayDigits := some 4 } :=
    ⟨rfl, rfl, by decide +kernel⟩
  have short : (Text.trimWhiteSpace " 2/6\n").length ≤ ({} : Settings).maxExpressionLength := by
    decide +kernel
  have status : (app.respond "" request).status = 200 := by decide +kernel
  have value : (({ displayDigits := 4 } : Settings).evaluator.run " 2/6\n").map
      (fun pair => (pair.1.kind, pair.1.denote (·.number.rat) 0, pair.2)) =
        .ok (.exact, some (1 / 3), "1/3") := by decide +kernel
  obtain ⟨width, succeeds, reports, -⟩ := respond_as_run app "" rfl asks short
  obtain ⟨⟨tree, text, done⟩, shown⟩ := succeeds.mp status
  obtain ⟨data, body, reported⟩ := reports tree text done shown
  refine ⟨rfl, asks, short, status, data, body, ?_⟩
  obtain ⟨pair, done', same⟩ := map_eq_ok.mp value
  cases done.symm.trans done'
  obtain ⟨kind, same⟩ := Prod.mk.inj same
  obtain ⟨denoted, rfl⟩ := Prod.mk.inj same
  obtain ⟨q, rfl⟩ := Expr.exists_exact_of_kind kind
  obtain rfl : q = 1 / 3 := Option.some.inj denoted
  exact reported

/-- A product with zero that runs to zero, though its first factor cannot be shown. -/
theorem not_respond_of_unshown :
    ¬∀ (app : Application) (settings : Settings) (request : Request) (text : String)
      (payload : Payload), app.settings = .ok settings → Asks request text payload →
        (Text.trimWhiteSpace text).length ≤ settings.maxExpressionLength →
          (∃ tree result, (payload.adjust settings).evaluator.run text = .ok (tree, result)) →
            (app.respond "" request).status = 200 := by
  intro claim
  have run : (({} : Settings).evaluator.run "9.999999999e999999999999999999*0").map (·.2) =
      .ok "0" := by decide +kernel
  have asks : Asks
      { method := "POST"
        path := "/api/precise_calculator/evaluate"
        contentType := "application/json"
        body := "\x7b\"expression\": \"9.999999999e999999999999999999*0\"\x7d" }
      "9.999999999e999999999999999999*0" { expression := "9.999999999e999999999999999999*0" } :=
    ⟨rfl, rfl, by decide +kernel⟩
  have status := claim { site := .null, calculator := .null, plugins := [calculatorPlugin] } {} _ _ _
    rfl asks (by decide +kernel) (by
      obtain ⟨pair, done, -⟩ := map_eq_ok.mp run
      exact ⟨pair.1, pair.2, done⟩)
  exact absurd status (by decide +kernel)

end Application

end Service

end Reckoner
