import Mathlib
import Reckoner.Loop
import Reckoner.Proofs.Evaluator.Closure
import Reckoner.Proofs.Expr.Rendering
import Reckoner.Settings

/-! The interactive loop. Whatever keeps a line from being read or reduced is told to the user and
the loop goes on, each line answered without regard to the others. Only the display of a result
can end the loop: rounding to the shown digits may carry a decimal out of the range in which the
evaluator still holds it. -/

namespace Reckoner

namespace Evaluator

variable {ev : Evaluator}

/-- With the standard functions, a source that has no reduction leads to a complaint. -/
theorem exists_complaint (standard : ev.functions = .standard) {source : String} {error : RunError}
    (h : ev.reduce source = .error error) : ∃ complaint, error.complaint? = some complaint := by
  rw [reduce] at h
  rcases bind_eq_error.mp h with unread | ⟨parsed, read, h⟩
  · obtain ⟨issues, -, rfl⟩ := mapError_eq_error.mp unread
    exact ⟨_, rfl⟩
  · rcases bind_eq_error.mp h with failed | ⟨reduced, -, h⟩
    · obtain ⟨cause, evaluation, rfl⟩ := mapError_eq_error.mp failed
      have fits := Source.read_fits ev.context_spans (mapError_eq_ok.mp read)
      have admissible := ev.evaluate_admissible (standard ▸ standard_closed ev.context_spans) fits
      rw [evaluation] at admissible
      cases admissible with | error coded =>
      obtain ⟨code, known⟩ := Option.isSome_iff_exists.mp coded
      exact ⟨_, by rw [RunError.complaint?, known]; rfl⟩
    · cases h

theorem run_eq (ev : Evaluator) (source : String) :
    ev.run source = ev.reduce source >>= fun reduction =>
      (ev.render reduction.2).mapError .display >>= fun text => pure (reduction.2, text) := rfl

theorem run_of_render {source text : String} {parsed tree : Expr}
    (reduced : ev.reduce source = .ok (parsed, tree)) (rendered : ev.render tree = .ok text) :
    ev.run source = .ok (tree, text) := by
  rw [run_eq, reduced]
  exact bind_eq_ok.mpr ⟨(parsed, tree), rfl,
    bind_eq_ok.mpr ⟨text, mapError_eq_ok.mpr rendered, rfl⟩⟩

theorem run_of_reduce_error {source : String} {error : RunError}
    (h : ev.reduce source = .error error) : ev.run source = .error error := by
  rw [run_eq, h]
  rfl

end Evaluator

namespace Loop

/-- A line whose result is too large to be shown. -/
def Overruns (settings : Settings) (width : 0 < settings.displayDigits) (line : String) : Prop :=
  ∃ parsed result, settings.evaluator.reduce line = .ok (parsed, result) ∧
    ¬result.Every (Value.Shown settings.displayDigits width)

/-- What a line of its own adds to the channels: nothing when it is blank, and else either its
result or what is wrong with it. -/
inductive Answers (ev : Evaluator) (line : String) : Output → Prop where
  | blank (h : (Text.strip line).isEmpty) : Answers ev line {}
  | result (h : ¬(Text.strip line).isEmpty) {tree : Expr} {text : String}
      (done : ev.run line = .ok (tree, text)) : Answers ev line { out := text ++ "\n" }
  | complaint (h : ¬(Text.strip line).isEmpty) {error : RunError} {complaint : Complaint}
      (failed : ev.run line = .error error) (told : error.complaint? = some complaint) :
      Answers ev line (.ofComplaint complaint)

theorem run_lines (ev : Evaluator) (lines : List String) (rest : List Event) :
    run ev (lines.map .line ++ .closed :: rest) =
      (lines.mapM (step ev)).map fun outputs => (outputs ++ [{ out := "\n" }], true) := by
  induction lines with
  | nil => rfl
  | cons line lines ih =>
    rw [List.map_cons, List.cons_append, run, ih, List.mapM_cons]
    cases step ev line with
    | error cause => rfl
    | ok output => cases lines.mapM (step ev) <;> rfl

section Settings

variable {settings : Settings} {width : 0 < settings.displayDigits} {line : String}

theorem not_overruns_of_blank (h : (Text.strip line).isEmpty) : ¬Overruns settings width line := by
  rintro ⟨parsed, result, reduced, -⟩
  obtain ⟨tree, read, -⟩ := bind_eq_ok.mp reduced
  have nothing : Text.trimBy Text.isBlank line.toList = [] := by
    simpa [Text.strip] using h
  rw [mapError_eq_ok, Source.read, nothing] at read
  cases read

theorem run_of_overruns (h : Overruns settings width line) :
    settings.evaluator.run line = .error (.display (.signal .overflow)) := by
  obtain ⟨parsed, result, reduced, large⟩ := h
  have shown := (result.print_succeeds width).eq_error large
  rw [Evaluator.run_eq, reduced]
  show ((result.print settings.displayDigits).mapError RunError.display >>= fun text =>
    pure (result, text)) = _
  rw [shown]
  rfl

theorem step_of_overruns (h : Overruns settings width line) :
    step settings.evaluator line = .error (.display (.signal .overflow)) := by
  rw [step, if_neg fun blank => not_overruns_of_blank blank h, Evaluator.respond, run_of_overruns h]
  rfl

/-- Any other line has a result or a complaint. -/
theorem run_told (h : ¬Overruns settings width line) :
    (∃ tree text, settings.evaluator.run line = .ok (tree, text)) ∨
      ∃ error complaint, settings.evaluator.run line = .error error ∧
        error.complaint? = some complaint := by
  cases reduction : settings.evaluator.reduce line with
  | error error =>
    obtain ⟨complaint, told⟩ := Evaluator.exists_complaint rfl reduction
    exact .inr ⟨error, complaint, Evaluator.run_of_reduce_error reduction, told⟩
  | ok pair =>
    have shown : pair.2.Every (Value.Shown settings.displayDigits width) :=
      not_not.mp fun large => h ⟨pair.1, pair.2, reduction, large⟩
    obtain ⟨text, rendered⟩ := (pair.2.print_succeeds width).exists_ok shown
    exact .inl ⟨pair.2, text, Evaluator.run_of_render reduction rendered⟩

theorem exists_step (h : ¬Overruns settings width line) :
    ∃ output, step settings.evaluator line = .ok output ∧
      Answers settings.evaluator line output := by
  by_cases blank : (Text.strip line).isEmpty
  · exact ⟨{}, by rw [step, if_pos blank], .blank blank⟩
  rw [step, if_neg blank, Evaluator.respond]
  rcases run_told h with ⟨tree, text, done⟩ | ⟨error, complaint, failed, told⟩
  · refine ⟨{ out := text ++ "\n" }, ?_, .result blank done⟩
    rw [done]
    rfl
  · refine ⟨.ofComplaint complaint, ?_, .complaint blank failed told⟩
    rw [failed]
    dsimp only
    rw [told]
    rfl

theorem step_succeeds (settings : Settings) (width : 0 < settings.displayDigits) (line : String) :
    SucceedsIff (¬Overruns settings width line) (RunError.display (.signal .overflow))
      (step settings.evaluator line) := by
  by_cases h : Overruns settings width line
  · rw [step_of_overruns h]
    exact .error (not_not.mpr h)
  · obtain ⟨output, printed, -⟩ := exists_step h
    rw [printed]
    exact .ok h output

end Settings

/-- A source has a result or a complaint, unless its result is too large to be shown; and until
the input is closed the loop answers every line by itself, or ends with the overflow of the display
at a line with such a result. -/
theorem run_answers (settings : Settings) (width : 0 < settings.displayDigits) :
    (∀ source, (∃ tree text, settings.evaluator.run source = .ok (tree, text)) ∨
      (∃ error complaint, settings.evaluator.run source = .error error ∧
        error.complaint? = some complaint) ∨
      Overruns settings width source ∧
        settings.evaluator.run source = .error (.display (.signal .overflow))) ∧
    ∀ (lines : List String) (rest : List Event),
      ((∀ line ∈ lines, ¬Overruns settings width line) → ∃ outputs,
        run settings.evaluator (lines.map .line ++ .closed :: rest) =
          .ok (outputs ++ [{ out := "\n" }], true) ∧
        List.Forall₂ (Answers settings.evaluator) lines outputs) ∧
      ((∃ line ∈ lines, Overruns settings width line) →
        run settings.evaluator (lines.map .line ++ .closed :: rest) =
          .error (.display (.signal .overflow))) := by
  refine ⟨fun source => ?_, fun lines rest => ⟨fun within => ?_, fun ⟨line, inside, large⟩ => ?_⟩⟩
  · by_cases h : Overruns settings width source
    · exact .inr (.inr ⟨h, run_of_overruns h⟩)
    · exact (run_told h).imp_right .inl
  · obtain ⟨outputs, steps, answers⟩ := exists_mapM fun line h => exists_step (within line h)
    exact ⟨outputs, by rw [run_lines, steps]; rfl, answers⟩
  · have failed := (SucceedsIff.mapM fun line _ => step_succeeds settings width line).eq_error
      fun within => within line inside large
    rw [run_lines, failed]
    rfl

/-- One line in three that the default settings cannot show. -/
theorem run_answers_large :
    0 < ({} : Settings).displayDigits ∧
    (∃ outputs, run ({} : Settings).evaluator [.line "1/3", .line "1.0/0", .closed] =
        .ok (outputs ++ [{ out := "\n" }], true) ∧
      List.Forall₂ (Answers ({} : Settings).evaluator) ["1/3", "1.0/0"] outputs) ∧
    run ({} : Settings).evaluator
        [.line "1/3", .line "9.999999999e999999999999999999", .line "1.0/0", .closed] =
      .error (.display (.signal .overflow)) := by
  have width : 0 < ({} : Settings).displayDigits := by decide
  have third : step ({} : Settings).evaluator "1/3" = .ok { out := "1/3\n" } := by decide +kernel
  have zero : step ({} : Settings).evaluator "1.0/0" =
      .ok { err := "Error: division by zero\n" } := by decide +kernel
  have large : step ({} : Settings).evaluator "9.999999999e999999999999999999" =
      .error (.display (.signal .overflow)) := by decide +kernel
  have within : ∀ line ∈ ["1/3", "1.0/0"], ¬Overruns {} width line := by
    intro line inside overruns
    have failed := step_of_overruns overruns
    rcases List.mem_pair.mp inside with rfl | rfl
    · cases third.symm.trans failed
    · cases zero.symm.trans failed
  have overruns : Overruns {} width "9.999999999e999999999999999999" := by
    by_contra h
    obtain ⟨output, printed, -⟩ := exists_step h
    cases large.symm.trans printed
  exact ⟨width, ((run_answers {} width).2 ["1/3", "1.0/0"] []).1 within,
    ((run_answers {} width).2 ["1/3", "9.999999999e999999999999999999", "1.0/0"] []).2
      ⟨_, by simp, overruns⟩⟩

/-- A decimal of the evaluator at the end of its range ends the loop. -/
theorem not_run_ok_of_large : ¬∃ printed,
    run ({} : Settings).evaluator [.line "9.999999999e999999999999999999", .closed] =
      .ok printed := by
  have failed : run ({} : Settings).evaluator
      [.line "9.999999999e999999999999999999", .closed] =
        .error (.display (.signal .overflow)) := by decide +kernel
  rintro ⟨printed, h⟩
  cases failed.symm.trans h

end Loop

end Reckoner
