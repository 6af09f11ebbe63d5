import Mathlib.Tactic.Lemma
import PolySurvey.Settings.Entry
import PolySurvey.Survey.Session

/-!
# Kept points are invisible

A session keeps the points it has found, and a survey finds them anew for each command. Run on the
same commands, both give the same answers. The invariant is `Session.Coherent`: it holds of every
session that has just been opened, one lemma says that a command keeps it and is answered as the
survey answers it, and an induction on the commands carries both through a whole run.
-/

namespace PolySurvey

/-- The answers of a survey to commands, one after the other, and the survey after them. -/
def Survey.run (s : Survey) : List Command → List Reply × Survey
  | [] => ([], s)
  | command :: commands =>
    let (reply, s) := s.step command
    let (replies, s) := run s commands
    (reply :: replies, s)

/-- The first command is answered first, and the others by the survey after it. -/
lemma Survey.run_cons (s : Survey) (command : Command) (commands : List Command) :
    s.run (command :: commands) =
      ((s.step command).1 :: ((s.step command).2.run commands).1,
        ((s.step command).2.run commands).2) := rfl

namespace Session

/-- The answers of a session to commands, one after the other, and the session after them. -/
def run (s : Session) : List Command → List Reply × Session
  | [] => ([], s)
  | command :: commands =>
    let (reply, s) := s.step command
    let (replies, s) := run s commands
    (reply :: replies, s)

/-- The first command is answered first, and the others by the session after it. -/
lemma run_cons (s : Session) (command : Command) (commands : List Command) :
    s.run (command :: commands) =
      ((s.step command).1 :: ((s.step command).2.run commands).1,
        ((s.step command).2.run commands).2) := rfl

/-- How a session is opened. -/
inductive Opened : Session → Prop where
  /-- On an expression, with the default settings. -/
  | expression {expression polynomial} :
    Polynomial.parse expression .overwrite = .ok polynomial →
    Opened (ofSurvey (.ofPolynomial polynomial))
  /-- On a polynomial, with the default settings. -/
  | polynomial (polynomial : Polynomial) :
    Opened (ofSurvey (.ofPolynomial polynomial))
  /-- On the expression of settings, with the survey that they ask for. -/
  | settings {settings : Settings} {survey} :
    settings.survey = .ok survey →
    Opened (ofSurvey survey)

/-- A session that has just been opened keeps nothing, so nothing wrong. -/
lemma Opened.coherent {s : Session} (h : s.Opened) : s.Coherent := by
  cases h with
  | expression _ => exact coherent_ofSurvey _
  | polynomial _ => exact coherent_ofSurvey _
  | settings _ => exact coherent_ofSurvey _

/-- An expression that cannot be read leaves the session as it is, its kept points included. -/
lemma step_setExpression_of_error {s : Session} {expression : String} {e : TermError}
    (h : s.survey.withExpression expression = .error e) :
    s.step (.setExpression expression) = (.refused e, s) := by
  simp only [step, h]

/-- A command is answered as the survey answers it, and leaves behind what the survey leaves behind. -/
lemma Coherent.step {s : Session} (hs : s.Coherent) (command : Command) :
    (s.step command).1 = (s.survey.step command).1 ∧
      (s.step command).2.survey = (s.survey.step command).2 ∧
      (s.step command).2.Coherent := by
  cases command with
  | setExpression expression =>
    cases h : s.survey.withExpression expression with
    | ok survey =>
      simp only [Session.step, Survey.step, h]
      exact ⟨trivial, rfl, coherent_ofSurvey survey⟩
    | error e =>
      rw [step_setExpression_of_error h]
      simp only [Survey.step, h]
      exact ⟨trivial, trivial, hs⟩
  | derive => exact ⟨rfl, rfl, coherent_ofSurvey _⟩
  | zeroPoints =>
    obtain ⟨points, survey, coherent⟩ := hs.zeroPoints
    exact ⟨congrArg Reply.points points, survey, coherent⟩
  | extremePoints =>
    obtain ⟨points, survey, coherent⟩ := hs.extremePoints
    exact ⟨congrArg Reply.points points, survey, coherent⟩
  | evaluate x => exact ⟨rfl, rfl, hs⟩
  | degree => exact ⟨rfl, rfl, hs⟩
  | functionText => exact ⟨rfl, rfl, hs⟩
  | report =>
    obtain ⟨report, survey, coherent⟩ := hs.report
    exact ⟨congrArg Reply.report report, survey, coherent⟩
  | invalidate => exact ⟨rfl, rfl, coherent_ofSurvey _⟩
  | setDomain domain => exact ⟨rfl, rfl, coherent_ofSurvey _⟩
  | setRefinement refinement limits => exact ⟨rfl, rfl, coherent_ofSurvey _⟩
  | setCollapse collapse => exact ⟨rfl, rfl, coherent_ofSurvey _⟩
  | setMerge merge =>
    -- The kept points stay, and the points of a survey do not depend on its merge policy.
    exact ⟨rfl, rfl, hs.zeros, hs.extremes⟩

/-- A run is answered as the survey answers it, and leaves behind what the survey leaves behind. -/
lemma Coherent.run {s : Session} (hs : s.Coherent) (commands : List Command) :
    (s.run commands).1 = (s.survey.run commands).1 ∧
      (s.run commands).2.survey = (s.survey.run commands).2 ∧
      (s.run commands).2.Coherent := by
  induction commands generalizing s with
  | nil => exact ⟨rfl, rfl, hs⟩
  | cons command commands ih =>
    obtain ⟨reply, survey, coherent⟩ := hs.step command
    obtain ⟨replies, after, kept⟩ := ih coherent
    rw [survey] at replies after
    rw [run_cons, Survey.run_cons]
    refine ⟨?_, after, kept⟩
    simp only [reply, replies]

/-- The points that a session tells are found on its curve over its domain, refined as it says and, if
it asks for that, folded with the step of its domain. -/
lemma Coherent.step_points {s : Session} (hs : s.Coherent) {survey : Survey} (h : s.survey = survey) :
    (s.step .zeroPoints).1 = .points (if survey.collapse then
        collapse (survey.polynomial.curve.refinedZeroPoints survey.domain survey.refinement
          survey.limits) survey.domain.step
      else survey.polynomial.curve.refinedZeroPoints survey.domain survey.refinement survey.limits) ∧
    (s.step .extremePoints).1 = .points (if survey.collapse then
        collapse (survey.polynomial.curve.refinedExtremePoints survey.domain survey.refinement
          survey.limits) survey.domain.step
      else
        survey.polynomial.curve.refinedExtremePoints survey.domain survey.refinement survey.limits) := by
  subst h
  exact ⟨(hs.step .zeroPoints).1, (hs.step .extremePoints).1⟩

/-- Kept points are invisible: whatever a session is asked after it was opened, it answers as the
survey that finds every point anew; what it keeps are the points of the survey at that moment; an
expression that cannot be read leaves all of it as it was; and the points that it tells are those that
a scan finds, refined and folded as the survey says at that moment. -/
theorem run_eq_survey_run {s : Session} (h : s.Opened) (commands : List Command) :
    (s.run commands).1 = (s.survey.run commands).1 ∧
      (s.run commands).2.survey = (s.survey.run commands).2 ∧
      (s.run commands).2.Coherent ∧
      (∀ expression e, (s.run commands).2.survey.withExpression expression = .error e →
        (s.run commands).2.step (.setExpression expression) =
          (.refused e, (s.run commands).2)) ∧
      ∀ survey, (s.run commands).2.survey = survey →
        ((s.run commands).2.step .zeroPoints).1 = .points (if survey.collapse then
            collapse (survey.polynomial.curve.refinedZeroPoints survey.domain survey.refinement
              survey.limits) survey.domain.step
          else
            survey.polynomial.curve.refinedZeroPoints survey.domain survey.refinement survey.limits) ∧
        ((s.run commands).2.step .extremePoints).1 = .points (if survey.collapse then
            collapse (survey.polynomial.curve.refinedExtremePoints survey.domain survey.refinement
              survey.limits) survey.domain.step
          else
            survey.polynomial.curve.refinedExtremePoints survey.domain survey.refinement
              survey.limits) := by
  -- What is kept agrees with the survey at the opening, and every command keeps it so.
  obtain ⟨replies, survey, coherent⟩ := h.coherent.run commands
  exact ⟨replies, survey, coherent, fun _ _ he => step_setExpression_of_error he,
    fun _ => coherent.step_points⟩

/-- A session on the zero polynomial that keeps points, is refused an expression, tells a report from
what it keeps, and forgets it when it derives. -/
theorem run_eq_survey_run_of_zero :
    (ofSurvey (.ofPolynomial .zero)).Opened ∧
      let s := (ofSurvey (.ofPolynomial .zero)).run
        [.zeroPoints, .setExpression "x^-1", .setMerge .accumulate, .report, .derive, .extremePoints]
      s.1 = ((Survey.ofPolynomial .zero).run
        [.zeroPoints, .setExpression "x^-1", .setMerge .accumulate, .report, .derive,
          .extremePoints]).1 ∧ s.2.Coherent := by
  have opened := Opened.polynomial .zero
  obtain ⟨replies, _, coherent, _⟩ := run_eq_survey_run opened
    [.zeroPoints, .setExpression "x^-1", .setMerge .accumulate, .report, .derive, .extremePoints]
  exact ⟨opened, replies, coherent⟩

end Session

end PolySurvey
