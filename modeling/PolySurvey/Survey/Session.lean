import PolySurvey.Survey.Basic

/-!
# Sessions

A session answers commands about a survey and keeps the points it has already found until a command
changes what they depend on. A survey answers the same commands by finding the points anew each time.
The main statements say that a session whose kept points are those of its survey answers with the
points of its survey, and then keeps them.
-/

namespace PolySurvey

/-- What can be asked of a session. -/
inductive Command where
  | setExpression (expression : String)
  | derive
  | zeroPoints
  | extremePoints
  /-- Tell the point of the curve above an abscissa. -/
  | evaluate (x : Float)
  | degree
  | functionText
  | report
  /-- Forget the points that were kept. -/
  | invalidate
  | setDomain (domain : Domain)
  | setRefinement (refinement : Refinement) (limits : RefineLimits)
  /-- Fold runs of points, or do not. -/
  | setCollapse (collapse : Bool)
  | setMerge (merge : MergePolicy)

/-- What a command is answered with. -/
inductive Reply where
  /-- The command was carried out. -/
  | done
  /-- The expression could not be read, and nothing has changed. -/
  | refused (error : TermError)
  | text (text : String)
  | number (n : Nat)
  /-- Points of the axis. -/
  | points (points : List Float)
  /-- A point of the curve. -/
  | point (point : Float × Float)
  /-- A report. -/
  | report (report : Report)

/-- The answer of a survey to a command, and the survey after it. -/
def Survey.step (s : Survey) : Command → Reply × Survey
  | .setExpression expression =>
    match s.withExpression expression with
    | .ok s' => (.done, s')
    | .error e => (.refused e, s)
  | .derive => (.text s.derive.polynomial.source, s.derive)
  | .zeroPoints => (.points s.zeroPoints, s)
  | .extremePoints => (.points s.extremePoints, s)
  | .evaluate x => (.point (s.polynomial.point x), s)
  | .degree => (.number s.polynomial.degree, s)
  | .functionText => (.text s.polynomial.source, s)
  | .report => (.report s.report, s)
  | .invalidate => (.done, s)
  | .setDomain domain => (.done, { s with domain })
  | .setRefinement refinement limits => (.done, { s with refinement, limits })
  | .setCollapse collapse => (.done, { s with collapse })
  | .setMerge merge => (.done, { s with merge })

/-- A survey and the points of it that have been found. -/
structure Session where
  survey : Survey
  /-- The zeros, if they are kept. -/
  keptZeros : Option (List Float) := none
  /-- The extreme points, if they are kept. -/
  keptExtremes : Option (List Float) := none

namespace Session

/-- A session with nothing kept. -/
def ofSurvey (survey : Survey) : Session := { survey }

/-- The zeros, and the session that keeps them. -/
def zeroPoints (s : Session) : List Float × Session :=
  match s.keptZeros with
  | some points => (points, s)
  | none =>
    let points := s.survey.zeroPoints
    (points, { s with keptZeros := some points })

/-- The extreme points, and the session that keeps them. -/
def extremePoints (s : Session) : List Float × Session :=
  match s.keptExtremes with
  | some points => (points, s)
  | none =>
    let points := s.survey.extremePoints
    (points, { s with keptExtremes := some points })

/-- The report, and the session that keeps the points in it. -/
def report (s : Session) : Report × Session :=
  let (zeros, s) := s.zeroPoints
  let (extremes, s) := s.extremePoints
  (s.survey.reportOf zeros extremes, s)

/-- The answer of a session to a command, and the session after it. -/
def step (s : Session) : Command → Reply × Session
  | .setExpression expression =>
    match s.survey.withExpression expression with
    | .ok survey => (.done, ofSurvey survey)
    | .error e => (.refused e, s)
  | .derive =>
    let survey := s.survey.derive
    (.text survey.polynomial.source, ofSurvey survey)
  | .zeroPoints =>
    let (points, s) := s.zeroPoints
    (.points points, s)
  | .extremePoints =>
    let (points, s) := s.extremePoints
    (.points points, s)
  | .evaluate x => (.point (s.survey.polynomial.point x), s)
  | .degree => (.number s.survey.polynomial.degree, s)
  | .functionText => (.text s.survey.polynomial.source, s)
  | .report =>
    let (report, s) := s.report
    (.report report, s)
  | .invalidate => (.done, ofSurvey s.survey)
  | .setDomain domain => (.done, ofSurvey { s.survey with domain })
  | .setRefinement refinement limits => (.done, ofSurvey { s.survey with refinement, limits })
  | .setCollapse collapse => (.done, ofSurvey { s.survey with collapse })
  | .setMerge merge => (.done, { s with survey := { s.survey with merge } })

/-- What is kept are the points of the survey. -/
structure Coherent (s : Session) : Prop where
  /-- The zeros that are kept. -/
  zeros : ∀ points, s.keptZeros = some points → points = s.survey.zeroPoints
  /-- The extreme points that are kept. -/
  extremes : ∀ points, s.keptExtremes = some points → points = s.survey.extremePoints

/-- A session with nothing kept keeps nothing wrong. -/
theorem coherent_ofSurvey (survey : Survey) : (ofSurvey survey).Coherent :=
  ⟨fun _ h => by simp [ofSurvey] at h, fun _ h => by simp [ofSurvey] at h⟩

/-- A session whose kept points are right tells the zeros of its survey, and keeps them. -/
theorem Coherent.zeroPoints {s : Session} (hs : s.Coherent) :
    s.zeroPoints.1 = s.survey.zeroPoints ∧ s.zeroPoints.2.survey = s.survey ∧
      s.zeroPoints.2.Coherent := by
  unfold Session.zeroPoints
  split
  · next points h => exact ⟨hs.zeros points h, rfl, hs⟩
  · exact ⟨rfl, rfl, fun points h => (Option.some.inj h).symm, hs.extremes⟩

/-- A session whose kept points are right tells the extreme points of its survey, and keeps them. -/
theorem Coherent.extremePoints {s : Session} (hs : s.Coherent) :
    s.extremePoints.1 = s.survey.extremePoints ∧ s.extremePoints.2.survey = s.survey ∧
      s.extremePoints.2.Coherent := by
  unfold Session.extremePoints
  split
  · next points h => exact ⟨hs.extremes points h, rfl, hs⟩
  · exact ⟨rfl, rfl, hs.zeros, fun points h => (Option.some.inj h).symm⟩

/-- Its report is that of the survey, whether or not the points in it were kept. -/
theorem Coherent.report {s : Session} (hs : s.Coherent) :
    s.report.1 = s.survey.report ∧ s.report.2.survey = s.survey ∧ s.report.2.Coherent := by
  obtain ⟨hz, hsz, hcz⟩ := hs.zeroPoints
  obtain ⟨he, hse, hce⟩ := hcz.extremePoints
  refine ⟨?_, hse.trans hsz, hce⟩
  simp only [Session.report, Survey.report, hz, he, hse, hsz]

end Session

end PolySurvey
