namespace AssessmentChat

/-!
# Remote jobs

What the service says about an engagement and about the jobs that run inside
it.  An assessment writes a plan, an interaction answers a question about it.
-/

/-- The service's name for an engagement, the server side of a conversation. -/
abbrev EngagementId := String

/-- The service's name for an assessment. -/
abbrev AssessmentId := String

/-- The service's name for an interaction. -/
abbrev InteractionId := String

/-- The status of a remote job. -/
inductive JobStatus
  | inProgress
  | completed
  | failed
  | cancelled
deriving Repr, DecidableEq

namespace JobStatus

/-- Every status. -/
def all : List JobStatus :=
  [.inProgress, .completed, .failed, .cancelled]

/-- Every status at which polling stops. -/
def terminal : List JobStatus :=
  [.completed, .failed, .cancelled]

/-- Whether a job has come to its end. -/
def isTerminal : JobStatus → Bool
  | .inProgress => false
  | _ => true

/-- The name of a status, on the wire and in a progress message. -/
def name : JobStatus → String
  | .inProgress => "IN_PROGRESS"
  | .completed => "COMPLETED"
  | .failed => "FAILED"
  | .cancelled => "CANCELLED"

end JobStatus

/-- What a follow-up asks for, as the service classifies it. -/
inductive Intent
  /-- A question about the plan. -/
  | question
  /-- Another version of the plan. -/
  | revision
  /-- A new plan from the start. -/
  | newAnalysis
  /-- Anything else. -/
  | unclear
deriving Repr, DecidableEq

namespace Intent

/-- The intents that have a name of their own. -/
def named : List Intent :=
  [.question, .revision, .newAnalysis]

/-- The name of an intent on the wire. -/
def name : Intent → String
  | .question => "QUESTION_AND_ANSWER"
  | .revision => "ASSESSMENT"
  | .newAnalysis => "NEW_ASSESSMENT"
  | .unclear => "DEFAULT"

/-- The intent of a name; every unknown name means that the intent is unclear. -/
def ofName (name : String) : Intent :=
  (named.find? fun intent => intent.name = name).getD .unclear

end Intent

/-- The engagement that the service opened. -/
structure Engagement where
  engagementId : EngagementId
deriving Repr, DecidableEq

/-- The assessment that the service started. -/
structure StartedAssessment where
  assessmentId : AssessmentId
  status : JobStatus
deriving Repr, DecidableEq

/-- One look at an assessment: its status and what it is doing. -/
structure AssessmentReport where
  status : JobStatus
  detail : String
deriving Repr, DecidableEq

/-- The interaction that the service started. -/
structure StartedInteraction where
  interactionId : InteractionId
  status : JobStatus
deriving Repr, DecidableEq

/-- One look at an interaction: its status and, once it has completed, the answer. -/
structure InteractionReport where
  status : JobStatus
  response : String
deriving Repr, DecidableEq

/-- Whether the assessment has come to its end. -/
def AssessmentReport.isTerminal (report : AssessmentReport) : Bool :=
  report.status.isTerminal

/-- Whether the interaction has come to its end. -/
def InteractionReport.isTerminal (report : InteractionReport) : Bool :=
  report.status.isTerminal

end AssessmentChat
