import AssessmentChat.Rehearsal.Surroundings

namespace AssessmentChat.Rehearsal

/-!
# Scripted surroundings

A script holds the replies to every operation, used up in order.  An operation
without replies left gives its default: new names are counted, every job has
completed, and every plan is the same.
-/

/-- A prepared reply; one without an outcome stands for the default. -/
structure Reply (α : Type) where
  delay : Nat := 0
  cancels : Bool := false
  outcome : Option (Except Fault α) := none

/-- The replies that are left, and how many default names have been given. -/
structure Script where
  createEngagement : List (Reply EngagementId) := []
  uploadWorkspace : List (Reply Unit) := []
  startAssessment : List (Reply AssessmentId) := []
  updateAssessment : List (Reply JobStatus) := []
  stopAssessment : List (Reply JobStatus) := []
  assessmentStatus : List (Reply AssessmentReport) := []
  downloadPlan : List (Reply String) := []
  startInteraction : List (Reply InteractionId) := []
  interactionStatus : List (Reply InteractionReport) := []
  deriveIntent : List (Reply Intent) := []
  storePlan : List (Reply String) := []
  exportPlan : List (Reply String) := []
  workspaceEmpty : Bool := false
  engagements : Nat := 0
  assessments : Nat := 0
  interactions : Nat := 0

namespace Reply

/-- The next reply of a list. -/
def next (replies : List (Reply α)) : Reply α :=
  replies.headD {}

/-- Whether a reply gives the default. -/
def isDefault (reply : Reply α) : Bool :=
  reply.outcome.isNone

/-- The outcome of a reply, taken over into the answer to a request. -/
def outcomeOr (reply : Reply α) (default : α) : Except Fault α :=
  reply.outcome.getD (.ok default)

end Reply

namespace Script

/-- How often a counter of default names goes on. -/
def countDefault (reply : Reply α) (given : Nat) : Nat :=
  if reply.isDefault then given + 1 else given

/-- The answer of the service. -/
def answerService (call : ServiceCall) (script : Script) :
    Response (.service call) × Script :=
  match call with
  | .createEngagement =>
      let reply := Reply.next script.createEngagement
      let engagements := countDefault reply script.engagements
      (⟨reply.delay, reply.cancels, (reply.outcomeOr s!"E{engagements}").map Engagement.mk⟩,
        { script with createEngagement := script.createEngagement.tail, engagements })
  | .uploadWorkspace _ =>
      let reply := Reply.next script.uploadWorkspace
      (⟨reply.delay, reply.cancels, reply.outcomeOr ()⟩,
        { script with uploadWorkspace := script.uploadWorkspace.tail })
  | .startAssessment .. =>
      let reply := Reply.next script.startAssessment
      let assessments := countDefault reply script.assessments
      (⟨reply.delay, reply.cancels,
          (reply.outcomeOr s!"A{assessments}").map (StartedAssessment.mk · .inProgress)⟩,
        { script with startAssessment := script.startAssessment.tail, assessments })
  | .updateAssessment .. =>
      let reply := Reply.next script.updateAssessment
      (⟨reply.delay, reply.cancels, reply.outcomeOr .inProgress⟩,
        { script with updateAssessment := script.updateAssessment.tail })
  | .stopAssessment .. =>
      let reply := Reply.next script.stopAssessment
      (⟨reply.delay, reply.cancels, reply.outcomeOr .cancelled⟩,
        { script with stopAssessment := script.stopAssessment.tail })
  | .assessmentStatus .. =>
      let reply := Reply.next script.assessmentStatus
      (⟨reply.delay, reply.cancels, reply.outcomeOr ⟨.completed, ""⟩⟩,
        { script with assessmentStatus := script.assessmentStatus.tail })
  | .downloadPlan .. =>
      let reply := Reply.next script.downloadPlan
      (⟨reply.delay, reply.cancels, reply.outcomeOr "# Plan"⟩,
        { script with downloadPlan := script.downloadPlan.tail })
  | .startInteraction .. =>
      let reply := Reply.next script.startInteraction
      let interactions := countDefault reply script.interactions
      (⟨reply.delay, reply.cancels,
          (reply.outcomeOr s!"I{interactions}").map (StartedInteraction.mk · .inProgress)⟩,
        { script with startInteraction := script.startInteraction.tail, interactions })
  | .interactionStatus .. =>
      let reply := Reply.next script.interactionStatus
      (⟨reply.delay, reply.cancels, reply.outcomeOr ⟨.completed, "Answer"⟩⟩,
        { script with interactionStatus := script.interactionStatus.tail })
  | .deriveIntent .. =>
      let reply := Reply.next script.deriveIntent
      (⟨reply.delay, reply.cancels, reply.outcomeOr .unclear⟩,
        { script with deriveIntent := script.deriveIntent.tail })

/-- The answer to a request. -/
def answer (request : Request) (script : Script) : Response request × Script :=
  match request with
  | .service call => script.answerService call
  | .workspaceIsEmpty => (⟨0, false, script.workspaceEmpty⟩, script)
  | .storePlan plan =>
      let reply := Reply.next script.storePlan
      (⟨reply.delay, reply.cancels,
          (reply.outcomeOr ("memory://" ++ plan.fileName)).map ArtifactLocator.mk⟩,
        { script with storePlan := script.storePlan.tail })
  | .exportPlan _ destination =>
      let reply := Reply.next script.exportPlan
      (⟨reply.delay, reply.cancels, (reply.outcomeOr destination).map ArtifactLocator.mk⟩,
        { script with exportPlan := script.exportPlan.tail })

/-- The surroundings that follow a script. -/
def surroundings : Surroundings Script where
  answer := answer
  remaining script := script.assessmentStatus.length + script.interactionStatus.length

end Script

end AssessmentChat.Rehearsal
