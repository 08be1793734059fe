namespace AssessmentChat

/-!
# Plans as artifacts

A plan that has been downloaded and is about to be kept, and where it was kept.
-/

/-- Where an artifact can be found: a path, an address or the name of a document. -/
structure ArtifactLocator where
  location : String
deriving Repr, DecidableEq

/-- A plan on its way to the store. -/
structure PlanArtifact where
  sessionId : String
  assessmentId : String
  content : String
deriving Repr, DecidableEq

/-- The file name of the plan that an assessment wrote. -/
def planFileName (assessmentId : String) : String :=
  s!"RA_PLAN_{assessmentId}.md"

/-- The file name of a plan. -/
def PlanArtifact.fileName (plan : PlanArtifact) : String :=
  planFileName plan.assessmentId

end AssessmentChat
