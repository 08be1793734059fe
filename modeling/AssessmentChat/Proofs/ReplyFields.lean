import AssessmentChat.Service.Client
import Mathlib.Data.List.Forall2

namespace AssessmentChat

/-!
# The fields of replies

What a value gives for the fields of a record is said without reading it: by name, where
each field is given once at most and other names are passed over, or by position.  Every
reply of the service is read from these fields, and from nothing else.
-/

namespace Json

variable
  {declared : List FieldNames}
  {json : Json}
  {values : List (Option Json)}

/-! ## Records -/

/-- What a value gives for each of the fields of a record. -/
inductive Gives (declared : List FieldNames) :
    Json → List (Option Json) → Prop where
  | byName
      {fields : List (Spelled × Json)}
      {values : List (Option Json)} :
      (∀ field ∈ fields, field.1 ≠ none) →
      List.Forall₂
        (fun names value => Record.occurrences names fields = value.toList)
        declared values →
      Gives declared (.object fields) values
  | byPosition
      {items : List Json} :
      items.length ≤ declared.length →
      Gives declared (.array items)
        (items.map some ++
          .replicate (declared.length - items.length) none)

/-- The fields that are given, under the names that they are read by. -/
def givenFields
    (declared : List FieldNames)
    (values : List (Option Json)) : List (String × Option Json) :=
  (declared.map (·.headD "")).zip values

/-- A field that is given has one value, and one that is left out has none. -/
theorem only?_eq_some
    {found : List Json}
    {value : Option Json} :
    Record.only? found = some value ↔ found = value.toList := by
  match found with
  | [] =>
      cases value <;> simp [Record.only?]
  | [single] =>
      cases value <;> simp [Record.only?, eq_comm]
  | first :: second :: rest =>
      cases value <;> simp [Record.only?]

/-- Values by position are those of the declared fields, and the last ones are left out. -/
theorem pairUp_eq
    (declared : List FieldNames)
    {items : List Json}
    (fits : items.length ≤ declared.length) :
    Record.pairUp declared items =
      givenFields declared
        (items.map some ++
          .replicate (declared.length - items.length) none) := by
  induction declared generalizing items with
  | nil =>
      rfl
  | cons names others inductionHypothesis =>
      cases items with
      | nil =>
          have rest :
              Record.pairUp others [] = _ :=
            inductionHypothesis (Nat.zero_le _)
          simp [Record.pairUp, givenFields, rest, List.replicate_succ]
      | cons item items =>
          have rest :=
            inductionHypothesis (Nat.le_of_succ_le_succ fits)
          simp [Record.pairUp, givenFields, rest]

/-- As many values are given as fields are declared, counting those left out. -/
theorem Gives.length_eq
    (gives : json.Gives declared values) :
    values.length = declared.length := by
  cases gives with
  | byName _ found =>
      exact found.length_eq.symm
  | byPosition fits =>
      simp [Nat.add_sub_cancel' fits]

/-- The fields that are found by name are those that are given. -/
theorem mapM_only?_eq_some
    {fields : List (Spelled × Json)}
    {found : List (String × Option Json)} :
    (declared.mapM fun names => do
        return (names.headD "",
          ← Record.only? (Record.occurrences names fields))) =
        some found ↔
      ∃ values,
        List.Forall₂
          (fun names value =>
            Record.occurrences names fields = value.toList)
          declared values ∧
        found = givenFields declared values := by
  induction declared generalizing found with
  | nil =>
      constructor
      · rintro ⟨⟩
        exact ⟨[], .nil, rfl⟩
      · rintro ⟨values, ⟨⟩, rfl⟩
        rfl
  | cons names others inductionHypothesis =>
      simp only [List.mapM_cons, Option.bind_eq_bind, Option.pure_def,
        Option.bind_eq_some_iff, Option.some.injEq] at inductionHypothesis ⊢
      constructor
      · rintro ⟨_, ⟨value, single, rfl⟩, rest, read, rfl⟩
        obtain ⟨values, each, rfl⟩ := inductionHypothesis.mp read
        exact ⟨value :: values, .cons (only?_eq_some.mp single) each, rfl⟩
      · rintro ⟨_, ⟨⟩ | ⟨single, each⟩, rfl⟩
        exact ⟨_, ⟨_, only?_eq_some.mpr single, rfl⟩, _,
          inductionHypothesis.mpr ⟨_, each, rfl⟩, rfl⟩

/-- A record of fields is read if each declared field occurs once at most. -/
theorem ofFields?_eq_some
    {fields : List (Spelled × Json)}
    {record : Record} :
    Record.ofFields? declared fields = some record ↔
      (∀ field ∈ fields, field.1 ≠ none) ∧
        ∃ values,
          List.Forall₂
            (fun names value =>
              Record.occurrences names fields = value.toList)
            declared values ∧
          record = ⟨true, givenFields declared values⟩ := by
  have allNamed :
      (fields.any fun field => field.1.isNone) = false ↔
        ∀ field ∈ fields, field.1 ≠ none := by
    simp
  unfold Record.ofFields?
  split
  next unnamed =>
    refine ⟨nofun, ?_⟩
    rintro ⟨named, -⟩
    exact absurd unnamed (by simp [allNamed.mpr named])
  next named =>
    rw [Bool.not_eq_true] at named
    constructor
    · intro read
      obtain ⟨found, among, ⟨⟩⟩ := Option.bind_eq_some_iff.mp read
      obtain ⟨values, each, rfl⟩ := mapM_only?_eq_some.mp among
      exact ⟨allNamed.mp named, values, each, rfl⟩
    · rintro ⟨-, values, each, rfl⟩
      exact Option.bind_eq_some_iff.mpr
        ⟨_, mapM_only?_eq_some.mpr ⟨values, each, rfl⟩, rfl⟩

/-- A record is read from the fields that a value gives. -/
theorem record?_bind_eq_some
    {build : Record → Option α}
    {value : α}
    (byFields : ∀ record, build record = build ⟨true, record.fields⟩) :
    (json.record? declared).bind build = some value ↔
      ∃ values,
        json.Gives declared values ∧
          build ⟨true, givenFields declared values⟩ = some value := by
  constructor
  · intro read
    obtain ⟨record, found, built⟩ := Option.bind_eq_some_iff.mp read
    rw [byFields] at built
    cases json with
    | object fields =>
        rw [record?, ofFields?_eq_some] at found
        obtain ⟨named, values, each, rfl⟩ := found
        exact ⟨values, .byName named each, built⟩
    | array items =>
        rw [record?, Record.ofItems?] at found
        split at found
        next fits =>
          cases found
          rw [pairUp_eq declared fits] at built
          exact ⟨_, .byPosition fits, built⟩
        next =>
          cases found
    | _ =>
        cases found
  · rintro ⟨values, gives, built⟩
    refine Option.bind_eq_some_iff.mpr ?_
    cases gives with
    | byName named each =>
        exact ⟨_, ofFields?_eq_some.mpr ⟨named, _, each, rfl⟩, built⟩
    | byPosition fits =>
        refine ⟨_, if_pos fits, ?_⟩
        rw [byFields, pairUp_eq declared fits]
        exact built

/-- A single field that is required is read from what is given for it. -/
theorem readsField_eq_some
    {name : String}
    {aliases : FieldNames}
    {read : Json → Option α}
    {value : α} :
    ((json.record? [name :: aliases]).bind fun record =>
        record.required name read) =
        some value ↔
      ∃ given,
        json.Gives [name :: aliases] [some given] ∧
          read given = some value := by
  rw [record?_bind_eq_some fun _ => rfl]
  constructor
  · rintro ⟨values, gives, built⟩
    obtain ⟨field, rfl⟩ := List.length_eq_one_iff.mp gives.length_eq
    have found : field.bind read = some value := by
      simpa [givenFields, Record.required, Record.given] using built
    obtain ⟨given, rfl, read⟩ := Option.bind_eq_some_iff.mp found
    exact ⟨given, gives, read⟩
  · rintro ⟨given, gives, read⟩
    refine ⟨_, gives, ?_⟩
    simpa [givenFields, Record.required, Record.given] using read

/-- Two fields are read, each from what is given for it. -/
theorem readsFields_eq_some
    {first second : String}
    {value : γ}
    (differ : second ≠ first)
    (readFirst : Option Json → Option α)
    (readSecond : Option Json → Option β)
    (build : α → β → γ) :
    ((json.record? [[first], [second]]).bind fun record =>
        (readFirst (record.given first)).bind fun one =>
          (readSecond (record.given second)).bind fun other =>
            some (build one other)) =
        some value ↔
      ∃ given givenSecond one other,
        json.Gives [[first], [second]] [given, givenSecond] ∧
          readFirst given = some one ∧
          readSecond givenSecond = some other ∧
          value = build one other := by
  rw [record?_bind_eq_some fun _ => rfl]
  have firstGiven (given givenSecond : Option Json) :
      Record.given
          ⟨true, givenFields [[first], [second]] [given, givenSecond]⟩
          first =
        given := by
    simp [givenFields, Record.given]
  have secondGiven (given givenSecond : Option Json) :
      Record.given
          ⟨true, givenFields [[first], [second]] [given, givenSecond]⟩
          second =
        givenSecond := by
    have other : (second == first) = false := by simpa using differ
    simp [givenFields, Record.given, List.lookup_cons, other]
  constructor
  · rintro ⟨values, gives, built⟩
    obtain ⟨given, givenSecond, rfl⟩ :=
      List.length_eq_two.mp gives.length_eq
    rw [firstGiven, secondGiven] at built
    obtain ⟨one, readOne, rest⟩ := Option.bind_eq_some_iff.mp built
    obtain ⟨other, readOther, ⟨⟩⟩ := Option.bind_eq_some_iff.mp rest
    exact ⟨given, givenSecond, one, other, gives, readOne, readOther, rfl⟩
  · rintro ⟨given, givenSecond, one, other, gives, readOne, readOther, rfl⟩
    refine ⟨_, gives, ?_⟩
    rw [firstGiven, secondGiven, readOne, Option.bind_some, readOther,
      Option.bind_some]

/-! ## Cases -/

/-- Whether a value selects a case by its name, alone or as the only key of an object. -/
def NamesCase (json : Json) (name : String) : Prop :=
  json = .text name ∨ json = .record [(name, .null)]

/-- A value names a case as a text, or as the only field of a record. -/
theorem caseName?_eq_some
    {name : String} :
    json.caseName? = some name ↔ json.NamesCase name := by
  constructor
  · intro read
    unfold caseName? at read
    split at read
    next =>
      subst read
      exact .inl rfl
    next =>
      cases read
      exact .inr rfl
    next =>
      cases read
  · rintro (rfl | rfl)
    · rfl
    · rfl

/-- The status of a job is read from its name. -/
theorem jobStatus_eq_some
    {status : JobStatus} :
    (Wire.ofJson? json : Option JobStatus) = some status ↔
      json.NamesCase status.name := by
  rw [← caseName?_eq_some]
  constructor
  · intro read
    obtain ⟨name, named, selected⟩ := Option.bind_eq_some_iff.mp read
    have same := List.find?_some selected
    rw [named, ← of_decide_eq_true same]
  · intro named
    refine Option.bind_eq_some_iff.mpr ⟨status.name, named, ?_⟩
    cases status <;> decide

/-- An intent is read from any name; those that are unknown have one of their own. -/
theorem intent_eq_some
    {intent : Intent} :
    (Wire.ofJson? json : Option Intent) = some intent ↔
      ∃ name, json.NamesCase name ∧ intent = Intent.ofName name := by
  simp only [← caseName?_eq_some]
  constructor
  · intro read
    obtain ⟨name, named, rfl⟩ := Option.map_eq_some_iff.mp read
    exact ⟨name, named, rfl⟩
  · rintro ⟨name, named, rfl⟩
    exact Option.map_eq_some_iff.mpr ⟨name, named, rfl⟩

theorem text?_eq_some
    {content : String} :
    json.text? = some content ↔ json = .text content := by
  cases json <;> simp [text?, text]

/-- A single field is read as a text. -/
theorem readsText_eq_some
    {name : String}
    {aliases : FieldNames}
    {content : String} :
    ((json.record? [name :: aliases]).bind fun record =>
        record.required name text?) =
        some content ↔
      json.Gives [name :: aliases] [some (.text content)] := by
  rw [readsField_eq_some]
  simp only [text?_eq_some, exists_eq_right]

/-- What started is read as its name and its status. -/
theorem readsStarted_eq_some
    {name : String}
    {build : String → JobStatus → γ}
    {value : γ}
    (differ : "workflowStatus" ≠ name) :
    ((json.record? [[name], ["workflowStatus"]]).bind fun record =>
        (record.required name text?).bind fun started =>
          (record.required "workflowStatus" Wire.ofJson?).bind fun status =>
            some (build started status)) =
        some value ↔
      ∃ started status named,
        json.Gives [[name], ["workflowStatus"]]
            [some (.text started), some named] ∧
          named.NamesCase status.name ∧
          value = build started status := by
  refine
    (readsFields_eq_some differ (· >>= text?) (· >>= Wire.ofJson?)
      build).trans ?_
  constructor
  · rintro ⟨given, named, started, status, gives, readText, readStatus, rfl⟩
    obtain ⟨_, rfl, text⟩ := Option.bind_eq_some_iff.mp readText
    obtain ⟨named, rfl, names⟩ := Option.bind_eq_some_iff.mp readStatus
    obtain rfl := text?_eq_some.mp text
    exact ⟨started, status, named, gives, jobStatus_eq_some.mp names, rfl⟩
  · rintro ⟨started, status, named, gives, names, rfl⟩
    exact ⟨_, _, started, status, gives, rfl,
      jobStatus_eq_some.mpr names, rfl⟩

/-- A field with a default is read if it is given. -/
theorem withDefault_eq
    (record : Record)
    (name : String)
    (default : α)
    (read : Json → Option α) :
    record.withDefault name default read =
      (record.given name).elim (some default) read := by
  unfold Record.withDefault
  cases record.given name <;> rfl

/-- What is reported is read as a status and a text that may be left out. -/
theorem readsReport_eq_some
    {name : String}
    {build : JobStatus → String → γ}
    {value : γ}
    (differ : name ≠ "workflowStatus") :
    ((json.record? [["workflowStatus"], [name]]).bind fun record =>
        (record.required "workflowStatus" Wire.ofJson?).bind fun status =>
          (record.withDefault name "" text?).bind fun detail =>
            some (build status detail)) =
        some value ↔
      ∃ status detail named given,
        json.Gives [["workflowStatus"], [name]] [some named, given] ∧
          named.NamesCase status.name ∧
          given.getD (.text "") = .text detail ∧
          value = build status detail := by
  simp only [withDefault_eq]
  refine
    (readsFields_eq_some differ (· >>= Wire.ofJson?)
      (·.elim (some "") text?) build).trans ?_
  constructor
  · rintro ⟨given, detailGiven, status, detail, gives, readStatus, readText,
      rfl⟩
    obtain ⟨named, rfl, names⟩ := Option.bind_eq_some_iff.mp readStatus
    refine ⟨status, detail, named, detailGiven, gives,
      jobStatus_eq_some.mp names, ?_, rfl⟩
    cases detailGiven with
    | none =>
        cases readText
        rfl
    | some spelled =>
        exact text?_eq_some.mp readText
  · rintro ⟨status, detail, named, given, gives, names, detailText, rfl⟩
    refine ⟨_, given, status, detail, gives, jobStatus_eq_some.mpr names, ?_,
      rfl⟩
    cases given with
    | none =>
        cases detailText
        rfl
    | some spelled =>
        exact text?_eq_some.mpr detailText

end Json

/-! ## What the service says -/

namespace ServiceCall

/-- What the service says when an operation has succeeded. -/
def Tells (json : Json) : (call : ServiceCall) → call.Reply → Prop
  | .createEngagement, engagement =>
      json.Gives [["engagementId"]]
        [some (.text engagement.engagementId)]
  | .startAssessment .., started =>
      ∃ status,
        json.Gives [["assessmentId"], ["workflowStatus"]]
          [some (.text started.assessmentId), some status] ∧
        status.NamesCase started.status.name
  | .updateAssessment .., status | .stopAssessment .., status =>
      ∃ named,
        json.Gives [["workflowStatus"]] [some named] ∧
        named.NamesCase status.name
  | .assessmentStatus .., report =>
      ∃ status detail,
        json.Gives [["workflowStatus"], ["assessmentStatus"]]
          [some status, detail] ∧
        status.NamesCase report.status.name ∧
        detail.getD (.text "") = .text report.detail
  | .startInteraction .., started =>
      ∃ status,
        json.Gives [["interactionId"], ["workflowStatus"]]
          [some (.text started.interactionId), some status] ∧
        status.NamesCase started.status.name
  | .interactionStatus .., report =>
      ∃ status response,
        json.Gives [["workflowStatus"], ["response"]]
          [some status, response] ∧
        status.NamesCase report.status.name ∧
        response.getD (.text "") = .text report.response
  | .deriveIntent .., intent =>
      ∃ named name,
        json.Gives [["userIntent", "intent"]] [some named] ∧
        named.NamesCase name ∧
        intent = Intent.ofName name
  | .uploadWorkspace _, _ | .downloadPlan .., _ =>
      False

/-- What the service says when an operation goes on at another address. -/
def HandsOut (json : Json) : ServiceCall → String → Prop
  | .uploadWorkspace _, address =>
      json.Gives [["PresignedUrl", "presignedUrl"]] [some (.text address)]
  | .downloadPlan .., address =>
      json.Gives [["s3url", "downloadUrl"]] [some (.text address)]
  | _, _ =>
      False

variable
  {json : Json}
  {address : String}

/-- An engagement is read exactly if the answer tells it. -/
theorem tells_engagement
    {engagement : Engagement} :
    (Wire.ofJson? json : Option Engagement) = some engagement ↔
      Tells json .createEngagement engagement := by
  have shape :
      (Wire.ofJson? json : Option Engagement) =
        ((json.record? [["engagementId"]]).bind fun record =>
          record.required "engagementId" Json.text?).map Engagement.mk := by
    cases found : json.record? [["engagementId"]] with
    | none =>
        simp [Wire.ofJson?, found]
    | some record =>
        cases told : record.required "engagementId" Json.text? <;>
          simp [Wire.ofJson?, found, told]
  rw [shape, Option.map_eq_some_iff]
  simp only [Json.readsText_eq_some]
  constructor
  · rintro ⟨_, gives, rfl⟩
    exact gives
  · intro gives
    exact ⟨_, gives, rfl⟩

/-- A started assessment is read exactly if the answer tells it. -/
theorem tells_startedAssessment
    {engagementId input : String}
    {started : StartedAssessment} :
    ServiceReply.startedAssessment? json = some started ↔
      Tells json (.startAssessment engagementId input) started := by
  refine (Json.readsStarted_eq_some (by decide)).trans ?_
  constructor
  · rintro ⟨_, _, named, gives, names, rfl⟩
    exact ⟨named, gives, names⟩
  · rintro ⟨named, gives, names⟩
    exact ⟨_, _, named, gives, names, rfl⟩

/-- The status of a job is read exactly if the answer gives it by name. -/
theorem tells_jobStatus
    {status : JobStatus} :
    ServiceReply.jobStatus? json = some status ↔
      ∃ named,
        json.Gives [["workflowStatus"]] [some named] ∧
        named.NamesCase status.name := by
  refine Json.readsField_eq_some.trans ?_
  simp only [Json.jobStatus_eq_some]

/-- A look at an assessment is read exactly if the answer tells it. -/
theorem tells_assessmentReport
    {engagementId assessmentId : String}
    {report : AssessmentReport} :
    ServiceReply.assessmentReport? json = some report ↔
      Tells json (.assessmentStatus engagementId assessmentId) report := by
  refine (Json.readsReport_eq_some (by decide)).trans ?_
  constructor
  · rintro ⟨_, _, named, given, gives, names, detail, rfl⟩
    exact ⟨named, given, gives, names, detail⟩
  · rintro ⟨named, given, gives, names, detail⟩
    exact ⟨_, _, named, given, gives, names, detail, rfl⟩

/-- A started interaction is read exactly if the answer tells it. -/
theorem tells_startedInteraction
    {engagementId input : String}
    {started : StartedInteraction} :
    ServiceReply.startedInteraction? json = some started ↔
      Tells json (.startInteraction engagementId input) started := by
  refine (Json.readsStarted_eq_some (by decide)).trans ?_
  constructor
  · rintro ⟨_, _, named, gives, names, rfl⟩
    exact ⟨named, gives, names⟩
  · rintro ⟨named, gives, names⟩
    exact ⟨_, _, named, gives, names, rfl⟩

/-- A look at an interaction is read exactly if the answer tells it. -/
theorem tells_interactionReport
    {engagementId interactionId : String}
    {report : InteractionReport} :
    ServiceReply.interactionReport? json = some report ↔
      Tells json (.interactionStatus engagementId interactionId) report := by
  refine (Json.readsReport_eq_some (by decide)).trans ?_
  constructor
  · rintro ⟨_, _, named, given, gives, names, detail, rfl⟩
    exact ⟨named, given, gives, names, detail⟩
  · rintro ⟨named, given, gives, names, detail⟩
    exact ⟨_, _, named, given, gives, names, detail, rfl⟩

/-- An intent is read exactly if the answer tells it. -/
theorem tells_intent
    {engagementId input : String}
    {intent : Intent} :
    ServiceReply.intent? json = some intent ↔
      Tells json (.deriveIntent engagementId input) intent := by
  refine Json.readsField_eq_some.trans ?_
  simp only [Json.intent_eq_some, Tells, exists_and_left]

/-- The address for a workspace is read exactly if the answer hands it out. -/
theorem handsOut_uploadAddress
    {engagementId : String} :
    ServiceReply.uploadAddress? json = some address ↔
      HandsOut json (.uploadWorkspace engagementId) address :=
  Json.readsText_eq_some

/-- The address of a plan is read exactly if the answer hands it out. -/
theorem handsOut_downloadAddress
    {engagementId assessmentId : String} :
    ServiceReply.downloadAddress? json = some address ↔
      HandsOut json (.downloadPlan engagementId assessmentId) address :=
  Json.readsText_eq_some

end ServiceCall

end AssessmentChat
