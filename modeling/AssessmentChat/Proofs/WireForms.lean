import AssessmentChat.Proofs.JsonText
import AssessmentChat.Wire.Config
import AssessmentChat.Wire.Message
import AssessmentChat.Wire.Session
import AssessmentChat.Wire.Workflow
import AssessmentChat.Wire.Workspace

namespace AssessmentChat

/-!
# Values are read back from their wire forms

A form on the wire is plain: its strings spell texts, its numbers are natural numbers
and it nests a few containers deep.  So its compact text is parsed into it again.  What
is left is that each type reads its own form, field by field.
-/

namespace Json

/-! ## Plain values -/

/--
A value as it is written on the wire, at most so deep.  Where it is kept in full it
holds no numbers.
-/
inductive IsPlain (hasNumbers : Prop) : Nat → Json → Prop
  | null {depth : Nat} : IsPlain hasNumbers depth .null
  | bool {depth : Nat} (value : Bool) : IsPlain hasNumbers depth (.bool value)
  | text {depth : Nat} (content : String) :
      IsPlain hasNumbers depth (.text content)
  | nat {depth : Nat} (allowed : hasNumbers) (value : Nat) :
      IsPlain hasNumbers depth (.nat value)
  | array {depth : Nat} {items : List Json}
      (each : ∀ item ∈ items, IsPlain hasNumbers depth item) :
      IsPlain hasNumbers (depth + 1) (.array items)
  | record {depth : Nat} {fields : List (String × Json)}
      (each : ∀ field ∈ fields, IsPlain hasNumbers depth field.2) :
      IsPlain hasNumbers (depth + 1) (.record fields)

attribute [simp] IsPlain.null IsPlain.bool IsPlain.text

theorem record_eq
    (fields : List (String × Json)) :
    Json.record fields =
      .object (fields.map fun field => (some field.1, field.2)) :=
  rfl

@[simp]
theorem IsPlain.optionalText
    {hasNumbers : Prop}
    {depth : Nat}
    (content : Option String) :
    IsPlain hasNumbers depth (.optionalText content) := by
  cases content with
  | none => exact .null
  | some content => exact .text content

/-- A token of a plain value. -/
def Token.IsPlain (hasNumbers : Prop) : Token → Prop
  | .string spelled => spelled.isSome = true
  | .number literal => hasNumbers ∧ ∃ value : Nat, literal = toString value
  | _ => True

/-- What holds of the tokens of each item holds of those of an array. -/
theorem forall_mem_itemTokens
    {holds : Token → Prop}
    {items : List Json}
    (punctuation : holds .comma ∧ holds .closeArray)
    (each : ∀ item ∈ items, ∀ token ∈ item.tokens, holds token) :
    ∀ token ∈ itemTokens items, holds token := by
  induction items with
  | nil =>
      simpa [itemTokens] using punctuation.2
  | cons item others inductionHypothesis =>
      simp only [List.forall_mem_cons] at each
      simp only [itemTokens, List.forall_mem_cons, List.forall_mem_append]
      exact ⟨punctuation.1, each.1, inductionHypothesis each.2⟩

/-- What holds of the tokens of each field holds of those of a record. -/
theorem forall_mem_fieldTokens
    {holds : Token → Prop}
    {fields : List (String × Json)}
    (punctuation : holds .comma ∧ holds .colon ∧ holds .closeObject)
    (names : ∀ name, holds (.string (some name)))
    (each : ∀ field ∈ fields, ∀ token ∈ field.2.tokens, holds token) :
    ∀ token ∈ fieldTokens (fields.map fun field => (some field.1, field.2)),
      holds token := by
  induction fields with
  | nil =>
      simpa [fieldTokens] using punctuation.2.2
  | cons field others inductionHypothesis =>
      simp only [List.forall_mem_cons] at each
      simp only [List.map_cons, fieldTokens, List.forall_mem_cons,
        List.forall_mem_append]
      exact ⟨punctuation.1, names field.1, punctuation.2.1, each.1,
        inductionHypothesis each.2⟩

/-- The tokens of an array but the first are those of its items, commas aside. -/
theorem forall_mem_tokens_array
    {holds : Token → Prop}
    {items : List Json}
    (punctuation : holds .openArray ∧ holds .comma ∧ holds .closeArray)
    (each : ∀ item ∈ items, ∀ token ∈ item.tokens, holds token) :
    ∀ token ∈ (Json.array items).tokens, holds token := by
  cases items with
  | nil =>
      simpa [tokens] using ⟨punctuation.1, punctuation.2.2⟩
  | cons first others =>
      simp only [List.forall_mem_cons] at each
      simp only [tokens, List.forall_mem_cons, List.forall_mem_append]
      exact ⟨punctuation.1, each.1,
        forall_mem_itemTokens punctuation.2 each.2⟩

/-- The tokens of a record are its names and those of its values. -/
theorem forall_mem_tokens_record
    {holds : Token → Prop}
    {fields : List (String × Json)}
    (opening : holds .openObject)
    (punctuation : holds .comma ∧ holds .colon ∧ holds .closeObject)
    (names : ∀ name, holds (.string (some name)))
    (each : ∀ field ∈ fields, ∀ token ∈ field.2.tokens, holds token) :
    ∀ token ∈ (Json.record fields).tokens, holds token := by
  cases fields with
  | nil =>
      simpa [record_eq, tokens] using ⟨opening, punctuation.2.2⟩
  | cons first others =>
      simp only [List.forall_mem_cons] at each
      simp only [record_eq, List.map_cons, tokens, List.forall_mem_cons,
        List.forall_mem_append]
      exact ⟨opening, names first.1, punctuation.2.1, each.1,
        forall_mem_fieldTokens punctuation names each.2⟩

/-- The tokens of a plain value are plain. -/
theorem IsPlain.tokens
    {hasNumbers : Prop}
    {depth : Nat}
    {value : Json}
    (plain : IsPlain hasNumbers depth value) :
    ∀ token ∈ value.tokens, token.IsPlain hasNumbers := by
  induction plain with
  | null | bool _ =>
      simp [Json.tokens, Token.IsPlain]
  | text content =>
      simp [Json.tokens, Json.text, Token.IsPlain]
  | nat allowed value =>
      intro token among
      rw [Json.nat, Json.tokens, List.mem_singleton] at among
      subst among
      exact ⟨allowed, value, rfl⟩
  | array _ inductionHypothesis =>
      exact forall_mem_tokens_array ⟨trivial, trivial, trivial⟩
        inductionHypothesis
  | record _ inductionHypothesis =>
      exact forall_mem_tokens_record trivial ⟨trivial, trivial, trivial⟩
        (fun _ => rfl) inductionHypothesis

/-- A plain value is written in sound tokens. -/
theorem IsPlain.isSound
    {hasNumbers : Prop}
    {depth : Nat}
    {value : Json}
    (plain : IsPlain hasNumbers depth value) :
    IsSound value.tokens := by
  intro token among
  have tokenPlain := plain.tokens token among
  cases token with
  | number literal => exact tokenPlain.2
  | string spelled => exact tokenPlain
  | _ => trivial

/-- A plain value without numbers is written in tokens that are kept as they are. -/
theorem IsPlain.isKept
    {depth : Nat}
    {value : Json}
    (plain : IsPlain False depth value) :
    value.tokens.all Token.isKept = true := by
  refine List.all_eq_true.mpr fun token among => ?_
  have tokenPlain := plain.tokens token among
  cases token with
  | number literal => exact tokenPlain.1.elim
  | string spelled =>
      cases spelled with
      | none => cases tokenPlain
      | some content => rfl
  | _ => rfl

/-- An array is as deep as the deepest of its items. -/
theorem depthOfItems_le
    {items : List Json}
    {depth : Nat}
    (each : ∀ item ∈ items, item.depth ≤ depth) :
    depthOfItems items ≤ depth := by
  induction items with
  | nil =>
      exact Nat.zero_le depth
  | cons item others inductionHypothesis =>
      simp only [List.forall_mem_cons] at each
      exact Nat.max_le.mpr ⟨each.1, inductionHypothesis each.2⟩

/-- A record is as deep as the deepest of its fields. -/
theorem depthOfFields_le
    {fields : List (String × Json)}
    {depth : Nat}
    (each : ∀ field ∈ fields, field.2.depth ≤ depth) :
    depthOfFields (fields.map fun field => (some field.1, field.2)) ≤
      depth := by
  induction fields with
  | nil =>
      exact Nat.zero_le depth
  | cons field others inductionHypothesis =>
      simp only [List.forall_mem_cons] at each
      exact Nat.max_le.mpr ⟨each.1, inductionHypothesis each.2⟩

/-- A plain value is as deep as it is said to be. -/
theorem IsPlain.depth_le
    {hasNumbers : Prop}
    {depth : Nat}
    {value : Json}
    (plain : IsPlain hasNumbers depth value) :
    value.depth ≤ depth := by
  induction plain with
  | null | bool _ | text _ | nat _ _ =>
      exact Nat.zero_le _
  | @array depth items _ inductionHypothesis =>
      have inner := depthOfItems_le inductionHypothesis
      rw [Json.depth]
      omega
  | @record depth fields _ inductionHypothesis =>
      have inner := depthOfFields_le inductionHypothesis
      rw [record_eq, Json.depth]
      omega

/-! ## Values read back -/

@[simp]
theorem text?_text
    (content : String) :
    (text content).text? = some content :=
  rfl

@[simp]
theorem bool?_bool
    (value : Bool) :
    (Json.bool value).bool? = some value :=
  rfl

@[simp]
theorem nullable?_optionalText
    (content : Option String) :
    (optionalText content).nullable? text? = some content := by
  cases content <;> rfl

/-- A number below a limit is read as it is. -/
theorem natBelow?_nat
    {limit value : Nat}
    (below : value < limit) :
    (Json.nat value).natBelow? limit = some value := by
  have allDigits : (Nat.toDigits 10 value).all Char.isDigit = true :=
    List.all_eq_true.mpr (isDigit_of_mem_toDigits value)
  simp [Json.nat, natBelow?, allDigits, decimalValue_toDigits, below]

/-- A list is read as it was written, if each item is. -/
theorem list?_map
    {read : Json → Option α}
    {write : α → Json}
    {items : List α}
    (each : ∀ item ∈ items, read (write item) = some item) :
    (Json.array (items.map write)).list? read = some items := by
  change (items.map write).mapM read = some items
  induction items with
  | nil =>
      rfl
  | cons item others inductionHypothesis =>
      simp only [List.forall_mem_cons] at each
      simp [each.1, inductionHypothesis each.2]

/-! ## Records read back -/

/-- A field occurs first if it has one of the names. -/
theorem occurrences_cons
    (names : FieldNames)
    (name : String)
    (value : Json)
    (others : List (Spelled × Json)) :
    Record.occurrences names ((some name, value) :: others) =
      if names.contains name then
        value :: Record.occurrences names others
      else Record.occurrences names others := by
  rw [Record.occurrences, List.filterMap_cons]
  split <;> simp_all [Record.occurrences]

/-- A name that is not written is not found. -/
theorem lookup_eq_none
    {name : String}
    {fields : List (String × Json)}
    (absent : name ∉ fields.map Prod.fst) :
    fields.lookup name = none := by
  refine List.lookup_eq_none_iff.mpr fun field among => ?_
  refine bne_iff_ne.mpr ?_
  intro same
  exact absent (same ▸ List.mem_map_of_mem among)

/-- Where names are distinct, each is given at most once. -/
theorem occurrences_record
    (name : String)
    {fields : List (String × Json)}
    (distinct : (fields.map Prod.fst).Nodup) :
    Record.occurrences [name]
        (fields.map fun field => (some field.1, field.2)) =
      (fields.lookup name).toList := by
  induction fields with
  | nil =>
      rfl
  | cons field others inductionHypothesis =>
      obtain ⟨key, value⟩ := field
      simp only [List.map_cons, List.nodup_cons] at distinct
      rw [List.map_cons, occurrences_cons, inductionHypothesis distinct.2]
      by_cases same : name = key
      · subst same
        simp [lookup_eq_none distinct.1]
      · have differs : (name == key) = false := by
          simpa using same
        simp [List.lookup_cons, differs, Ne.symm same]

/-- A field that is given once or not at all is read as such. -/
theorem only?_toList
    (value : Option Json) :
    Record.only? value.toList = some value := by
  cases value <;> rfl

/-- A record that is given by name has each field that was written, if it was. -/
theorem record?_record
    (names : List String)
    {fields : List (String × Json)}
    (distinct : (fields.map Prod.fst).Nodup) :
    (Json.record fields).record? (names.map fun name => [name]) =
      some
        ⟨true, names.map fun name => (name, fields.lookup name)⟩ := by
  have found (name : String) :
      Record.only?
          (Record.occurrences [name]
            (fields.map fun field => (some field.1, field.2))) =
        some (fields.lookup name) := by
    rw [occurrences_record name distinct, only?_toList]
  have allFound :
      (names.map fun name => [name]).mapM
          (fun names => do
            return (names.headD "",
              ← Record.only?
                (Record.occurrences names
                  (fields.map fun field => (some field.1, field.2))))) =
        some (names.map fun name => (name, fields.lookup name)) := by
    induction names with
    | nil =>
        rfl
    | cons name others inductionHypothesis =>
        rw [List.map_cons, List.mapM_cons, inductionHypothesis, found]
        rfl
  rw [record_eq, record?, Record.ofFields?, allFound]
  simp

/-- Reading a record that is given by name goes on with the fields that were written. -/
theorem read_record
    (names : List String)
    {fields : List (String × Json)}
    (distinct : (fields.map Prod.fst).Nodup)
    {build : Record → Option α} :
    ((Json.record fields).record? (names.map fun name => [name])).bind build =
      build
        ⟨true, names.map fun name => (name, fields.lookup name)⟩ := by
  rw [record?_record names distinct, Option.bind_some]

/-- A tagged record is read as its tag and what was written beside it. -/
theorem tagged?_record
    (tag : String)
    {fields : List (String × Json)}
    (distinct : (fields.map Prod.fst).Nodup)
    (untagged : "type" ∉ fields.map Prod.fst) :
    (Json.record (("type", .text tag) :: fields)).tagged? =
      some (tag, .record fields) := by
  have others :
      (fields.map fun field => (some field.1, field.2)).filter
          (fun field => field.1 != some "type") =
        fields.map fun field => (some field.1, field.2) := by
    refine List.filter_eq_self.mpr fun field among => ?_
    obtain ⟨written, present, rfl⟩ := List.mem_map.mp among
    have differs : written.1 ≠ "type" := by
      intro same
      exact untagged (same ▸ List.mem_map_of_mem present)
    simpa using differs
  rw [record_eq, record_eq, List.map_cons, tagged?, occurrences_cons,
    occurrences_record "type" distinct, lookup_eq_none untagged]
  simp [Record.only?, others]

/-- Reading a tagged record goes on with the fields that were written beside the tag. -/
theorem read_tagged
    (ofTagged? : String → Json → Option α)
    (tag : String)
    (names : List String)
    {fields : List (String × Json)}
    (distinct : (fields.map Prod.fst).Nodup)
    (untagged : "type" ∉ fields.map Prod.fst)
    {build : Record → Option α}
    (tagged :
      ∀ content,
        ofTagged? tag content =
          (content.record? (names.map fun name => [name])).bind build) :
    (Json.record (("type", .text tag) :: fields)).tagged?.bind
        (fun found => ofTagged? found.1 found.2) =
      build
        ⟨true, names.map fun name => (name, fields.lookup name)⟩ := by
  rw [tagged?_record tag distinct untagged, Option.bind_some, tagged,
    read_record names distinct]

end Json

/-! ## Types that read their own forms -/

/-- A type whose values are read back from the forms in which they are written. -/
class Wire.ReadsBack (α : Type) [Wire α] : Prop where
  /-- What is written for a value is read as that value. -/
  ofJson?_toJson :
    ∀ value : α, Wire.ofJson? (Wire.toJson value) = some value

namespace Wire

attribute [simp] ReadsBack.ofJson?_toJson

instance : ReadsBack UInt64 where
  ofJson?_toJson value := by
    have read := Json.natBelow?_nat value.toNat_lt
    change ((Json.nat value.toNat).natBelow? UInt64.size).map _ = some value
    rw [read]
    simp

instance : ReadsBack UInt32 where
  ofJson?_toJson value := by
    have read := Json.natBelow?_nat value.toNat_lt
    change ((Json.nat value.toNat).natBelow? UInt32.size).map _ = some value
    rw [read]
    simp

instance : ReadsBack CredentialState where
  ofJson?_toJson state := by
    cases state <;> rfl

instance : ReadsBack SignIn where
  ofJson?_toJson signIn := by
    cases signIn <;> rfl

instance : ReadsBack JobStatus where
  ofJson?_toJson status := by
    cases status <;> rfl

instance : ReadsBack Intent where
  ofJson?_toJson intent := by
    cases intent <;> rfl

instance : ReadsBack Phase where
  ofJson?_toJson phase := by
    cases phase <;> rfl

instance : ReadsBack ArtifactLocator where
  ofJson?_toJson _ := rfl

instance : ReadsBack Engagement where
  ofJson?_toJson _ := rfl

instance : ReadsBack FollowUpOption where
  ofJson?_toJson _ := rfl

instance : ReadsBack FollowUp where
  ofJson?_toJson followUp := by
    have options :=
      @Json.list?_map _ Wire.ofJson? Wire.toJson followUp.options
        (fun option _ => ReadsBack.ofJson?_toJson option)
    refine (Json.read_record ["text", "options"] (by simp)).trans ?_
    simp [Json.Record.required, Json.Record.given, List.lookup_cons, options]

instance : ReadsBack StartedAssessment where
  ofJson?_toJson _ := by
    refine (Json.read_record ["assessmentId", "status"] (by simp)).trans ?_
    simp [Json.Record.required, Json.Record.given, List.lookup_cons]

instance : ReadsBack AssessmentReport where
  ofJson?_toJson _ := by
    refine (Json.read_record ["status", "statusDetail"] (by simp)).trans ?_
    simp [Json.Record.required, Json.Record.withDefault,
      Json.Record.given, List.lookup_cons]

instance : ReadsBack StartedInteraction where
  ofJson?_toJson _ := by
    refine (Json.read_record ["interactionId", "status"] (by simp)).trans ?_
    simp [Json.Record.required, Json.Record.given, List.lookup_cons]

instance : ReadsBack InteractionReport where
  ofJson?_toJson _ := by
    refine (Json.read_record ["status", "responseText"] (by simp)).trans ?_
    simp [Json.Record.required, Json.Record.withDefault,
      Json.Record.given, List.lookup_cons]

instance : ReadsBack RemoteSettings where
  ofJson?_toJson _ := by
    refine
      (Json.read_record
        ["endpoint", "request_timeout_secs", "identity_token"]
        (by simp)).trans ?_
    simp [Json.Record.withDefault, Json.Record.given, List.lookup_cons]

instance : ReadsBack PollingSettings where
  ofJson?_toJson _ := by
    refine
      (Json.read_record ["interval_ms", "max_consecutive_errors"]
        (by simp)).trans ?_
    simp [Json.Record.withDefault, Json.Record.given, List.lookup_cons]

instance : ReadsBack ArtifactSettings where
  ofJson?_toJson _ := by
    refine (Json.read_record ["directory"] (by simp)).trans ?_
    simp [Json.Record.withDefault, Json.Record.given, List.lookup_cons]

instance : ReadsBack Config where
  ofJson?_toJson _ := by
    refine
      (Json.read_record ["remote", "polling", "artifacts"]
        (by simp)).trans ?_
    simp [Json.Record.withDefault, Json.Record.given, List.lookup_cons]

instance : ReadsBack SnapshotFile where
  ofJson?_toJson _ := by
    refine (Json.read_record ["path", "size", "content"] (by simp)).trans ?_
    simp [Json.Record.required, Json.Record.given, List.lookup_cons]

instance : ReadsBack WorkspaceSnapshot where
  ofJson?_toJson snapshot := by
    have files :=
      @Json.list?_map _ Wire.ofJson? Wire.toJson snapshot.files
        (fun file _ => ReadsBack.ofJson?_toJson file)
    refine (Json.read_record ["rootName", "files"] (by simp)).trans ?_
    simp [Json.Record.required, Json.Record.given, List.lookup_cons, files]

/-- A context is read back if the time at which it started is. -/
theorem ofJson?_toJson_context
    {context : Context}
    (startedAt :
      Wire.ofJson? (Wire.toJson context.startedAt) =
        some context.startedAt) :
    Wire.ofJson? (Wire.toJson context) = some context := by
  refine
    (Json.read_record
      ["session_id", "trace_id", "started_at", "prompt", "engagement_id",
        "assessment_id", "interaction_id", "error"]
      (by simp)).trans ?_
  simp [Json.Record.required, Json.Record.optional, Json.Record.given,
    List.lookup_cons, startedAt]

/-- So is a snapshot. -/
theorem ofJson?_toJson_sessionSnapshot
    {snapshot : SessionSnapshot}
    (startedAt :
      Wire.ofJson? (Wire.toJson snapshot.startedAt) =
        some snapshot.startedAt) :
    Wire.ofJson? (Wire.toJson snapshot) = some snapshot := by
  refine
    (Json.read_record
      ["sessionId", "state", "traceId", "startedAt", "engagementId",
        "assessmentId", "interactionId", "busy", "isAuthenticating"]
      (by simp)).trans ?_
  simp [Json.Record.required, Json.Record.optional, Json.Record.given,
    List.lookup_cons, startedAt]

/-- A follow-up that may be missing is read as it was written. -/
theorem nullable?_followUp
    (followUp : FollowUp) :
    (Wire.toJson followUp).nullable? Wire.ofJson? = some (some followUp) :=
  congrArg (Option.map some) (ReadsBack.ofJson?_toJson followUp)

instance : ReadsBack Event where
  ofJson?_toJson event := by
    obtain ⟨sessionId, notice⟩ := event
    cases notice with
    | answer message followUp canBeVoted =>
        cases followUp with
        | none =>
            rfl
        | some followUp =>
            refine
              (Json.read_tagged Event.ofTagged? "answer"
                ["sessionId", "message", "followUp", "canBeVoted"]
                (by simp) (by simp) (fun _ => rfl)).trans ?_
            simp [Json.Record.required, Json.Record.withDefault,
              Json.Record.given, List.lookup_cons, nullable?_followUp]
    | answerStream messageId message =>
        rfl
    | placeholder text =>
        rfl
    | signInNeeded signIn message =>
        cases signIn <;> rfl
    | inputEnabled enabled =>
        rfl

instance : ReadsBack Command where
  ofJson?_toJson command := by
    cases command with
    | authChanged sessionId authenticated =>
        cases sessionId <;> rfl
    | downloadPlan sessionId destination =>
        cases destination <;> rfl
    | signInClicked sessionId signIn =>
        cases signIn <;> rfl
    | _ =>
        rfl

/-! ## Types with plain forms -/

/-- A type whose forms are plain and at most so deep. -/
class WritesPlain (α : Type) [Wire α] (hasNumbers : Prop) (depth : Nat) :
    Prop where
  /-- What is written for a value is plain. -/
  isPlain_toJson :
    ∀ value : α, Json.IsPlain hasNumbers depth (toJson value)

attribute [simp] WritesPlain.isPlain_toJson

variable {hasNumbers : Prop} {depth : Nat}

/-- A list of plain forms is one container deeper than they are. -/
@[simp]
theorem isPlain_map
    [Wire α]
    [WritesPlain α hasNumbers depth]
    (items : List α) :
    Json.IsPlain hasNumbers (depth + 1) (.array (items.map toJson)) := by
  refine .array fun form among => ?_
  obtain ⟨item, -, rfl⟩ := List.mem_map.mp among
  exact WritesPlain.isPlain_toJson item

instance : WritesPlain SignIn hasNumbers depth where
  isPlain_toJson signIn := .text signIn.name

instance : WritesPlain JobStatus hasNumbers depth where
  isPlain_toJson status := .text status.name

instance : WritesPlain Intent hasNumbers depth where
  isPlain_toJson intent := .text intent.name

instance : WritesPlain Phase hasNumbers depth where
  isPlain_toJson phase := .text phase.name

instance : WritesPlain Timestamp hasNumbers depth where
  isPlain_toJson moment := .text moment.write

instance : WritesPlain ArtifactLocator hasNumbers depth where
  isPlain_toJson locator := .text locator.location

instance : WritesPlain UInt64 True depth where
  isPlain_toJson value := .nat trivial value.toNat

instance : WritesPlain UInt32 True depth where
  isPlain_toJson value := .nat trivial value.toNat

instance : WritesPlain FollowUpOption hasNumbers (depth + 1) where
  isPlain_toJson _ := .record (by simp)

instance : WritesPlain FollowUp hasNumbers (depth + 3) where
  isPlain_toJson _ := .record (by simp)

instance : WritesPlain Event hasNumbers (depth + 4) where
  isPlain_toJson event := by
    obtain ⟨sessionId, notice⟩ := event
    refine .record ?_
    cases notice with
    | answer message followUp canBeVoted =>
        cases followUp <;> simp [Event.wireFields]
    | _ =>
        simp [Event.wireFields]

instance : WritesPlain Command hasNumbers (depth + 2) where
  isPlain_toJson command := by
    refine .record ?_
    cases command <;> simp [Command.wireFields]

instance : WritesPlain Context True (depth + 1) where
  isPlain_toJson _ := .record (by simp)

instance : WritesPlain SessionSnapshot True (depth + 1) where
  isPlain_toJson _ := .record (by simp)

instance : WritesPlain RemoteSettings True (depth + 1) where
  isPlain_toJson _ := .record (by simp)

instance : WritesPlain PollingSettings True (depth + 1) where
  isPlain_toJson _ := .record (by simp)

instance : WritesPlain ArtifactSettings True (depth + 1) where
  isPlain_toJson _ := .record (by simp)

instance : WritesPlain Config True (depth + 2) where
  isPlain_toJson _ := .record (by simp)

instance : WritesPlain Engagement hasNumbers (depth + 1) where
  isPlain_toJson _ := .record (by simp)

instance : WritesPlain StartedAssessment hasNumbers (depth + 1) where
  isPlain_toJson _ := .record (by simp)

instance : WritesPlain AssessmentReport hasNumbers (depth + 1) where
  isPlain_toJson _ := .record (by simp)

instance : WritesPlain StartedInteraction hasNumbers (depth + 1) where
  isPlain_toJson _ := .record (by simp)

instance : WritesPlain InteractionReport hasNumbers (depth + 1) where
  isPlain_toJson _ := .record (by simp)

instance : WritesPlain SnapshotFile True (depth + 1) where
  isPlain_toJson _ := .record (by simp)

instance : WritesPlain WorkspaceSnapshot True (depth + 3) where
  isPlain_toJson _ := .record (by simp)

/-- The text of a plain form is parsed into it. -/
theorem parse?_write
    (hasNumbers : Prop)
    (depth : Nat)
    [Wire α]
    [WritesPlain α hasNumbers depth]
    (value : α) :
    Json.parse? (write value) = some (toJson value) :=
  have plain : (toJson value).IsPlain hasNumbers depth :=
    WritesPlain.isPlain_toJson value
  Json.parse?_compact plain.isSound

/-- Without numbers and not too deep, it is also kept in full. -/
theorem parseWhole?_write
    (depth : Nat)
    (within : depth ≤ Json.nestingLimit)
    [Wire α]
    [WritesPlain α False depth]
    (value : α) :
    Json.parseWhole? (write value) = some (toJson value) :=
  have plain : (toJson value).IsPlain False depth :=
    WritesPlain.isPlain_toJson value
  Json.parseWhole?_compact plain.isSound plain.isKept
    (Nat.le_trans plain.depth_le within)

end Wire

end AssessmentChat
