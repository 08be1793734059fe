import AssessmentChat.Command
import AssessmentChat.Wire.Basic

namespace AssessmentChat

/-!
# Wire forms of events and commands

An event or a command is a record whose tag says what it is.  It is kept in full
before it is read, because its tag may come last.
-/

instance : Wire CredentialState where
  toJson state := .text state.name
  ofJson? json := json.caseName? >>= Wire.named? CredentialState.all CredentialState.name

instance : Wire SignIn where
  toJson signIn := .text signIn.name
  ofJson? json := json.caseName? >>= Wire.named? SignIn.all SignIn.name

/-- The way of signing in that is named inside an event or a command. -/
def SignIn.ofKeptJson? (json : Json) : Option SignIn :=
  json.keptCaseName? >>= Wire.named? SignIn.all SignIn.name

instance : Wire FollowUpOption where
  toJson option :=
    .record [("pillText", .text option.pillText), ("prompt", .text option.prompt)]
  ofJson? json := do
    let record ← json.record? [["pillText"], ["prompt"]]
    return ⟨← record.required "pillText" Json.text?, ← record.required "prompt" Json.text?⟩

instance : Wire FollowUp where
  toJson followUp :=
    .record
      [("text", .text followUp.text),
        ("options", .array (followUp.options.map Wire.toJson))]
  ofJson? json := do
    let record ← json.record? [["text"], ["options"]]
    return ⟨← record.required "text" Json.text?,
      ← record.required "options" (Json.list? Wire.ofJson?)⟩

/-! ## Events -/

/-- The fields of an event, its tag first. -/
def Event.wireFields (event : Event) : List (String × Json) :=
  match event.notice with
  | .answer message followUp canBeVoted =>
      [("type", .text "answer"), ("sessionId", .text event.sessionId),
        ("message", .text message)] ++
        (followUp.map fun suggestions => ("followUp", Wire.toJson suggestions)).toList ++
        [("canBeVoted", .bool canBeVoted)]
  | .answerStream messageId message =>
      [("type", .text "answerStream"), ("sessionId", .text event.sessionId),
        ("messageId", .text messageId), ("message", .text message)]
  | .placeholder text =>
      [("type", .text "placeholderUpdate"), ("sessionId", .text event.sessionId),
        ("placeholder", .text text)]
  | .signInNeeded signIn message =>
      [("type", .text "authNeeded"), ("sessionId", .text event.sessionId),
        ("authType", Wire.toJson signIn), ("message", .text message)]
  | .inputEnabled enabled =>
      [("type", .text "inputEnabled"), ("sessionId", .text event.sessionId),
        ("enabled", .bool enabled)]

/-- The event that a tag and the fields beside it stand for. -/
def Event.ofTagged? (tag : String) (content : Json) : Option Event :=
  match tag with
  | "answer" => do
      let record ← content.record? [["sessionId"], ["message"], ["followUp"], ["canBeVoted"]]
      return ⟨← record.required "sessionId" Json.text?,
        .answer (← record.required "message" Json.text?)
          (← record.withDefault "followUp" none (Json.nullable? Wire.ofJson?))
          (← record.withDefault "canBeVoted" false Json.bool?)⟩
  | "answerStream" => do
      let record ← content.record? [["sessionId"], ["messageId"], ["message"]]
      return ⟨← record.required "sessionId" Json.text?,
        .answerStream (← record.required "messageId" Json.text?)
          (← record.required "message" Json.text?)⟩
  | "placeholderUpdate" => do
      let record ← content.record? [["sessionId"], ["placeholder"]]
      return ⟨← record.required "sessionId" Json.text?,
        .placeholder (← record.required "placeholder" Json.text?)⟩
  | "authNeeded" => do
      let record ← content.record? [["sessionId"], ["authType"], ["message"]]
      return ⟨← record.required "sessionId" Json.text?,
        .signInNeeded (← record.required "authType" SignIn.ofKeptJson?)
          (← record.required "message" Json.text?)⟩
  | "inputEnabled" => do
      let record ← content.record? [["sessionId"], ["enabled"]]
      return ⟨← record.required "sessionId" Json.text?,
        .inputEnabled (← record.required "enabled" Json.bool?)⟩
  | _ => none

instance : Wire Event where
  toJson event := .record event.wireFields
  ofJson? json := do
    let (tag, content) ← json.tagged?
    Event.ofTagged? tag content
  parse? := Json.parseWhole?

/-! ## Commands -/

/-- The fields of a command, its tag first. -/
def Command.wireFields : Command → List (String × Json)
  | .chatMessage sessionId message =>
      [("type", .text "chatMessage"), ("sessionId", .text sessionId),
        ("message", .text message)]
  | .stopResponse sessionId =>
      [("type", .text "stopResponse"), ("sessionId", .text sessionId)]
  | .tabClosed sessionId =>
      [("type", .text "tabClosed"), ("sessionId", .text sessionId)]
  | .authChanged sessionId authenticated =>
      [("type", .text "authChanged"), ("sessionId", .optionalText sessionId),
        ("authenticated", .bool authenticated)]
  | .followUpClicked sessionId followUp =>
      [("type", .text "followUpClicked"), ("sessionId", .text sessionId),
        ("followUp", Wire.toJson followUp)]
  | .help sessionId =>
      [("type", .text "help"), ("sessionId", .text sessionId)]
  | .downloadPlan sessionId destination =>
      [("type", .text "downloadPlan"), ("sessionId", .text sessionId),
        ("destination", .optionalText destination)]
  | .signInClicked sessionId signIn =>
      [("type", .text "authFollowUpClicked"), ("sessionId", .text sessionId),
        ("authType", Wire.toJson signIn)]

/-- The command that a tag and the fields beside it stand for. -/
def Command.ofTagged? (tag : String) (content : Json) : Option Command :=
  match tag with
  | "chatMessage" => do
      let record ← content.record? [["sessionId"], ["message"]]
      return .chatMessage (← record.required "sessionId" Json.text?)
        (← record.required "message" Json.text?)
  | "stopResponse" => do
      let record ← content.record? [["sessionId"]]
      return .stopResponse (← record.required "sessionId" Json.text?)
  | "tabClosed" => do
      let record ← content.record? [["sessionId"]]
      return .tabClosed (← record.required "sessionId" Json.text?)
  | "authChanged" => do
      let record ← content.record? [["sessionId"], ["authenticated"]]
      return .authChanged
        (← record.withDefault "sessionId" none (Json.nullable? Json.text?))
        (← record.required "authenticated" Json.bool?)
  | "followUpClicked" => do
      let record ← content.record? [["sessionId"], ["followUp"]]
      return .followUpClicked (← record.required "sessionId" Json.text?)
        (← record.required "followUp" Wire.ofJson?)
  | "help" => do
      let record ← content.record? [["sessionId"]]
      return .help (← record.required "sessionId" Json.text?)
  | "downloadPlan" => do
      let record ← content.record? [["sessionId"], ["destination"]]
      return .downloadPlan (← record.required "sessionId" Json.text?)
        (← record.withDefault "destination" none (Json.nullable? Json.text?))
  | "authFollowUpClicked" => do
      let record ← content.record? [["sessionId"], ["authType"]]
      return .signInClicked (← record.required "sessionId" Json.text?)
        (← record.required "authType" SignIn.ofKeptJson?)
  | _ => none

instance : Wire Command where
  toJson command := .record command.wireFields
  ofJson? json := do
    let (tag, content) ← json.tagged?
    Command.ofTagged? tag content
  parse? := Json.parseWhole?

end AssessmentChat
