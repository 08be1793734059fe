import AssessmentChat.Proofs.TimestampText
import AssessmentChat.Proofs.WireForms

namespace AssessmentChat

/-!
# Texts on the wire are read back

What is written for a value is read as that value.  So it does not matter in which form
a value came: written once, it stays the same.  Only a time can be out of reach of every
text, and then it was not read from one.
-/

/-- A time that is read from some text. -/
def Timestamp.IsRead (moment : Timestamp) : Prop :=
  ∃ text, Timestamp.read? text = some moment

/-- The times that are read are those that a text can name. -/
theorem Timestamp.isRead_iff_isNameable
    {moment : Timestamp} :
    moment.IsRead ↔ moment.IsNameable :=
  ⟨fun ⟨_, read⟩ => isNameable_of_read? read,
    fun nameable => ⟨_, read?_write nameable⟩⟩

namespace Wire

/-- A type whose values, or those of a kind, are read back from what is written. -/
structure RoundTrips (α : Type) [Wire α] (kind : α → Prop := fun _ => True) :
    Prop where
  /-- The text of a value is read as that value. -/
  read_write :
    ∀ value, kind value → Wire.read α (Wire.write value) = .ok value
  /-- A value that was read from any text is read again from its own. -/
  read_write_read :
    ∀ text value,
      Wire.read α text = .ok value →
        Wire.read α (Wire.write value) = .ok value

theorem read_eq_ok
    [Wire α]
    {text : String}
    {value : α} :
    Wire.read α text = .ok value ↔
      ∃ form, Wire.parse? α text = some form ∧ ofJson? form = some value := by
  have found :
      Wire.read? α text = some value ↔
        ∃ form,
          Wire.parse? α text = some form ∧ ofJson? form = some value :=
    Option.bind_eq_some_iff
  rw [← found, Wire.read]
  cases Wire.read? α text <;> simp

/-- The kinds of values for which it is enough that they are read from their own forms. -/
theorem roundTrips_of_reads
    [Wire α]
    {kind : α → Prop}
    (parsed :
      ∀ value : α, Wire.parse? α (Wire.write value) = some (toJson value))
    (reads : ∀ value, kind value → ofJson? (toJson value) = some value)
    (kept : ∀ form value, ofJson? form = some value → kind value) :
    RoundTrips α kind where
  read_write value isKind :=
    read_eq_ok.mpr ⟨_, parsed value, reads value isKind⟩
  read_write_read text value decoded := by
    obtain ⟨form, -, read⟩ := read_eq_ok.mp decoded
    exact read_eq_ok.mpr
      ⟨_, parsed value, reads value (kept form value read)⟩

/-- A type with plain forms that is read as deep as its texts go. -/
theorem roundTrips_of_plain
    [Wire α]
    [WritesPlain α True 4]
    [ReadsBack α]
    (parse : ∀ text, Wire.parse? α text = Json.parse? text) :
    RoundTrips α :=
  roundTrips_of_reads
    (fun value =>
      (parse _).trans (parse?_write True 4 value))
    (fun value _ => ReadsBack.ofJson?_toJson value)
    (fun _ _ _ => trivial)

/-- A type with plain forms that is kept in full before it is read. -/
theorem roundTrips_of_keptInFull
    [Wire α]
    [WritesPlain α False 4]
    [ReadsBack α]
    (parse : ∀ text, Wire.parse? α text = Json.parseWhole? text) :
    RoundTrips α :=
  roundTrips_of_reads
    (fun value =>
      (parse _).trans (parseWhole?_write 4 (by decide) value))
    (fun value _ => ReadsBack.ofJson?_toJson value)
    (fun _ _ _ => trivial)

/-! ## Conversations -/

theorem ofJson?_timestamp
    {form : Json}
    {moment : Timestamp}
    (read : Wire.ofJson? form = some moment) :
    moment.IsRead := by
  obtain ⟨text, -, read⟩ := Option.bind_eq_some_iff.mp read
  exact ⟨text, read⟩

theorem ofJson?_toJson_timestamp
    {moment : Timestamp}
    (isRead : moment.IsRead) :
    Wire.ofJson? (Wire.toJson moment) = some moment := by
  change (Json.text moment.write).text?.bind Timestamp.read? = some moment
  rw [Json.text?_text, Option.bind_some]
  exact Timestamp.read?_write (Timestamp.isRead_iff_isNameable.mp isRead)

/-- A required field was read from what was given for it. -/
theorem exists_of_required
    {record : Json.Record}
    {name : String}
    {read : Json → Option α}
    {value : α}
    (found : record.required name read = some value) :
    ∃ form, read form = some value := by
  obtain ⟨form, -, read⟩ := Option.bind_eq_some_iff.mp found
  exact ⟨form, read⟩

/-- The time at which a context started was read from a text. -/
theorem isRead_startedAt_context
    {form : Json}
    {context : Context}
    (read : Wire.ofJson? form = some context) :
    context.startedAt.IsRead := by
  obtain ⟨record, -, read⟩ := Option.bind_eq_some_iff.mp read
  obtain ⟨sessionId, -, read⟩ := Option.bind_eq_some_iff.mp read
  obtain ⟨traceId, -, read⟩ := Option.bind_eq_some_iff.mp read
  obtain ⟨startedAt, found, read⟩ := Option.bind_eq_some_iff.mp read
  obtain ⟨given, startedAtRead⟩ := exists_of_required found
  obtain ⟨goal, -, read⟩ := Option.bind_eq_some_iff.mp read
  obtain ⟨engagementId, -, read⟩ := Option.bind_eq_some_iff.mp read
  obtain ⟨assessmentId, -, read⟩ := Option.bind_eq_some_iff.mp read
  obtain ⟨interactionId, -, read⟩ := Option.bind_eq_some_iff.mp read
  obtain ⟨apology, -, read⟩ := Option.bind_eq_some_iff.mp read
  cases read
  exact ofJson?_timestamp startedAtRead

/-- So was that of a snapshot. -/
theorem isRead_startedAt_sessionSnapshot
    {form : Json}
    {snapshot : SessionSnapshot}
    (read : Wire.ofJson? form = some snapshot) :
    snapshot.startedAt.IsRead := by
  obtain ⟨record, -, read⟩ := Option.bind_eq_some_iff.mp read
  obtain ⟨sessionId, -, read⟩ := Option.bind_eq_some_iff.mp read
  obtain ⟨phase, -, read⟩ := Option.bind_eq_some_iff.mp read
  obtain ⟨traceId, -, read⟩ := Option.bind_eq_some_iff.mp read
  obtain ⟨startedAt, found, read⟩ := Option.bind_eq_some_iff.mp read
  obtain ⟨given, startedAtRead⟩ := exists_of_required found
  obtain ⟨engagementId, -, read⟩ := Option.bind_eq_some_iff.mp read
  obtain ⟨assessmentId, -, read⟩ := Option.bind_eq_some_iff.mp read
  obtain ⟨interactionId, -, read⟩ := Option.bind_eq_some_iff.mp read
  obtain ⟨busy, -, read⟩ := Option.bind_eq_some_iff.mp read
  obtain ⟨isAuthenticating, -, read⟩ := Option.bind_eq_some_iff.mp read
  cases read
  exact ofJson?_timestamp startedAtRead

theorem context_roundTrips :
    RoundTrips Context fun context => context.startedAt.IsRead :=
  roundTrips_of_reads
    (fun context => parse?_write True 4 context)
    (fun _ isRead =>
      ofJson?_toJson_context (ofJson?_toJson_timestamp isRead))
    (fun _ _ => isRead_startedAt_context)

theorem sessionSnapshot_roundTrips :
    RoundTrips SessionSnapshot fun snapshot => snapshot.startedAt.IsRead :=
  roundTrips_of_reads
    (fun snapshot => parse?_write True 4 snapshot)
    (fun _ isRead =>
      ofJson?_toJson_sessionSnapshot (ofJson?_toJson_timestamp isRead))
    (fun _ _ => isRead_startedAt_sessionSnapshot)

/--
Each type on the wire and in a replay is read back from what is written for it.  A
conversation and its snapshot are, whenever they started at a time that can be read.
-/
theorem wire_forms_round_trip :
    RoundTrips Command ∧
      RoundTrips Event ∧
      RoundTrips FollowUp ∧
      (RoundTrips Context fun context => context.startedAt.IsRead) ∧
      (RoundTrips SessionSnapshot fun snapshot =>
        snapshot.startedAt.IsRead) ∧
      RoundTrips Config ∧
      RoundTrips Intent ∧
      RoundTrips Engagement ∧
      RoundTrips StartedAssessment ∧
      RoundTrips AssessmentReport ∧
      RoundTrips StartedInteraction ∧
      RoundTrips InteractionReport ∧
      RoundTrips ArtifactLocator ∧
      RoundTrips WorkspaceSnapshot :=
  ⟨roundTrips_of_keptInFull fun _ => rfl,
    roundTrips_of_keptInFull fun _ => rfl,
    roundTrips_of_plain fun _ => rfl,
    context_roundTrips,
    sessionSnapshot_roundTrips,
    roundTrips_of_plain fun _ => rfl,
    roundTrips_of_plain fun _ => rfl,
    roundTrips_of_plain fun _ => rfl,
    roundTrips_of_plain fun _ => rfl,
    roundTrips_of_plain fun _ => rfl,
    roundTrips_of_plain fun _ => rfl,
    roundTrips_of_plain fun _ => rfl,
    roundTrips_of_plain fun _ => rfl,
    roundTrips_of_plain fun _ => rfl⟩

end Wire

end AssessmentChat
