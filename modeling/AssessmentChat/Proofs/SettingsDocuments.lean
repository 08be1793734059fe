import AssessmentChat.Config.Document
import AssessmentChat.Proofs.GivenSettings

namespace AssessmentChat

/-!
# Settings in a document

A document has a section for each part of the settings.  A section gives its settings by
name or in their order, and each is of one kind of value.  Just the documents that do so
are read, and what is read is what the document gives.
-/


namespace Toml

/-- What a value gives for the settings of a section: by name, or in their order. -/
inductive Gives (names : List String) : Toml → List (Option Toml) → Prop where
  | byName
      {origin : TableOrigin}
      {fields : List (String × Toml)} :
      Gives names (.table origin fields)
        (names.map fun name => fields.lookup name)
  | inOrder
      {items : List Toml} :
      Gives names (.array items) (names.mapIdx fun place _ => items[place]?)
  | tablesInOrder
      {latestFirst : List Toml} :
      Gives names (.tables latestFirst)
        (names.mapIdx fun place _ => latestFirst.reverse[place]?)
  /-- A date or a time has parts of its own, none of which is a setting. -/
  | moment
      {literal : String} :
      Gives names (.scalar (.moment literal)) (names.map fun _ => none)

/-- What a section gives that may be absent. -/
inductive SectionGives (names : List String) :
    Option Toml → List (Option Toml) → Prop where
  | absent :
      SectionGives names none (names.map fun _ => none)
  | present
      {value : Toml}
      {values : List (Option Toml)} :
      value.Gives names values →
      SectionGives names (some value) values

/-- The value that a natural number is given by. -/
def ofNatural (number : Nat) : Toml :=
  .scalar (.integer number)

end Toml

namespace GivenSettings

/-- What a source gives about the service, as values. -/
def remoteValues (given : GivenSettings) : List (Option Toml) :=
  [given.endpoint.map .text,
    given.requestTimeoutSeconds.map fun seconds => .ofNatural seconds.toNat,
    given.identityToken.map .text]

/-- What a source gives about the watching of jobs, as values. -/
def pollingValues (given : GivenSettings) : List (Option Toml) :=
  [given.intervalMilliseconds.map fun interval => .ofNatural interval.toNat,
    given.maxConsecutiveErrors.map fun limit => .ofNatural limit.toNat]

/-- What a source gives about the keeping of plans, as values. -/
def artifactValues (given : GivenSettings) : List (Option Toml) :=
  [given.plansFolder.map .text]

end GivenSettings

namespace Toml

/-- Whether a document says what a source does: its sections give just these values. -/
def Says
    (document : Toml)
    (given : GivenSettings) : Prop :=
  ∃ remote polling artifacts,
    document.Gives ["remote", "polling", "artifacts"]
        [remote, polling, artifacts] ∧
      SectionGives ["endpoint", "request_timeout_secs", "identity_token"]
        remote given.remoteValues ∧
      SectionGives ["interval_ms", "max_consecutive_errors"] polling
        given.pollingValues ∧
      SectionGives ["directory"] artifacts given.artifactValues

/-! ### Sections -/

/-- A name is paired with the item in its place. -/
theorem lookup_zip
    {names : List String}
    (different : names.Nodup)
    (items : List Toml)
    {place : Nat}
    {name : String}
    (isNamed : names[place]? = some name) :
    (names.zip items).lookup name = items[place]? := by
  induction names generalizing items place with
  | nil =>
      cases isNamed
  | cons first others inductionHypothesis =>
      obtain ⟨unused, othersDifferent⟩ := List.nodup_cons.mp different
      cases items with
      | nil =>
          rfl
      | cons item items =>
          cases place with
          | zero =>
              cases isNamed
              simp
          | succ place =>
              have isOther : others[place]? = some name := isNamed
              have apart : name ≠ first := by
                rintro rfl
                exact unused (List.mem_of_getElem? isOther)
              rw [List.zip_cons_cons, List.lookup_cons,
                beq_false_of_ne apart]
              exact inductionHypothesis othersDifferent items isOther

theorem map_lookup_zip
    {names : List String}
    (different : names.Nodup)
    (items : List Toml) :
    (names.map fun name => (names.zip items).lookup name) =
      names.mapIdx fun place _ => items[place]? := by
  refine List.ext_getElem? fun place => ?_
  rw [List.getElem?_map, List.getElem?_mapIdx]
  cases isNamed : names[place]? with
  | none =>
      rfl
  | some name =>
      exact congrArg some (lookup_zip different items isNamed)

/-- A section is looked up in just what the value gives. -/
theorem gives_iff
    {names : List String}
    (different : names.Nodup)
    {toml : Toml}
    {values : List (Option Toml)} :
    toml.Gives names values ↔
      ∃ settings, toml.section? names = some settings ∧
        names.map settings = values := by
  constructor
  · intro gives
    cases gives with
    | byName | moment =>
        exact ⟨_, rfl, rfl⟩
    | inOrder | tablesInOrder =>
        exact ⟨_, rfl, map_lookup_zip different _⟩
  · rintro ⟨settings, found, rfl⟩
    unfold section? at found
    split at found
    · cases found
      exact .byName
    · cases found
      rw [map_lookup_zip different]
      exact .inOrder
    · cases found
      rw [map_lookup_zip different]
      exact .tablesInOrder
    · cases found
      exact .moment
    · cases found

/-! ### Settings -/

theorem text?_eq_some
    {toml : Toml}
    {content : String} :
    toml.text? = some content ↔ toml = .text content := by
  cases toml <;> simp [text?]

theorem naturalBelow?_eq_some
    {toml : Toml}
    {limit number : Nat} :
    toml.naturalBelow? limit = some number ↔
      toml = ofNatural number ∧ number < limit := by
  constructor
  · intro read
    unfold naturalBelow? at read
    split at read
    next value =>
      split at read
      next within =>
        cases read
        have same : (value.toNat : Int) = value :=
          Int.toNat_of_nonneg within.1
        refine ⟨?_, by omega⟩
        rw [ofNatural, same]
      next =>
        cases read
    next =>
      cases read
  · rintro ⟨rfl, below⟩
    have within : (0 : Int) ≤ number ∧ (number : Int) < limit := by omega
    simp [naturalBelow?, ofNatural, within.2]

/-- A word of 64 bits is read from the number that it stands for. -/
theorem word64?_eq_some
    {toml : Toml}
    {word : UInt64} :
    (toml.naturalBelow? UInt64.size).map UInt64.ofNat = some word ↔
      toml = ofNatural word.toNat := by
  simp only [Option.map_eq_some_iff, naturalBelow?_eq_some]
  constructor
  · rintro ⟨number, ⟨rfl, below⟩, rfl⟩
    rw [UInt64.toNat_ofNat_of_lt' below]
  · rintro rfl
    exact ⟨word.toNat, ⟨rfl, word.toNat_lt⟩, UInt64.ofNat_toNat⟩

/-- A word of 32 bits is read from the number that it stands for. -/
theorem word32?_eq_some
    {toml : Toml}
    {word : UInt32} :
    (toml.naturalBelow? UInt32.size).map UInt32.ofNat = some word ↔
      toml = ofNatural word.toNat := by
  simp only [Option.map_eq_some_iff, naturalBelow?_eq_some]
  constructor
  · rintro ⟨number, ⟨rfl, below⟩, rfl⟩
    rw [UInt32.toNat_ofNat_of_lt' below]
  · rintro rfl
    exact ⟨word.toNat, ⟨rfl, word.toNat_lt⟩, UInt32.ofNat_toNat⟩

/-- A setting is read from what is given for it, and is the default if nothing is. -/
theorem Section.setting?_eq_some
    {α : Type}
    {settings : Section}
    {name : String}
    {default result : α}
    {read : Toml → Option α}
    {value : α → Toml}
    (reads :
      ∀ toml content, read toml = some content ↔ toml = value content) :
    settings.setting? name default read = some result ↔
      ∃ given : Option α,
        settings name = given.map value ∧ result = given.getD default := by
  unfold Section.setting?
  constructor
  · intro read
    split at read
    next toml found =>
      exact ⟨some result, found.trans (congrArg some ((reads _ _).mp read)),
        rfl⟩
    next found =>
      cases read
      exact ⟨none, found, rfl⟩
  · rintro ⟨given, found, rfl⟩
    cases given with
    | none =>
        rw [found]
        rfl
    | some content =>
        rw [found]
        exact (reads _ _).mpr rfl

/-- A text without a default is read from what is given for it. -/
theorem Section.optionalText?_eq_some
    {settings : Section}
    {name : String}
    {result : Option String} :
    (settings.setting? name none fun toml => toml.text?.map some) =
        some result ↔
      settings name = result.map .text := by
  unfold Section.setting?
  cases settings name with
  | none =>
      cases result <;> simp
  | some toml =>
      cases result <;> simp [text?_eq_some]

/--
A section is read from what its values are, and comes to the defaults if it is absent.
The source that the values are those of is not determined beyond the section.
-/
theorem Section.part?_eq_some
    {α : Type}
    {settings : Section}
    {name : String}
    {names : List String}
    {default result : α}
    {read : Toml → Option α}
    {values : GivenSettings → List (Option Toml)}
    {part : Config → α}
    (reads :
      ∀ toml content,
        read toml = some content ↔
          ∃ given, toml.Gives names (values given) ∧
            content = part (.ofSources [given]))
    (nothing : values {} = names.map fun _ => none)
    (none_eq :
      ∀ given,
        values given = values {} → part (.ofSources [given]) = default) :
    settings.setting? name default read = some result ↔
      ∃ given, SectionGives names (settings name) (values given) ∧
        result = part (.ofSources [given]) := by
  unfold Section.setting?
  cases found : settings name with
  | none =>
      constructor
      · rintro ⟨⟩
        refine ⟨{}, ?_, (none_eq {} rfl).symm⟩
        rw [nothing]
        exact .absent
      · rintro ⟨given, gives, rfl⟩
        generalize shape : values given = shown at gives
        cases gives with
        | absent =>
            exact congrArg some (none_eq given (shape.trans nothing.symm)).symm
  | some toml =>
      refine (reads toml result).trans ⟨?_, ?_⟩
      · rintro ⟨given, gives, rfl⟩
        exact ⟨given, .present gives, rfl⟩
      · rintro ⟨given, gives, rfl⟩
        cases gives with
        | present gives =>
            exact ⟨given, gives, rfl⟩

end Toml

/-! ### Parts -/

/-- What a section says about the service is read as the settings of that alone. -/
theorem RemoteSettings.ofToml?_eq_some
    {toml : Toml}
    {remote : RemoteSettings} :
    ofToml? toml = some remote ↔
      ∃ given : GivenSettings,
        toml.Gives ["endpoint", "request_timeout_secs", "identity_token"]
            given.remoteValues ∧
          remote = (Config.ofSources [given]).remote := by
  simp only [ofToml?, Option.bind_eq_bind, Option.bind_eq_some_iff,
    Option.pure_def, Option.some.injEq,
    Toml.Section.setting?_eq_some fun _ _ => Toml.text?_eq_some,
    Toml.Section.setting?_eq_some fun _ _ => Toml.word64?_eq_some,
    Toml.Section.optionalText?_eq_some]
  constructor
  · rintro ⟨settings, found, _, ⟨endpoint, first, rfl⟩, _,
      ⟨seconds, second, rfl⟩, token, third, rfl⟩
    refine
      ⟨{ endpoint, requestTimeoutSeconds := seconds, identityToken := token },
        (Toml.gives_iff (by decide)).mpr ⟨settings, found, ?_⟩, ?_⟩
    · simp only [List.map_cons, List.map_nil, first, second, third]
      rfl
    · rw [Config.remote_ofSources_one]
  · rintro ⟨given, gives, rfl⟩
    obtain ⟨settings, found, shape⟩ := (Toml.gives_iff (by decide)).mp gives
    simp only [List.map_cons, List.map_nil, GivenSettings.remoteValues,
      List.cons.injEq, and_true] at shape
    obtain ⟨first, second, third⟩ := shape
    exact
      ⟨settings, found, _, ⟨_, first, rfl⟩, _, ⟨_, second, rfl⟩, _, third,
        (Config.remote_ofSources_one given).symm⟩

/-- What a section says about the watching is read as the settings of that alone. -/
theorem PollingSettings.ofToml?_eq_some
    {toml : Toml}
    {polling : PollingSettings} :
    ofToml? toml = some polling ↔
      ∃ given : GivenSettings,
        toml.Gives ["interval_ms", "max_consecutive_errors"]
            given.pollingValues ∧
          polling = (Config.ofSources [given]).polling := by
  simp only [ofToml?, Option.bind_eq_bind, Option.bind_eq_some_iff,
    Option.pure_def, Option.some.injEq,
    Toml.Section.setting?_eq_some fun _ _ => Toml.word64?_eq_some,
    Toml.Section.setting?_eq_some fun _ _ => Toml.word32?_eq_some]
  constructor
  · rintro ⟨settings, found, _, ⟨interval, first, rfl⟩, _,
      ⟨limit, second, rfl⟩, rfl⟩
    refine
      ⟨{ intervalMilliseconds := interval, maxConsecutiveErrors := limit },
        (Toml.gives_iff (by decide)).mpr ⟨settings, found, ?_⟩, ?_⟩
    · simp only [List.map_cons, List.map_nil, first, second]
      rfl
    · rw [Config.polling_ofSources_one]
  · rintro ⟨given, gives, rfl⟩
    obtain ⟨settings, found, shape⟩ := (Toml.gives_iff (by decide)).mp gives
    simp only [List.map_cons, List.map_nil, GivenSettings.pollingValues,
      List.cons.injEq, and_true] at shape
    obtain ⟨first, second⟩ := shape
    exact
      ⟨settings, found, _, ⟨_, first, rfl⟩, _, ⟨_, second, rfl⟩,
        (Config.polling_ofSources_one given).symm⟩

/-- What a section says about plans is read as the settings of that alone. -/
theorem ArtifactSettings.ofToml?_eq_some
    {toml : Toml}
    {artifacts : ArtifactSettings} :
    ofToml? toml = some artifacts ↔
      ∃ given : GivenSettings,
        toml.Gives ["directory"] given.artifactValues ∧
          artifacts = (Config.ofSources [given]).artifacts := by
  simp only [ofToml?, Option.bind_eq_bind, Option.bind_eq_some_iff,
    Option.pure_def, Option.some.injEq, Toml.Section.optionalText?_eq_some]
  constructor
  · rintro ⟨settings, found, folder, first, rfl⟩
    refine
      ⟨{ plansFolder := folder },
        (Toml.gives_iff (by decide)).mpr ⟨settings, found, ?_⟩, ?_⟩
    · simp only [List.map_cons, List.map_nil, first]
      rfl
    · rw [Config.artifacts_ofSources_one]
  · rintro ⟨given, gives, rfl⟩
    obtain ⟨settings, found, shape⟩ := (Toml.gives_iff (by decide)).mp gives
    simp only [List.map_cons, List.map_nil, GivenSettings.artifactValues,
      List.cons.injEq, and_true] at shape
    exact
      ⟨settings, found, _, shape, (Config.artifacts_ofSources_one given).symm⟩

/-! ### Whole documents -/

namespace Toml.Section

variable
  {settings : Section}

/-- The section about the service is read as the settings of that alone. -/
theorem remote?_eq_some
    {remote : RemoteSettings} :
    settings.setting? "remote" {} RemoteSettings.ofToml? = some remote ↔
      ∃ given : GivenSettings,
        SectionGives ["endpoint", "request_timeout_secs", "identity_token"]
            (settings "remote") given.remoteValues ∧
          remote = (Config.ofSources [given]).remote := by
  refine part?_eq_some (fun _ _ => RemoteSettings.ofToml?_eq_some) rfl ?_
  intro given nothing
  simp only [GivenSettings.remoteValues, Option.map_none, List.cons.injEq,
    Option.map_eq_none_iff, and_true] at nothing
  rw [Config.remote_ofSources_one, nothing.1, nothing.2.1, nothing.2.2]
  rfl

/-- The section about the watching is read as the settings of that alone. -/
theorem polling?_eq_some
    {polling : PollingSettings} :
    settings.setting? "polling" {} PollingSettings.ofToml? = some polling ↔
      ∃ given : GivenSettings,
        SectionGives ["interval_ms", "max_consecutive_errors"]
            (settings "polling") given.pollingValues ∧
          polling = (Config.ofSources [given]).polling := by
  refine part?_eq_some (fun _ _ => PollingSettings.ofToml?_eq_some) rfl ?_
  intro given nothing
  simp only [GivenSettings.pollingValues, Option.map_none, List.cons.injEq,
    Option.map_eq_none_iff, and_true] at nothing
  rw [Config.polling_ofSources_one, nothing.1, nothing.2]
  rfl

/-- The section about plans is read as the settings of that alone. -/
theorem artifacts?_eq_some
    {artifacts : ArtifactSettings} :
    settings.setting? "artifacts" {} ArtifactSettings.ofToml? =
        some artifacts ↔
      ∃ given : GivenSettings,
        SectionGives ["directory"] (settings "artifacts")
            given.artifactValues ∧
          artifacts = (Config.ofSources [given]).artifacts := by
  refine part?_eq_some (fun _ _ => ArtifactSettings.ofToml?_eq_some) rfl ?_
  intro given nothing
  simp only [GivenSettings.artifactValues, Option.map_none, List.cons.injEq,
    Option.map_eq_none_iff, and_true] at nothing
  rw [Config.artifacts_ofSources_one, nothing]

end Toml.Section

/-- What is given about the service, about the watching and about plans. -/
def GivenSettings.joining
    (remote polling artifacts : GivenSettings) :
    GivenSettings where
  endpoint := remote.endpoint
  requestTimeoutSeconds := remote.requestTimeoutSeconds
  identityToken := remote.identityToken
  intervalMilliseconds := polling.intervalMilliseconds
  maxConsecutiveErrors := polling.maxConsecutiveErrors
  plansFolder := artifacts.plansFolder

namespace Config

/-- Exactly the documents that say something are read, and as what they say. -/
theorem ofToml?_eq_some
    {document : Toml}
    {config : Config} :
    ofToml? document = some config ↔
      ∃ given, document.Says given ∧ config = ofSources [given] := by
  simp only [ofToml?, Option.bind_eq_bind, Option.bind_eq_some_iff,
    Option.pure_def, Option.some.injEq, Toml.Section.remote?_eq_some,
    Toml.Section.polling?_eq_some, Toml.Section.artifacts?_eq_some]
  constructor
  · rintro ⟨settings, found, _, ⟨remote, first, rfl⟩, _,
      ⟨polling, second, rfl⟩, _, ⟨artifacts, third, rfl⟩, rfl⟩
    have gives := (Toml.gives_iff (by decide)).mpr ⟨settings, found, rfl⟩
    exact
      ⟨.joining remote polling artifacts,
        ⟨_, _, _, gives, first, second, third⟩, rfl⟩
  · rintro ⟨given, ⟨_, _, _, gives, first, second, third⟩, rfl⟩
    obtain ⟨settings, found, shape⟩ := (Toml.gives_iff (by decide)).mp gives
    simp only [List.map_cons, List.map_nil, List.cons.injEq, and_true]
      at shape
    obtain ⟨rfl, rfl, rfl⟩ := shape
    exact
      ⟨settings, found, _, ⟨given, first, rfl⟩, _, ⟨given, second, rfl⟩, _,
        ⟨given, third, rfl⟩, rfl⟩

/-- Exactly the texts of documents that say something valid are accepted. -/
theorem parse_eq_ok
    {text : String}
    {config : Config} :
    parse text = .ok config ↔
      ∃ document given,
        Toml.parse? text = some document ∧ document.Says given ∧
          (ofSources [given]).IsValid ∧ config = ofSources [given] := by
  unfold parse
  rw [Option.bind_eq_bind]
  cases read : (Toml.parse? text).bind ofToml? with
  | none =>
      constructor
      · intro accepted
        cases accepted
      · rintro ⟨document, given, parsed, isSaid, -, -⟩
        have isRead := ofToml?_eq_some.mpr ⟨given, isSaid, rfl⟩
        rw [parsed] at read
        exact nomatch isRead.symm.trans read
  | some result =>
      obtain ⟨document, parsed, isRead⟩ := Option.bind_eq_some_iff.mp read
      constructor
      · intro accepted
        obtain ⟨valid, rfl⟩ := validated_eq_ok.mp accepted
        obtain ⟨given, isSaid, rfl⟩ := ofToml?_eq_some.mp isRead
        exact ⟨document, given, parsed, isSaid, valid, rfl⟩
      · rintro ⟨_, given, parsedAgain, isSaid, valid, rfl⟩
        cases parsed.symm.trans parsedAgain
        cases isRead.symm.trans (ofToml?_eq_some.mpr ⟨given, isSaid, rfl⟩)
        exact validated_eq_ok.mpr ⟨valid, rfl⟩

end Config

end AssessmentChat
