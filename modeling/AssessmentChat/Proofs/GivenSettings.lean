import AssessmentChat.Config
import AssessmentChat.Proofs.Numerals
import AssessmentChat.Proofs.Trimming

namespace AssessmentChat

/-!
# What the sources of settings give

A source of settings says something about some of them and nothing about the others.
Several sources one above the other make up all settings: each is taken from the first
source that gives it.  The variables of the environment are such a source; a number
among them is given by a numeral, white space around it aside.
-/

/-- What a source says about each setting, if anything. -/
structure GivenSettings where
  endpoint : Option String := none
  requestTimeoutSeconds : Option UInt64 := none
  identityToken : Option String := none
  intervalMilliseconds : Option UInt64 := none
  maxConsecutiveErrors : Option UInt32 := none
  plansFolder : Option String := none
deriving Repr, DecidableEq

/--
The settings of sources of which the first one counts most: each is the default if no
source gives it.
-/
def Config.ofSources (sources : List GivenSettings) : Config where
  remote :=
    { endpoint :=
        (sources.findSome? GivenSettings.endpoint).getD
          "http://localhost:3030"
      requestTimeoutSeconds :=
        (sources.findSome? GivenSettings.requestTimeoutSeconds).getD 30
      identityToken := sources.findSome? GivenSettings.identityToken }
  polling :=
    { intervalMilliseconds :=
        (sources.findSome? GivenSettings.intervalMilliseconds).getD 5000
      maxConsecutiveErrors :=
        (sources.findSome? GivenSettings.maxConsecutiveErrors).getD 3 }
  artifacts := ⟨sources.findSome? GivenSettings.plansFolder⟩

/-- Settings with which the program can work. -/
structure Config.IsValid (config : Config) : Prop where
  endpoint :
    ∃ character ∈ config.remote.endpoint.toList, isBlank character = false
  maxConsecutiveErrors :
    1 ≤ config.polling.maxConsecutiveErrors.toNat

/-- Settings with those of a source in place of the present ones. -/
def GivenSettings.replacing (given : GivenSettings) (config : Config) : Config where
  remote :=
    { endpoint := given.endpoint.getD config.remote.endpoint
      requestTimeoutSeconds :=
        given.requestTimeoutSeconds.getD config.remote.requestTimeoutSeconds
      identityToken :=
        given.identityToken.orElse fun _ => config.remote.identityToken }
  polling :=
    { intervalMilliseconds :=
        given.intervalMilliseconds.getD config.polling.intervalMilliseconds
      maxConsecutiveErrors :=
        given.maxConsecutiveErrors.getD config.polling.maxConsecutiveErrors }
  artifacts :=
    ⟨given.plansFolder.orElse fun _ => config.artifacts.directory⟩

namespace Config

variable
  {config : Config}

/-- A source on top of others replaces what they give. -/
theorem ofSources_cons
    (given : GivenSettings)
    (sources : List GivenSettings) :
    ofSources (given :: sources) = given.replacing (ofSources sources) := by
  have first
      {α : Type}
      (setting : GivenSettings → Option α) :
      (given :: sources).findSome? setting =
        (setting given).orElse fun _ => sources.findSome? setting := by
    rw [List.findSome?_cons]
    cases setting given <;> rfl
  have orDefault
      {α : Type}
      (value other : Option α)
      (default : α) :
      (value.orElse fun _ => other).getD default =
        value.getD (other.getD default) := by
    cases value <;> rfl
  simp only [ofSources, GivenSettings.replacing, first, orDefault]

/-- What a single source makes of the service's settings. -/
theorem remote_ofSources_one
    (given : GivenSettings) :
    (ofSources [given]).remote =
      { endpoint := given.endpoint.getD "http://localhost:3030"
        requestTimeoutSeconds := given.requestTimeoutSeconds.getD 30
        identityToken := given.identityToken } := by
  rw [ofSources_cons]
  obtain ⟨_, _, _ | _, _, _, _⟩ := given <;> rfl

/-- What a single source makes of the settings for watching. -/
theorem polling_ofSources_one
    (given : GivenSettings) :
    (ofSources [given]).polling =
      { intervalMilliseconds := given.intervalMilliseconds.getD 5000
        maxConsecutiveErrors := given.maxConsecutiveErrors.getD 3 } := by
  rw [ofSources_cons]
  rfl

/-- What a single source makes of the settings for plans. -/
theorem artifacts_ofSources_one
    (given : GivenSettings) :
    (ofSources [given]).artifacts = ⟨given.plansFolder⟩ := by
  rw [ofSources_cons]
  obtain ⟨_, _, _, _, _, _ | _⟩ := given <;> rfl

/-- Exactly the settings that are no use are refused. -/
theorem validated_eq_ok
    {result : Config} :
    config.validated = .ok result ↔ config.IsValid ∧ result = config := by
  have blank :
      (trim config.remote.endpoint).isEmpty = true ↔
        ¬ ∃ character ∈ config.remote.endpoint.toList,
          isBlank character = false := by
    rw [isEmpty_trim_iff]
    simp
  have noLimit :
      config.polling.maxConsecutiveErrors = 0 ↔
        ¬ 1 ≤ config.polling.maxConsecutiveErrors.toNat := by
    rw [← UInt32.toNat_inj]
    simp
  unfold validated validate
  split
  next isBlank =>
    constructor
    · intro failed
      cases failed
    · rintro ⟨⟨endpoint, -⟩, -⟩
      exact absurd endpoint (blank.mp isBlank)
  next notBlank =>
    split
    next isZero =>
      constructor
      · intro failed
        cases failed
      · rintro ⟨⟨-, atLeastOne⟩, -⟩
        exact absurd atLeastOne (noLimit.mp isZero)
    next notZero =>
      constructor
      · intro passed
        cases passed
        exact
          ⟨⟨Classical.not_not.mp (mt blank.mpr notBlank),
            Classical.not_not.mp (mt noLimit.mpr notZero)⟩, rfl⟩
      · rintro ⟨-, rfl⟩
        rfl

/-- Settings that are refused are refused as settings. -/
theorem isConfiguration_of_validated
    {fault : Fault}
    (failed : config.validated = .error fault) :
    ∃ detail, fault = .configuration detail := by
  unfold validated validate at failed
  split at failed
  · cases failed
    exact ⟨_, rfl⟩
  · split at failed
    · cases failed
      exact ⟨_, rfl⟩
    · cases failed

/-- Settings with another endpoint are those with a source on top that gives just this. -/
theorem withEndpoint_eq_ok
    {endpoint : Option String}
    {result : Config} :
    config.withEndpoint endpoint = .ok result ↔
      (GivenSettings.replacing { endpoint } config).IsValid ∧
        result = GivenSettings.replacing { endpoint } config :=
  validated_eq_ok

theorem isConfiguration_of_withEndpoint
    {endpoint : Option String}
    {fault : Fault}
    (failed : config.withEndpoint endpoint = .error fault) :
    ∃ detail, fault = .configuration detail :=
  isConfiguration_of_validated failed

end Config

/-! ## Variables -/

/-- What a variable gives for a number: nothing if it is unset, or else what it spells. -/
inductive GivesNumber (limit : Nat) : Option String → Option Nat → Prop where
  | unset :
      GivesNumber limit none none
  | spelled
      {raw : String}
      {number : Nat} :
      IsNumeral (trim raw).toList number →
      number < limit →
      GivesNumber limit (some raw) (some number)

namespace GivesNumber

variable
  {raw : Option String}

/-- A number below the limit of words of 64 bits is that of a word. -/
theorem exists_word64
    {given : Option Nat}
    (gives : GivesNumber UInt64.size raw given) :
    ∃ word : Option UInt64, given = word.map UInt64.toNat := by
  cases gives with
  | unset =>
      exact ⟨none, rfl⟩
  | @spelled _ number _ below =>
      exact
        ⟨some (.ofNat number),
          congrArg some (UInt64.toNat_ofNat_of_lt' below).symm⟩

/-- A number below the limit of words of 32 bits is that of a word. -/
theorem exists_word32
    {given : Option Nat}
    (gives : GivesNumber UInt32.size raw given) :
    ∃ word : Option UInt32, given = word.map UInt32.toNat := by
  cases gives with
  | unset =>
      exact ⟨none, rfl⟩
  | @spelled _ number _ below =>
      exact
        ⟨some (.ofNat number),
          congrArg some (UInt32.toNat_ofNat_of_lt' below).symm⟩

end GivesNumber

/-- Whether the variables of an environment say what a source does. -/
structure Environment.Says
    (environment : Environment)
    (given : GivenSettings) : Prop where
  endpoint :
    given.endpoint = environment "REFASSIST_ENDPOINT"
  requestTimeoutSeconds :
    given.requestTimeoutSeconds = none
  identityToken :
    given.identityToken = environment "REFASSIST_IDENTITY_TOKEN"
  intervalMilliseconds :
    GivesNumber UInt64.size (environment "REFASSIST_POLL_INTERVAL_MS")
      (given.intervalMilliseconds.map UInt64.toNat)
  maxConsecutiveErrors :
    GivesNumber UInt32.size (environment "REFASSIST_MAX_POLL_ERRORS")
      (given.maxConsecutiveErrors.map UInt32.toNat)
  plansFolder :
    given.plansFolder = environment "REFASSIST_ARTIFACT_DIR"

/-- A step that may fail comes to a result only through a result of what precedes it. -/
theorem bind_eq_ok
    {α β ε : Type}
    {first : Except ε α}
    {next : α → Except ε β}
    {result : β} :
    first >>= next = .ok result ↔
      ∃ value, first = .ok value ∧ next value = .ok result := by
  cases first with
  | error =>
      exact ⟨nofun, nofun⟩
  | ok value =>
      constructor
      · intro succeeded
        exact ⟨value, rfl, succeeded⟩
      · rintro ⟨_, ⟨⟩, succeeded⟩
        exact succeeded

/-- A step that may fail does so itself, or because what precedes it does. -/
theorem bind_eq_error
    {α β ε : Type}
    {first : Except ε α}
    {next : α → Except ε β}
    {failure : ε} :
    first >>= next = .error failure ↔
      first = .error failure ∨
        ∃ value, first = .ok value ∧ next value = .error failure := by
  cases first with
  | error =>
      constructor
      · rintro ⟨⟩
        exact .inl rfl
      · rintro (⟨⟨⟩⟩ | ⟨_, ⟨⟩, -⟩)
        rfl
  | ok value =>
      constructor
      · intro failed
        exact .inr ⟨value, rfl, failed⟩
      · rintro (⟨⟨⟩⟩ | ⟨_, ⟨⟩, failed⟩)
        exact failed

namespace Config

variable
  {environment : Environment}
  {name : String}
  {limit present : Nat}

theorem numericOverride_eq_ok
    {raw : String}
    {number : Nat} :
    numericOverride name limit raw = .ok number ↔
      IsNumeral (trim raw).toList number ∧ number < limit := by
  rw [← naturalBelow?_eq_some]
  delta numericOverride
  split
  next read =>
    rw [read, Except.ok.injEq, Option.some.injEq]
  next read =>
    rw [read]
    exact ⟨nofun, nofun⟩

/-- A numeric setting is what its variable gives, or else stays as it is. -/
theorem numericSetting_eq_ok
    {result : Nat} :
    numericSetting environment name limit present = .ok result ↔
      ∃ given, GivesNumber limit (environment name) given ∧
        result = given.getD present := by
  unfold numericSetting
  cases environment name with
  | none =>
      constructor
      · rintro ⟨⟩
        exact ⟨none, .unset, rfl⟩
      · rintro ⟨_, ⟨⟩, rfl⟩
        rfl
  | some raw =>
      refine numericOverride_eq_ok.trans ⟨?_, ?_⟩
      · rintro ⟨numeral, below⟩
        exact ⟨some result, .spelled numeral below, rfl⟩
      · rintro ⟨_, ⟨⟩ | ⟨numeral, below⟩, rfl⟩
        exact ⟨numeral, below⟩

theorem isConfiguration_of_numericSetting
    {fault : Fault}
    (failed : numericSetting environment name limit present = .error fault) :
    ∃ detail, fault = .configuration detail := by
  unfold numericSetting numericOverride at failed
  split at failed
  · split at failed
    · cases failed
    · cases failed
      exact ⟨_, rfl⟩
  · cases failed

/-- The environment is a source on top of the present settings. -/
theorem withOverrides_eq_ok
    {config result : Config} :
    config.withOverrides environment = .ok result ↔
      ∃ given, environment.Says given ∧ (given.replacing config).IsValid ∧
        result = given.replacing config := by
  have word64
      (word : Option UInt64) :
      UInt64.ofNat ((word.map UInt64.toNat).getD
          config.polling.intervalMilliseconds.toNat) =
        word.getD config.polling.intervalMilliseconds := by
    cases word <;> exact UInt64.ofNat_toNat
  have word32
      (word : Option UInt32) :
      UInt32.ofNat ((word.map UInt32.toNat).getD
          config.polling.maxConsecutiveErrors.toNat) =
        word.getD config.polling.maxConsecutiveErrors := by
    cases word <;> exact UInt32.ofNat_toNat
  simp only [withOverrides, bind_eq_ok, numericSetting_eq_ok,
    validated_eq_ok]
  constructor
  · rintro ⟨_, ⟨interval, first, rfl⟩, _, ⟨limit, second, rfl⟩, valid, rfl⟩
    obtain ⟨interval, rfl⟩ := first.exists_word64
    obtain ⟨limit, rfl⟩ := second.exists_word32
    rw [word64, word32] at valid ⊢
    exact
      ⟨{ endpoint := environment "REFASSIST_ENDPOINT"
         identityToken := environment "REFASSIST_IDENTITY_TOKEN"
         intervalMilliseconds := interval
         maxConsecutiveErrors := limit
         plansFolder := environment "REFASSIST_ARTIFACT_DIR" },
        ⟨rfl, rfl, rfl, first, second, rfl⟩, valid, rfl⟩
  · rintro ⟨given, isSaid, valid, rfl⟩
    refine
      ⟨_, ⟨_, isSaid.intervalMilliseconds, rfl⟩, _,
        ⟨_, isSaid.maxConsecutiveErrors, rfl⟩, ?_⟩
    rw [word64, word32]
    obtain ⟨endpoint, seconds, token, interval, limit, folder⟩ := given
    obtain ⟨rfl, rfl, rfl, -, -, rfl⟩ := isSaid
    exact ⟨valid, rfl⟩

/-- An environment that is no use is refused as settings. -/
theorem isConfiguration_of_withOverrides
    {config : Config}
    {fault : Fault}
    (failed : config.withOverrides environment = .error fault) :
    ∃ detail, fault = .configuration detail := by
  simp only [withOverrides, bind_eq_error] at failed
  obtain failed | ⟨_, -, failed | ⟨_, -, failed⟩⟩ := failed
  · exact isConfiguration_of_numericSetting failed
  · exact isConfiguration_of_numericSetting failed
  · exact isConfiguration_of_validated failed

end Config

end AssessmentChat
