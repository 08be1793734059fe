import AssessmentChat.Installation
import AssessmentChat.Proofs.FolderOfFiles
import AssessmentChat.Proofs.SettingsDocuments

namespace AssessmentChat

/-!
# Layered settings

The program takes its settings from a file, from the environment and from an argument.
They are the settings of these sources, each on top of the one before, and there are
none if what a source adds is not valid.
-/

/-- What a file of settings gives: one that is missing gives nothing. -/
inductive Disk.GivesSettings
    (disk : Disk)
    (path : String) :
    GivenSettings → Prop where
  | missing :
      disk.readText path = .error .notFound →
      GivesSettings disk path {}
  | written
      {text : String}
      {document : Toml}
      {given : GivenSettings} :
      disk.readText path = .ok text →
      Toml.parse? text = some document →
      document.Says given →
      GivesSettings disk path given

namespace Config

variable
  {disk : Disk}
  {path : String}
  {environment : Environment}
  {flag : Option String}
  {config : Config}
  {fault : Fault}

/-- The defaults are valid. -/
theorem isValid_ofSources_nothing :
    (ofSources [{}]).IsValid :=
  ⟨⟨'h', by decide, by decide⟩, by decide⟩

/-- Settings are those of an accepted text, or the defaults where there is no file. -/
theorem ofFile_cases :
    ofFile disk path = .ok config ↔
      (∃ text, disk.readText path = .ok text ∧ parse text = .ok config) ∨
        disk.readText path = .error .notFound ∧ config = {} := by
  unfold ofFile
  constructor
  · intro succeeded
    split at succeeded
    next text read =>
      split at succeeded
      next parsed =>
        cases succeeded
        exact .inl ⟨text, read, parsed⟩
      next =>
        cases succeeded
    next read =>
      cases succeeded
      exact .inr ⟨read, rfl⟩
    next =>
      cases succeeded
  · rintro (⟨text, read, parsed⟩ | ⟨read, rfl⟩)
    · simp only [read, parsed]
    · simp only [read]

/-- Exactly the files that give valid settings are read. -/
theorem ofFile_eq_ok :
    ofFile disk path = .ok config ↔
      ∃ given, disk.GivesSettings path given ∧ (ofSources [given]).IsValid ∧
        config = ofSources [given] := by
  simp only [ofFile_cases, parse_eq_ok]
  constructor
  · rintro (⟨text, read, document, given, parsed, isSaid, valid, rfl⟩ |
      ⟨read, rfl⟩)
    · exact ⟨given, .written read parsed isSaid, valid, rfl⟩
    · exact ⟨{}, .missing read, isValid_ofSources_nothing, rfl⟩
  · rintro ⟨given, gives, valid, rfl⟩
    cases gives with
    | missing read =>
        exact .inr ⟨read, rfl⟩
    | written read parsed isSaid =>
        exact .inl ⟨_, read, _, given, parsed, isSaid, valid, rfl⟩

/-- A file that cannot be read, though it is there, is an error of its own. -/
theorem ofFile_of_failure
    {failure : FileFault}
    (read : disk.readText path = .error failure)
    (present : failure ≠ .notFound) :
    ofFile disk path = .error failure.fault := by
  unfold ofFile
  rw [read]
  cases failure <;> first | rfl | exact absurd rfl present

/-- A file that can be read and is no use is refused as settings. -/
theorem isConfiguration_of_ofFile
    (readable :
      ∀ failure, disk.readText path = .error failure → failure = .notFound)
    (failed : ofFile disk path = .error fault) :
    ∃ detail, fault = .configuration detail := by
  unfold ofFile at failed
  split at failed
  next =>
    split at failed
    next =>
      cases failed
    next =>
      cases failed
      exact ⟨_, rfl⟩
  next =>
    cases failed
  next failure present read =>
    cases readable failure read
    exact absurd rfl present

/-- The settings of a file and of the environment, as those of two sources. -/
theorem load_eq_ok :
    load disk path environment = .ok config ↔
      ∃ file overrides,
        disk.GivesSettings path file ∧ environment.Says overrides ∧
          (ofSources [file]).IsValid ∧
          (ofSources [overrides, file]).IsValid ∧
          config = ofSources [overrides, file] := by
  simp only [load, bind_eq_ok, ofFile_eq_ok, withOverrides_eq_ok,
    ofSources_cons _ [_]]
  constructor
  · rintro ⟨_, ⟨file, gives, valid, rfl⟩, overrides, isSaid, laterValid, rfl⟩
    exact ⟨file, overrides, gives, isSaid, valid, laterValid, rfl⟩
  · rintro ⟨file, overrides, gives, isSaid, valid, laterValid, rfl⟩
    exact ⟨_, ⟨file, gives, valid, rfl⟩, overrides, isSaid, laterValid, rfl⟩

/-- The settings to work with: those of the file, of the environment and of an argument. -/
def loadUnderFlag
    (disk : Disk)
    (path : String)
    (environment : Environment)
    (flag : Option String) :
    Except Fault Config := do
  (← load disk path environment).withEndpoint flag

/-- The settings to work with, as those of three sources. -/
theorem loadUnderFlag_eq_ok :
    loadUnderFlag disk path environment flag = .ok config ↔
      ∃ file overrides,
        disk.GivesSettings path file ∧ environment.Says overrides ∧
          (ofSources [file]).IsValid ∧
          (ofSources [overrides, file]).IsValid ∧
          (ofSources [{ endpoint := flag }, overrides, file]).IsValid ∧
          config = ofSources [{ endpoint := flag }, overrides, file] := by
  simp only [loadUnderFlag, bind_eq_ok, load_eq_ok, withEndpoint_eq_ok,
    ofSources_cons { endpoint := flag }]
  constructor
  · rintro ⟨_, ⟨file, overrides, gives, isSaid, valid, laterValid, rfl⟩,
      lastValid, rfl⟩
    exact
      ⟨file, overrides, gives, isSaid, valid, laterValid, lastValid, rfl⟩
  · rintro ⟨file, overrides, gives, isSaid, valid, laterValid, lastValid, rfl⟩
    exact
      ⟨_, ⟨file, overrides, gives, isSaid, valid, laterValid, rfl⟩,
        lastValid, rfl⟩

/-- A file that cannot be read, though it is there, is the error. -/
theorem loadUnderFlag_of_failure
    {failure : FileFault}
    (read : disk.readText path = .error failure)
    (present : failure ≠ .notFound) :
    loadUnderFlag disk path environment flag = .error failure.fault := by
  have loading : load disk path environment = .error failure.fault :=
    bind_eq_error.mpr (.inl (ofFile_of_failure read present))
  exact bind_eq_error.mpr (.inl loading)

/-- Every other error is one of the settings. -/
theorem isConfiguration_of_loadUnderFlag
    (readable :
      ∀ failure, disk.readText path = .error failure → failure = .notFound)
    (failed :
      loadUnderFlag disk path environment flag = .error fault) :
    ∃ detail, fault = .configuration detail := by
  simp only [loadUnderFlag, load, bind_eq_error] at failed
  obtain (failed | ⟨_, -, failed⟩) | ⟨_, -, failed⟩ := failed
  · exact isConfiguration_of_ofFile readable failed
  · exact isConfiguration_of_withOverrides failed
  · exact isConfiguration_of_withEndpoint failed

end Config

namespace Installation

theorem during_eq_ok
    {α : Type}
    {activity : Option String}
    {result : Except Fault α}
    {value : α} :
    during activity result = .ok value ↔ result = .ok value := by
  cases result with
  | ok =>
      exact Iff.intro (fun same => congrArg _ (Except.ok.inj same))
        (fun same => congrArg _ (Except.ok.inj same))
  | error =>
      exact ⟨nofun, nofun⟩

/-- The program is set up with settings of the three sources, or not at all. -/
theorem policy_of_ofArguments
    {arguments : Console.Arguments}
    {folders : UserFolders}
    {disk : Disk}
    {installation : Installation}
    (started : ofArguments arguments folders disk = .ok installation) :
    ∃ path config,
      settingsFile arguments folders = .ok path ∧
        Config.loadUnderFlag disk path folders.environment
            arguments.endpoint =
          .ok config ∧
        installation.policy = .ofSettings config.polling := by
  simp only [ofArguments, bind_eq_ok, during_eq_ok] at started
  obtain ⟨path, located, loaded, loading, config, flagged, _, -, made⟩ :=
    started
  cases made
  exact
    ⟨path, config, located, bind_eq_ok.mpr ⟨loaded, loading, flagged⟩, rfl⟩

end Installation

/--
Settings are loaded exactly if what the file gives is valid, what the environment gives
on top of it is valid and what the argument gives on top of both is valid, and they are
then those of the three sources.  The error is that of the file if there is one that cannot
be read, and else one of the settings.  So the program watches its jobs only under a policy
that allows a failure.
-/
theorem settings_layered
    (disk : Disk)
    (path : String)
    (environment : Environment)
    (flag : Option String) :
    (∀ config,
      Config.loadUnderFlag disk path environment flag = .ok config ↔
        ∃ file overrides,
          disk.GivesSettings path file ∧ environment.Says overrides ∧
            (Config.ofSources [file]).IsValid ∧
            (Config.ofSources [overrides, file]).IsValid ∧
            (Config.ofSources
              [{ endpoint := flag }, overrides, file]).IsValid ∧
            config =
              .ofSources [{ endpoint := flag }, overrides, file]) ∧
      (∀ fault,
        Config.loadUnderFlag disk path environment flag = .error fault →
          (∃ failure detail,
            disk.readText path = .error failure ∧ failure ≠ .notFound ∧
              fault = failure.fault ∧ fault = .inputOutput detail) ∨
          (∀ failure,
            disk.readText path = .error failure → failure = .notFound) ∧
            ∃ detail, fault = .configuration detail) ∧
      ∀ arguments folders installation,
        Installation.ofArguments arguments folders disk = .ok installation →
        (∃ place config,
          Installation.settingsFile arguments folders = .ok place ∧
            Config.loadUnderFlag disk place folders.environment
                arguments.endpoint =
              .ok config ∧
            installation.policy = .ofSettings config.polling) ∧
          1 ≤ installation.policy.maxConsecutiveErrors := by
  refine ⟨fun _ => Config.loadUnderFlag_eq_ok, ?_, ?_⟩
  · intro fault failed
    by_cases readable :
        ∀ failure, disk.readText path = .error failure → failure = .notFound
    · exact
        .inr ⟨readable, Config.isConfiguration_of_loadUnderFlag readable failed⟩
    · push Not at readable
      obtain ⟨failure, read, present⟩ := readable
      have failedSo :=
        @Config.loadUnderFlag_of_failure disk path environment flag failure
          read present
      cases failed.symm.trans failedSo
      exact .inl ⟨failure, _, read, present, rfl, rfl⟩
  · intro arguments folders installation started
    obtain ⟨place, config, located, loaded, same⟩ :=
      Installation.policy_of_ofArguments started
    refine ⟨⟨place, config, located, loaded, same⟩, ?_⟩
    obtain ⟨_, _, -, -, -, -, valid, rfl⟩ := Config.loadUnderFlag_eq_ok.mp loaded
    rw [same]
    exact valid.maxConsecutiveErrors

/-! ## Settings from three sources -/

/-- A file that gives an endpoint and how jobs are watched. -/
def settingsText : String :=
  "remote.endpoint = 'http://file'\npolling = [100, 7]"

/-- A disk with the text in a file at its top. -/
def settingsDisk : Disk where
  top := .folder [("settings", .file settingsText.toUTF8)]

theorem readText_settingsDisk :
    settingsDisk.readText "/settings" = .ok settingsText := by
  have steps : Path.steps "/settings" = ["settings"] := by decide
  have located :
      settingsDisk.locate true "/settings" = .ok (.found ["settings"]) := by
    refine Disk.locate_eq_ok.mpr ⟨by decide, by decide, ?_⟩
    rw [steps]
    exact .enters rfl ⟨by decide, by decide⟩ (by decide) rfl nofun
      (.arrived _ _)
  have found := Disk.found?_eq_ok.mpr ⟨_, located, rfl⟩
  have noFolder : Path.endsInSlash "/settings" = false := by decide
  rw [Disk.readText, Disk.readFile, found]
  simp only [noFolder, Bool.false_eq_true, ↓reduceIte, fromUTF8?_toUTF8]

/-- The top of the disk is no file. -/
theorem readText_topOfDisk :
    settingsDisk.readText "/" = .error .isAFolder := by
  have steps : Path.steps "/" = [] := by decide
  have located : settingsDisk.locate true "/" = .ok (.found []) := by
    refine Disk.locate_eq_ok.mpr ⟨by decide, by decide, ?_⟩
    rw [steps]
    exact .arrived _ _
  have found := Disk.found?_eq_ok.mpr ⟨_, located, rfl⟩
  rw [Disk.readText, Disk.readFile, found]
  rfl

/-- An environment that gives an interval and a folder for plans. -/
def settingsEnvironment : Environment
  | "REFASSIST_POLL_INTERVAL_MS" => some " +250 "
  | "REFASSIST_ARTIFACT_DIR" => some "/plans"
  | _ => none

/-- Arguments that give an endpoint. -/
def settingsArguments : Console.Arguments where
  config := some "/settings"
  endpoint := some "http://flag"

/-- The settings of all three. -/
def settledConfig : Config where
  remote := { endpoint := "http://flag" }
  polling := ⟨250, 7⟩
  artifacts := ⟨some "/plans"⟩

theorem load_settingsDisk :
    Config.load settingsDisk "/settings" settingsEnvironment =
      .ok { settledConfig with remote := { endpoint := "http://file" } } := by
  have parsed :
      Config.parse settingsText =
        .ok
          { remote := { endpoint := "http://file" }
            polling := ⟨100, 7⟩ } := by
    decide +kernel
  have loaded :=
    Config.ofFile_cases.mpr (.inl ⟨_, readText_settingsDisk, parsed⟩)
  refine bind_eq_ok.mpr ⟨_, loaded, ?_⟩
  decide +kernel

theorem loadUnderFlag_settingsDisk :
    Config.loadUnderFlag settingsDisk "/settings" settingsEnvironment
        (some "http://flag") =
      .ok settledConfig :=
  bind_eq_ok.mpr ⟨_, load_settingsDisk, by decide +kernel⟩

/-- Each source is heard where none above it gives a setting, and a folder is no file. -/
theorem settings_of_three_sources :
    (∃ file overrides,
      settingsDisk.GivesSettings "/settings" file ∧
        settingsEnvironment.Says overrides ∧
        settledConfig =
          .ofSources
            [{ endpoint := some "http://flag" }, overrides, file]) ∧
      (∃ failure,
        Config.loadUnderFlag settingsDisk "/" settingsEnvironment none =
            .error failure ∧
          ∃ detail, failure = .inputOutput detail) ∧
      ∃ installation,
        Installation.ofArguments settingsArguments ⟨settingsEnvironment, none⟩
            settingsDisk =
          .ok installation ∧
        1 ≤ installation.policy.maxConsecutiveErrors := by
  obtain ⟨loads, -, started⟩ :=
    settings_layered settingsDisk "/settings" settingsEnvironment
      (some "http://flag")
  obtain ⟨file, overrides, gives, isSaid, -, -, -, same⟩ :=
    (loads settledConfig).mp loadUnderFlag_settingsDisk
  have setUp :
      Installation.ofArguments settingsArguments ⟨settingsEnvironment, none⟩
          settingsDisk =
        .ok (.ofConfig settledConfig "." "/plans") := by
    simp only [Installation.ofArguments, bind_eq_ok,
      Installation.during_eq_ok]
    obtain ⟨loaded, loading, flagged⟩ :=
      bind_eq_ok.mp loadUnderFlag_settingsDisk
    exact
      ⟨"/settings", rfl, loaded, loading, settledConfig, flagged, "/plans", rfl,
        rfl⟩
  obtain ⟨-, refuses, -⟩ :=
    settings_layered settingsDisk "/" settingsEnvironment none
  have refused :=
    @Config.loadUnderFlag_of_failure settingsDisk "/" settingsEnvironment none
      _ readText_topOfDisk (by decide)
  have isInputOutput :
      ∃ detail, FileFault.isAFolder.fault = .inputOutput detail := by
    rcases refuses _ refused with
      ⟨_, detail, -, -, -, same⟩ | ⟨readable, -⟩
    · exact ⟨detail, same⟩
    · cases readable _ readText_topOfDisk
  exact
    ⟨⟨file, overrides, gives, isSaid, same⟩, ⟨_, refused, isInputOutput⟩, _,
      setUp, (started _ _ _ setUp).2⟩

end AssessmentChat
