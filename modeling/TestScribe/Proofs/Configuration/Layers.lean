import TestScribe.Configuration.SettingsToml
import TestScribe.Proofs.Configuration.Settings
import TestScribe.Proofs.Text.Utf8

/-!
# The layers of settings

Each setting is told on its own.  What the entries of a document say of it goes
before its standard value, and for two of them what a variable of the environment
says goes before both, unless that is blank or no text at all.  Usable settings
stay usable under every environment whose URL, if it gives one, has a known
scheme: a test directory that is laid over is not blank, and there is no variable
for the times to wait.
-/

namespace TestScribe.Configuration

open TestScribe.Text

/-! ## Settings in a document -/

/-- The setting under a key: the standard value if the key is missing, and
otherwise the value that stands there, written as values of its kind are. -/
inductive EntryGives {α : Type}
    (entries : Toml.Entries)
    (key : String)
    (written : α → Toml.Value)
    (standard : α) :
    α → Prop where
  | missing
      (missing : entries.lookup key = none) :
      EntryGives entries key written standard standard
  | given {value : α}
      (given : entries.lookup key = some (written value)) :
      EntryGives entries key written standard value

/-- What the entries of a document say of every setting. -/
structure EntriesGive
    (entries : Toml.Entries)
    (settings : Settings) : Prop where
  backendUrl :
    EntryGives entries "backendUrl" Toml.Value.text
      Settings.standard.backendUrl settings.backendUrl
  testDirectory :
    EntryGives entries "testDirectory" Toml.Value.text
      Settings.standard.testDirectory settings.testDirectory
  fileTimeout :
    EntryGives entries "fileTimeoutSecs"
      (fun seconds : Nat => Toml.Value.integer seconds)
      Settings.standard.fileTimeoutSeconds settings.fileTimeoutSeconds
  functionTimeout :
    EntryGives entries "functionTimeoutSecs"
      (fun seconds : Nat => Toml.Value.integer seconds)
      Settings.standard.functionTimeoutSeconds
      settings.functionTimeoutSeconds
  templateFallback :
    EntryGives entries "templateFallback" Toml.Value.boolean
      Settings.standard.templateFallback settings.templateFallback

theorem textOfToml?_eq_some_iff
    {value : Toml.Value}
    {content : String} :
    textOfToml? value = some content ↔ value = .text content := by
  cases value <;> simp [textOfToml?]

theorem naturalOfToml?_eq_some_iff
    {value : Toml.Value}
    {number : Nat} :
    naturalOfToml? value = some number ↔ value = .integer number := by
  cases value with
  | integer whole =>
      rw [naturalOfToml?, Toml.Value.integer.injEq]
      exact Int.mem_toNat?
  | _ => simp [naturalOfToml?]

theorem booleanOfToml?_eq_some_iff
    {value : Toml.Value}
    {truth : Bool} :
    booleanOfToml? value = some truth ↔ value = .boolean truth := by
  cases value <;> simp [booleanOfToml?]

theorem settingOfToml?_eq_some_iff {α : Type}
    {entries : Toml.Entries}
    {key : String}
    {standard value : α}
    {ofValue? : Toml.Value → Option α}
    {written : α → Toml.Value}
    (reads :
      ∀ entry value, ofValue? entry = some value ↔ entry = written value) :
    settingOfToml? entries key standard ofValue? = some value ↔
      EntryGives entries key written standard value := by
  rw [settingOfToml?]
  constructor
  · intro read
    split at read
    · next missing =>
      cases read
      exact .missing missing
    · next entry given =>
      rw [reads] at read
      subst read
      exact .given given
  · intro gives
    cases gives with
    | missing missing => rw [missing]
    | given given =>
        rw [given]
        exact (reads _ value).mpr rfl

/-- Settings are read from the entries exactly as the entries give them. -/
theorem Settings.ofTomlEntries?_eq_some_iff
    {entries : Toml.Entries}
    {settings : Settings} :
    Settings.ofTomlEntries? entries = some settings ↔
      EntriesGive entries settings := by
  have text {key standard value : String} :
      settingOfToml? entries key standard textOfToml? = some value ↔
        EntryGives entries key Toml.Value.text standard value :=
    settingOfToml?_eq_some_iff fun _ _ => textOfToml?_eq_some_iff
  have natural {key : String} {standard value : Nat} :
      settingOfToml? entries key standard naturalOfToml? = some value ↔
        EntryGives entries key
          (fun number : Nat => Toml.Value.integer number) standard value :=
    settingOfToml?_eq_some_iff fun _ _ => naturalOfToml?_eq_some_iff
  have boolean {key : String} {standard value : Bool} :
      settingOfToml? entries key standard booleanOfToml? = some value ↔
        EntryGives entries key Toml.Value.boolean standard value :=
    settingOfToml?_eq_some_iff fun _ _ => booleanOfToml?_eq_some_iff
  rw [Settings.ofTomlEntries?]
  simp only [Option.bind_eq_bind, Option.bind_eq_some_iff,
    Option.pure_def, Option.some.injEq, text, natural, boolean]
  constructor
  · rintro ⟨_, url, _, directory, _, file, _, function, _, fallback, rfl⟩
    exact ⟨url, directory, file, function, fallback⟩
  · intro gives
    exact
      ⟨_, gives.backendUrl, _, gives.testDirectory, _, gives.fileTimeout,
        _, gives.functionTimeout, _, gives.templateFallback, rfl⟩

/-! ## Variables of the environment -/

theorem ProcessEnvironment.texts_eq_some_iff
    {environment : ProcessEnvironment}
    {name value : String} :
    environment.texts name = some value ↔
      environment.value? name = some value.toUTF8 := by
  simp only [texts, Option.bind_eq_some_iff, decodeStrict?_eq_some_iff,
    exists_eq_right]

/-- A variable stands for no text if it is not set, or set to other bytes. -/
theorem ProcessEnvironment.texts_eq_none_iff
    {environment : ProcessEnvironment}
    {name : String} :
    environment.texts name = none ↔
      environment.value? name = none ∨
        ∃ bytes,
          environment.value? name = some bytes ∧
            ∀ value : String, bytes ≠ value.toUTF8 := by
  rw [Option.eq_none_iff_forall_ne_some]
  simp only [ne_eq, texts_eq_some_iff]
  cases environment.value? name with
  | none => simp
  | some bytes => simp

/-- A setting with a variable laid over it: the text of the variable as it is,
unless there is none or it is blank. -/
inductive LaidOver
    (environment : ProcessEnvironment)
    (name own : String) :
    String → Prop where
  | unset
      (unset : environment.value? name = none) :
      LaidOver environment name own own
  | noText {bytes : ByteArray}
      (isSet : environment.value? name = some bytes)
      (noText : ∀ value : String, bytes ≠ value.toUTF8) :
      LaidOver environment name own own
  | blank {value : String}
      (isSet : environment.value? name = some value.toUTF8)
      (blank : isBlank value.toList = true) :
      LaidOver environment name own own
  | laid {value : String}
      (isSet : environment.value? name = some value.toUTF8)
      (visible : isBlank value.toList = false) :
      LaidOver environment name own value

/-- The environment gives no URL, bytes that are no text, a blank text, or a URL
with a known scheme. -/
def AllowsUrl
    (environment : ProcessEnvironment) : Prop :=
  environment.value? backendUrlVariable = none ∨
    ∃ bytes,
      environment.value? backendUrlVariable = some bytes ∧
        ((∀ url : String, bytes ≠ url.toUTF8) ∨
          ∃ url : String,
            bytes = url.toUTF8 ∧
              (isBlank url.toList = true ∨
                ∃ scheme ∈ knownSchemes, BeginsWith url scheme))

theorem laidOver_nonBlankValue?
    (environment : ProcessEnvironment)
    (name own : String) :
    LaidOver environment name own
      ((nonBlankValue? environment.texts name).getD own) := by
  rw [nonBlankValue?]
  cases found : environment.texts name with
  | none =>
      rcases ProcessEnvironment.texts_eq_none_iff.mp found with
        unset | ⟨bytes, isSet, noText⟩
      · exact .unset unset
      · exact .noText isSet noText
  | some value =>
      have isSet := ProcessEnvironment.texts_eq_some_iff.mp found
      cases blank : isBlank value.toList with
      | true =>
          simp only [Option.filter_some, blank, Bool.not_true,
            Bool.false_eq_true, if_false, Option.getD_none]
          exact .blank isSet blank
      | false =>
          simp only [Option.filter_some, blank, Bool.not_false, if_true,
            Option.getD_some]
          exact .laid isSet blank

/-- Laying the same environment over once more changes nothing. -/
theorem Settings.overriddenBy_overriddenBy
    (settings : Settings)
    (environment : Environment) :
    (settings.overriddenBy environment).overriddenBy environment =
      settings.overriddenBy environment := by
  have again (found : Option String) (own : String) :
      found.getD (found.getD own) = found.getD own := by
    cases found <;> rfl
  simp only [Settings.overriddenBy, again]

section Overridden

variable
    {base : Settings}
    {environment : ProcessEnvironment}

/-- A URL from the environment that is not blank is the one that counts. -/
theorem Settings.backendUrl_overriddenBy
    {url : String}
    (isSet : environment.value? backendUrlVariable = some url.toUTF8)
    (visible : isBlank url.toList = false) :
    (base.overriddenBy environment.texts).backendUrl = url := by
  have found := ProcessEnvironment.texts_eq_some_iff.mpr isSet
  rw [Settings.overriddenBy, nonBlankValue?, found,
    Option.filter_some, visible]
  rfl

theorem Settings.IsUsable.directory_overriddenBy
    (usable : base.IsUsable) :
    isBlank (base.overriddenBy environment.texts).testDirectory.toList =
      false := by
  have laid :=
    laidOver_nonBlankValue? environment testDirectoryVariable
      base.testDirectory
  rw [Settings.overriddenBy]
  dsimp only
  generalize
    (nonBlankValue? environment.texts testDirectoryVariable).getD
      base.testDirectory = directory at laid
  cases laid with
  | unset => exact usable.directory
  | noText => exact usable.directory
  | blank => exact usable.directory
  | laid _ visible => exact visible

/-- A visible URL that the environment may give has a known scheme. -/
theorem AllowsUrl.known
    (allowed : AllowsUrl environment)
    {url : String}
    (isSet : environment.value? backendUrlVariable = some url.toUTF8)
    (visible : isBlank url.toList = false) :
    ∃ scheme ∈ knownSchemes, BeginsWith url scheme := by
  rcases allowed with unset | ⟨bytes, isBytes, noText | ⟨other, rfl, may⟩⟩
  · rw [unset] at isSet
    cases isSet
  · rw [isBytes] at isSet
    exact absurd (Option.some.inj isSet) (noText url)
  · rw [isBytes] at isSet
    cases String.toByteArray_inj.mp (Option.some.inj isSet)
    rcases may with blank | known
    · rw [visible] at blank
      cases blank
    · exact known

theorem Settings.IsUsable.reachable_overriddenBy
    (usable : base.IsUsable)
    (allowed : AllowsUrl environment) :
    ∃ scheme ∈ knownSchemes,
      BeginsWith (base.overriddenBy environment.texts).backendUrl
        scheme := by
  have laid :=
    laidOver_nonBlankValue? environment backendUrlVariable
      base.backendUrl
  rw [Settings.overriddenBy]
  dsimp only
  generalize
    (nonBlankValue? environment.texts backendUrlVariable).getD
      base.backendUrl = laidUrl at laid
  cases laid with
  | unset => exact usable.reachable
  | noText => exact usable.reachable
  | blank => exact usable.reachable
  | laid isSet visible => exact allowed.known isSet visible

/-- Only a URL without a known scheme makes usable settings unusable. -/
theorem Settings.IsUsable.overriddenBy
    (usable : base.IsUsable)
    (allowed : AllowsUrl environment) :
    (base.overriddenBy environment.texts).IsUsable where
  reachable := usable.reachable_overriddenBy allowed
  directory := usable.directory_overriddenBy
  fileTimeout := usable.fileTimeout
  functionTimeout := usable.functionTimeout

/-- A URL that the environment may not give. -/
theorem exists_url_of_not_allowsUrl
    (refused : ¬ AllowsUrl environment) :
    ∃ url : String,
      environment.value? backendUrlVariable = some url.toUTF8 ∧
        isBlank url.toList = false ∧
          ¬ ∃ scheme ∈ knownSchemes, BeginsWith url scheme := by
  rw [AllowsUrl, not_or] at refused
  rcases refused with ⟨isSet, other⟩
  rcases Option.ne_none_iff_exists'.mp isSet with ⟨bytes, isBytes⟩
  have isText : ∃ url : String, bytes = url.toUTF8 := by
    by_contra noText
    exact other ⟨bytes, isBytes, .inl (not_exists.mp noText)⟩
  rcases isText with ⟨url, rfl⟩
  refine ⟨url, isBytes, ?_, ?_⟩
  · rw [← Bool.not_eq_true]
    exact fun blank =>
      other ⟨_, isBytes, .inr ⟨url, rfl, .inl blank⟩⟩
  · exact fun known =>
      other ⟨_, isBytes, .inr ⟨url, rfl, .inr known⟩⟩

end Overridden

theorem Settings.isUsable_standard :
    Settings.standard.IsUsable :=
  Settings.problem?_eq_none_iff.mp (by decide)

end TestScribe.Configuration
