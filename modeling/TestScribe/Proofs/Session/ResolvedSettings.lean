import TestScribe.Proofs.Configuration.Layers
import TestScribe.Proofs.Session.Host
import TestScribe.Session.Generate

/-!
# The settings of a session

A settings file either gives usable settings or fails for one of four causes, and
what it fails for does not depend on the environment.  Settings that are usable
before the environment is laid over them are found unusable afterwards for one
cause only: a URL without a known scheme.
-/

namespace TestScribe.Session

open TestScribe.Configuration
open TestScribe.Text
open TestScribe.Workspace

/-- The file at the path holds a document that gives these settings. -/
def FileGives
    (world : World)
    (path : String)
    (settings : Settings) : Prop :=
  ∃ (document : String) (entries : Toml.Entries),
    world.tree.read path = .ok document.toUTF8 ∧
      Toml.parse? document = some entries ∧
        EntriesGive entries settings

/-- Why the file at a path gives no usable settings. -/
inductive FileFails
    (world : World)
    (path : String) :
    Fault → Prop where
  | unreadable
      {problem : AccessProblem}
      (unreadable : world.tree.read path = .error problem) :
      FileFails world path (.access problem)
  | noText
      {bytes : ByteArray}
      (readable : world.tree.read path = .ok bytes)
      (noText : ∀ document : String, bytes ≠ document.toUTF8) :
      FileFails world path (.access .invalidUtf8)
  /-- The text is no document, or a key has a value of the wrong kind. -/
  | malformed
      {document : String}
      (readable : world.tree.read path = .ok document.toUTF8)
      (givesNone : ∀ settings, ¬ FileGives world path settings) :
      FileFails world path .malformedSettings
  | unusable
      {settings : Settings}
      {problem : SettingsProblem}
      (gives : FileGives world path settings)
      (found : settings.problem? = some problem) :
      FileFails world path (.settings problem)

/-- The settings before the environment is laid over them. -/
inductive GivesBase
    (world : World) :
    Option String → Settings → Prop where
  | standard : GivesBase world none Settings.standard
  | file
      {path : String}
      {settings : Settings}
      (gives : FileGives world path settings) :
      GivesBase world (some path) settings

/-- The settings, or their first problem. -/
def checked
    (settings : Settings) :
    Except Fault Settings :=
  match settings.problem? with
  | some problem => .error (.settings problem)
  | none => .ok settings

variable
    {world : World}
    {environment : ProcessEnvironment}
    {path : Option String}
    {file : String}
    {base settings : Settings}
    {fault : Fault}

theorem checked_of_isUsable
    (usable : settings.IsUsable) :
    checked settings = .ok settings := by
  rw [checked, Settings.problem?_eq_none_iff.mpr usable]

theorem simulate_checked
    (settings : Settings)
    (world : World) :
    simulate
        (match settings.problem? with
        | some problem => throw (.settings problem)
        | none => return settings)
        world =
      (checked settings, world) := by
  rw [checked]
  cases settings.problem? <;> rfl

/-! ## The settings file -/

theorem simulate_loadSettings_of_text
    {document : String}
    (readable : world.tree.read file = .ok document.toUTF8) :
    simulate (loadSettings simulatedHost file) world =
      ((match Settings.ofToml? document with
        | none => .error .malformedSettings
        | some settings => checked settings),
        world) := by
  rw [loadSettings,
    simulate_bind_of_ok (simulate_readText_of_text readable)]
  cases Settings.ofToml? document with
  | none => rfl
  | some settings => exact simulate_checked settings world

theorem ofToml?_eq_some_iff
    {document : String} :
    Settings.ofToml? document = some settings ↔
      ∃ entries,
        Toml.parse? document = some entries ∧
          EntriesGive entries settings := by
  simp only [Settings.ofToml?, Option.bind_eq_some_iff,
    Settings.ofTomlEntries?_eq_some_iff]

theorem simulate_loadSettings_of_gives
    (gives : FileGives world file settings) :
    simulate (loadSettings simulatedHost file) world =
      (checked settings, world) := by
  rcases gives with ⟨document, entries, readable, parsed, gives⟩
  rw [simulate_loadSettings_of_text readable,
    ofToml?_eq_some_iff.mpr ⟨entries, parsed, gives⟩]

/-- A file that fails ends the loading with its fault. -/
theorem FileFails.simulate_loadSettings
    (fails : FileFails world file fault) :
    simulate (loadSettings simulatedHost file) world =
      (.error fault, world) := by
  cases fails with
  | unreadable unreadable =>
      rw [loadSettings,
        simulate_bind_of_error (simulate_readText_of_problem unreadable)]
  | noText readable noText =>
      rw [loadSettings,
        simulate_bind_of_error
          (simulate_readText_of_bytes readable noText)]
  | @malformed document readable givesNone =>
      have undecoded : Settings.ofToml? document = none := by
        rw [Option.eq_none_iff_forall_ne_some]
        intro settings read
        rcases ofToml?_eq_some_iff.mp read with ⟨entries, parsed, gives⟩
        exact
          givesNone settings
            ⟨document, entries, readable, parsed, gives⟩
      rw [simulate_loadSettings_of_text readable, undecoded]
  | unusable gives found =>
      rw [simulate_loadSettings_of_gives gives, checked, found]

/-- A file gives usable settings or fails. -/
theorem exists_usable_or_fails
    (world : World)
    (file : String) :
    (∃ settings, FileGives world file settings ∧ settings.IsUsable) ∨
      ∃ fault, FileFails world file fault := by
  by_cases given : ∃ settings, FileGives world file settings
  · rcases given with ⟨settings, gives⟩
    cases found : settings.problem? with
    | none =>
        exact
          .inl ⟨settings, gives, Settings.problem?_eq_none_iff.mp found⟩
    | some problem => exact .inr ⟨_, .unusable gives found⟩
  · right
    cases found : world.tree.read file with
    | error problem => exact ⟨_, .unreadable found⟩
    | ok bytes =>
        by_cases isText : ∃ document : String, bytes = document.toUTF8
        · rcases isText with ⟨document, rfl⟩
          exact ⟨_, .malformed found (not_exists.mp given)⟩
        · exact ⟨_, .noText found (not_exists.mp isText)⟩

/-! ## The environment on top -/

/-- How resolving the settings of a session ends. -/
inductive ResolutionEnds
    (path : Option String)
    (environment : ProcessEnvironment)
    (world : World) :
    Except Fault Settings → Prop where
  | resolved
      {base : Settings}
      (gives : GivesBase world path base)
      (usable : base.IsUsable)
      (allowed : AllowsUrl environment) :
      ResolutionEnds path environment world
        (.ok (base.overriddenBy environment.texts))
  /-- The environment's URL has no known scheme. -/
  | refused
      {base : Settings}
      {url : String}
      (gives : GivesBase world path base)
      (usable : base.IsUsable)
      (isSet : environment.value? backendUrlVariable = some url.toUTF8)
      (visible : isBlank url.toList = false)
      (unknown : ¬ ∃ scheme ∈ knownSchemes, BeginsWith url scheme) :
      ResolutionEnds path environment world
        (.error (.settings (.unknownScheme url)))
  | failed
      {file : String}
      {fault : Fault}
      (named : path = some file)
      (fails : FileFails world file fault) :
      ResolutionEnds path environment world (.error fault)

/-- On a usable base only the settings with the environment are checked. -/
theorem simulate_resolveSettings_of_base
    (gives : GivesBase world path base)
    (usable : base.IsUsable)
    (environment : ProcessEnvironment) :
    simulate (resolveSettings simulatedHost path environment) world =
      (checked (base.overriddenBy environment.texts), world) := by
  cases gives with
  | standard =>
      rw [resolveSettings,
        simulate_bind_of_ok (simulate_pure Settings.standard world)]
      exact simulate_checked _ world
  | file gives =>
      have loaded := simulate_loadSettings_of_gives gives
      rw [checked_of_isUsable usable] at loaded
      rw [resolveSettings, simulate_bind_of_ok loaded]
      exact simulate_checked _ world

/-- A session ends in each of these ways when it is described by it. -/
theorem ResolutionEnds.simulate_eq
    {result : Except Fault Settings}
    (ends : ResolutionEnds path environment world result) :
    simulate (resolveSettings simulatedHost path environment) world =
      (result, world) := by
  cases ends with
  | resolved gives usable allowed =>
      rw [simulate_resolveSettings_of_base gives usable,
        checked_of_isUsable (usable.overriddenBy allowed)]
  | @refused base url gives usable isSet visible unknown =>
      have laid : (base.overriddenBy environment.texts).backendUrl = url :=
        Settings.backendUrl_overriddenBy isSet visible
      rw [simulate_resolveSettings_of_base gives usable, checked,
        Settings.problem?_of_unknown_scheme (laid.symm ▸ unknown), laid]
  | failed named fails =>
      rw [named, resolveSettings,
        simulate_bind_of_error fails.simulate_loadSettings]

/-- There is always one way in which it ends. -/
theorem exists_resolutionEnds
    (path : Option String)
    (environment : ProcessEnvironment)
    (world : World) :
    ∃ result, ResolutionEnds path environment world result := by
  have onBase {base : Settings}
      (gives : GivesBase world path base)
      (usable : base.IsUsable) :
      ∃ result, ResolutionEnds path environment world result := by
    by_cases allowed : AllowsUrl environment
    · exact ⟨_, .resolved gives usable allowed⟩
    · rcases exists_url_of_not_allowsUrl allowed with
        ⟨url, isSet, visible, unknown⟩
      exact ⟨_, .refused gives usable isSet visible unknown⟩
  cases path with
  | none => exact onBase .standard Settings.isUsable_standard
  | some file =>
      rcases exists_usable_or_fails world file with
        ⟨settings, gives, usable⟩ | ⟨fault, fails⟩
      · exact onBase (.file gives) usable
      · exact ⟨_, .failed rfl fails⟩

theorem resolutionEnds_run
    (path : Option String)
    (environment : ProcessEnvironment)
    (world : World) :
    ResolutionEnds path environment world
      (simulate (resolveSettings simulatedHost path environment)
        world).1 := by
  rcases exists_resolutionEnds path environment world with
    ⟨result, ends⟩
  rw [ends.simulate_eq]
  exact ends

/--
The layers of a session's settings.  There are settings exactly when the base, the
file's or the standard one, is usable and the environment gives no URL without a
known scheme.  They have no problem; the URL and the test directory are the texts
that the environment gives, or else those of the base, and all else is as in the
base.  A variable whose bytes are no text gives nothing.  A file that fails decides
the fault whatever the environment says, and otherwise only the environment's URL
can be at fault.  Nothing else happens in the world, and laying texts over twice is
laying them over once.
-/
theorem resolveSettings_layers
    (path : Option String)
    (environment : ProcessEnvironment)
    (world : World) :
    let run :=
      simulate (resolveSettings simulatedHost path environment) world
    ((∃ settings, run.1 = .ok settings) ↔
      (∃ base, GivesBase world path base ∧ base.IsUsable) ∧
        AllowsUrl environment) ∧
    (∀ settings,
      run.1 = .ok settings →
        settings.problem? = none ∧
        ∃ base,
          GivesBase world path base ∧
          LaidOver environment backendUrlVariable base.backendUrl
            settings.backendUrl ∧
          LaidOver environment testDirectoryVariable base.testDirectory
            settings.testDirectory ∧
          settings.fileTimeoutSeconds = base.fileTimeoutSeconds ∧
          settings.functionTimeoutSeconds =
            base.functionTimeoutSeconds ∧
          settings.templateFallback = base.templateFallback) ∧
    (∀ fault,
      run.1 = .error fault ↔
        (∃ file, path = some file ∧ FileFails world file fault) ∨
        (∃ base, GivesBase world path base ∧ base.IsUsable) ∧
          ∃ url : String,
            environment.value? backendUrlVariable = some url.toUTF8 ∧
            isBlank url.toList = false ∧
            (¬ ∃ scheme ∈ knownSchemes, BeginsWith url scheme) ∧
            fault = .settings (.unknownScheme url)) ∧
    run.2 = world ∧
    ∀ (settings : Settings) (texts : Environment),
      (settings.overriddenBy texts).overriddenBy texts =
        settings.overriddenBy texts := by
  intro run
  have ends : ResolutionEnds path environment world run.1 :=
    resolutionEnds_run path environment world
  have answered {result : Except Fault Settings}
      (other : ResolutionEnds path environment world result) :
      run.1 = result :=
    congrArg Prod.fst other.simulate_eq
  refine
    ⟨⟨?succeeded, ?succeeds⟩, ?layered, fun fault => ⟨?failed, ?fails⟩,
      congrArg Prod.snd ends.simulate_eq,
      Settings.overriddenBy_overriddenBy⟩
  case succeeded =>
    rintro ⟨settings, isOk⟩
    rw [isOk] at ends
    cases ends with
    | resolved gives usable allowed => exact ⟨⟨_, gives, usable⟩, allowed⟩
  case succeeds =>
    rintro ⟨⟨base, gives, usable⟩, allowed⟩
    exact ⟨_, answered (.resolved gives usable allowed)⟩
  case layered =>
    intro settings isOk
    rw [isOk] at ends
    cases ends with
    | @resolved base gives usable allowed =>
        exact
          ⟨Settings.problem?_eq_none_iff.mpr (usable.overriddenBy allowed),
            base, gives, laidOver_nonBlankValue? _ _ _,
            laidOver_nonBlankValue? _ _ _, rfl, rfl, rfl⟩
  case failed =>
    intro isError
    rw [isError] at ends
    cases ends with
    | refused gives usable isSet visible unknown =>
        exact
          .inr ⟨⟨_, gives, usable⟩, _, isSet, visible, unknown, rfl⟩
    | failed named fails => exact .inl ⟨_, named, fails⟩
  case fails =>
    rintro (⟨file, named, fails⟩ |
      ⟨⟨base, gives, usable⟩, url, isSet, visible, unknown, rfl⟩)
    · exact answered (.failed named fails)
    · exact answered (.refused gives usable isSet visible unknown)

/-- A settings file under an environment with a blank URL and a test directory. -/
theorem resolveSettings_layers_file :
    let document := "backendUrl = 'https://h'\nfileTimeoutSecs = 5\n"
    let world : World :=
      { tree :=
          (FileTree.bare ["w".toList]).put ["w".toList, "g.toml".toList]
            (.file document.toUTF8)
        network := fun _ => .unreachable
        sent := [] }
    let environment : ProcessEnvironment :=
      { value? := fun name =>
          if name = backendUrlVariable then some "\t".toUTF8
          else some " spec".toUTF8 }
    let resolved : Settings :=
      { Settings.standard with
        backendUrl := "https://h"
        testDirectory := " spec"
        fileTimeoutSeconds := 5 }
    (simulate (resolveSettings simulatedHost (some "g.toml") environment)
        world).1 =
        .ok resolved ∧
      resolved.problem? = none ∧ AllowsUrl environment := by
  intro document world environment resolved
  have run :
      (simulate
          (resolveSettings simulatedHost (some "g.toml") environment)
          world).1 =
        .ok resolved := by
    decide +kernel
  have layers := resolveSettings_layers (some "g.toml") environment world
  exact ⟨run, (layers.2.1 _ run).1, (layers.1.mp ⟨_, run⟩).2⟩

/-- A variable that is set to a single byte 0xFF gives no URL: it is passed over,
though it is not blank and begins with no known scheme. -/
theorem resolveSettings_passes_over_bytes :
    let bytes : ByteArray := ⟨#[0xFF]⟩
    let world : World :=
      { tree := FileTree.bare ["w".toList]
        network := fun _ => .unreachable
        sent := [] }
    let environment : ProcessEnvironment :=
      { value? := fun name =>
          if name = backendUrlVariable then some bytes else none }
    (simulate (resolveSettings simulatedHost none environment) world).1 =
        .ok Settings.standard ∧
      ¬ ((∃ settings,
            (simulate (resolveSettings simulatedHost none environment)
              world).1 = .ok settings) ↔
          environment.value? backendUrlVariable = none ∨
            ∃ value,
              environment.value? backendUrlVariable = some value ∧
                ((∃ text : String,
                    value = text.toUTF8 ∧
                      isBlank text.toList = true) ∨
                  ∃ scheme ∈ knownSchemes,
                    scheme.toUTF8.data.toList <+: value.data.toList)) := by
  intro bytes world environment
  have run :
      (simulate (resolveSettings simulatedHost none environment)
        world).1 = .ok Settings.standard := by
    decide +kernel
  have isSet : environment.value? backendUrlVariable = some bytes := by
    decide +kernel
  have noText (text : String) : bytes ≠ text.toUTF8 := by
    intro encoded
    have read := decodeStrict?_eq_some_iff.mpr encoded
    have unread : decodeStrict? bytes = none := by decide +kernel
    rw [unread] at read
    cases read
  have withoutScheme :
      ∀ scheme ∈ knownSchemes,
        ¬ scheme.toUTF8.data.toList <+: bytes.data.toList := by
    decide +kernel
  refine ⟨run, fun onlyThen => ?_⟩
  rcases onlyThen.mp ⟨_, run⟩ with
    unset | ⟨value, isValue, ⟨text, encoded, -⟩ | ⟨scheme, known, begins⟩⟩
  · rw [unset] at isSet
    cases isSet
  · rw [isSet] at isValue
    cases isValue
    exact noText text encoded
  · rw [isSet] at isValue
    cases isValue
    exact withoutScheme scheme known begins

end TestScribe.Session
