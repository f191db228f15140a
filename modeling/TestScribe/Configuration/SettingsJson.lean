import TestScribe.Configuration.Settings
import TestScribe.Json.Value
/-!
# Settings as JSON

Settings are written as an object.  When they are read, a missing member keeps
its standard value.
-/

namespace TestScribe.Configuration

open TestScribe

/-- The settings as a JSON value. -/
def Settings.toJson (settings : Settings) : Json.Value :=
  .ofMembers
    [("backendUrl", .ofString settings.backendUrl),
      ("testDirectory", .ofString settings.testDirectory),
      ("fileTimeoutSecs", .ofNat settings.fileTimeoutSeconds),
      ("functionTimeoutSecs", .ofNat settings.functionTimeoutSeconds),
      ("templateFallback", .boolean settings.templateFallback)]

/-- The names of the settings, in order. -/
def settingsFields : List String :=
  ["backendUrl", "testDirectory", "fileTimeoutSecs", "functionTimeoutSecs",
    "templateFallback"]

/-- A setting in a field that may be missing. -/
def settingOfField? {α : Type} (standard : α) (ofValue? : Json.Value → Option α) :
    Option Json.Value → Option α
  | none => some standard
  | some value => ofValue? value

/-- The settings that a JSON value gives. -/
def Settings.ofJson? (value : Json.Value) : Option Settings := do
  let standard := Settings.standard
  match ← value.fields? settingsFields with
  | [backendUrl, testDirectory, fileTimeout, functionTimeout, templateFallback] =>
    return {
      backendUrl := ← settingOfField? standard.backendUrl Json.Value.string? backendUrl
      testDirectory :=
        ← settingOfField? standard.testDirectory Json.Value.string? testDirectory
      fileTimeoutSeconds :=
        ← settingOfField? standard.fileTimeoutSeconds Json.Value.unsigned? fileTimeout
      functionTimeoutSeconds :=
        ← settingOfField? standard.functionTimeoutSeconds Json.Value.unsigned? functionTimeout
      templateFallback :=
        ← settingOfField? standard.templateFallback Json.Value.boolean? templateFallback }
  | _ => none

end TestScribe.Configuration
