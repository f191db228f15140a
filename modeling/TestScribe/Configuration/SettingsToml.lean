import TestScribe.Configuration.Settings
import TestScribe.Toml.Document
/-!
# Settings from TOML

A settings file gives some of the settings by name; the others keep their
standard values, and names that are no setting are passed over.
-/

namespace TestScribe.Configuration

open TestScribe

/-- The text of a string value. -/
def textOfToml? : Toml.Value → Option String
  | .text content => some content
  | _ => none

/-- The number of an integer value that is not negative. -/
def naturalOfToml? : Toml.Value → Option Nat
  | .integer number => number.toNat?
  | _ => none

/-- The truth value of a boolean value. -/
def booleanOfToml? : Toml.Value → Option Bool
  | .boolean value => some value
  | _ => none

/-- The setting under a key: its standard value if the key is missing, and a
failure if the value is of the wrong kind. -/
def settingOfToml? {α : Type} (entries : Toml.Entries) (key : String) (standard : α)
    (ofValue? : Toml.Value → Option α) : Option α :=
  match entries.lookup key with
  | none => some standard
  | some value => ofValue? value

/-- The settings that the entries of a document give. -/
def Settings.ofTomlEntries? (entries : Toml.Entries) : Option Settings := do
  let standard := Settings.standard
  return {
    backendUrl := ← settingOfToml? entries "backendUrl" standard.backendUrl textOfToml?
    testDirectory :=
      ← settingOfToml? entries "testDirectory" standard.testDirectory textOfToml?
    fileTimeoutSeconds :=
      ← settingOfToml? entries "fileTimeoutSecs" standard.fileTimeoutSeconds naturalOfToml?
    functionTimeoutSeconds :=
      ← settingOfToml? entries "functionTimeoutSecs" standard.functionTimeoutSeconds
        naturalOfToml?
    templateFallback :=
      ← settingOfToml? entries "templateFallback" standard.templateFallback booleanOfToml? }

/-- The settings that a document gives. -/
def Settings.ofToml? (document : String) : Option Settings :=
  (Toml.parse? document).bind Settings.ofTomlEntries?

end TestScribe.Configuration
