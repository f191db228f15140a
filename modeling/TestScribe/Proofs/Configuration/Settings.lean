import Mathlib.Data.List.TakeWhile
import TestScribe.Configuration.Settings

/-!
# Usable settings and the base of a URL

Settings without a problem are those with a known scheme, a test directory that
is not blank and time to wait.  The base URL is the backend's URL without the
slashes at its end: it does not end with one, and nothing else was left out.
-/

namespace TestScribe.Configuration

open TestScribe.Text

/-! ## Usable settings -/

/-- The text begins with the other one. -/
def BeginsWith
    (text lead : String) : Prop :=
  lead.toList <+: text.toList

instance (text lead : String) : Decidable (BeginsWith text lead) :=
  inferInstanceAs (Decidable (lead.toList <+: text.toList))

/-- The schemes that the backend can be reached by. -/
def knownSchemes : List String :=
  ["http://", "https://"]

theorem hasKnownScheme_iff
    {url : String} :
    hasKnownScheme url = true ↔
      ∃ scheme ∈ knownSchemes, BeginsWith url scheme := by
  simp [hasKnownScheme, knownSchemes, BeginsWith]

/-- What settings have to say for a session to start. -/
structure Settings.IsUsable
    (settings : Settings) : Prop where
  reachable :
    ∃ scheme ∈ knownSchemes, BeginsWith settings.backendUrl scheme
  directory : isBlank settings.testDirectory.toList = false
  fileTimeout : settings.fileTimeoutSeconds ≠ 0
  functionTimeout : settings.functionTimeoutSeconds ≠ 0

theorem Settings.problem?_eq_none_iff
    {settings : Settings} :
    settings.problem? = none ↔ settings.IsUsable := by
  rw [Settings.problem?]
  split
  · next unknown =>
    rw [Bool.not_eq_true', Bool.eq_false_iff, ne_eq,
      hasKnownScheme_iff] at unknown
    exact iff_of_false nofun fun usable => unknown usable.reachable
  · next known =>
    rw [Bool.not_eq_true', Bool.not_eq_false,
      hasKnownScheme_iff] at known
    split
    · next blank =>
      refine iff_of_false nofun fun usable => ?_
      rw [usable.directory] at blank
      exact nomatch blank
    · next directory =>
      split
      · next noTime =>
        exact
          iff_of_false nofun fun usable =>
            noTime.elim usable.fileTimeout usable.functionTimeout
      · next timed =>
        rw [not_or] at timed
        exact
          iff_of_true rfl
            ⟨known, Bool.eq_false_iff.mpr directory, timed.1, timed.2⟩

/-- The scheme is what is looked at first. -/
theorem Settings.problem?_of_unknown_scheme
    {settings : Settings}
    (unknown :
      ¬ ∃ scheme ∈ knownSchemes,
        BeginsWith settings.backendUrl scheme) :
    settings.problem? = some (.unknownScheme settings.backendUrl) := by
  rw [← hasKnownScheme_iff, Bool.not_eq_true] at unknown
  rw [Settings.problem?, unknown]
  rfl

/-! ## The base of a URL -/

/-- The second text is the first with slashes put at its end, and the first does
not end with one. -/
def IsBaseOf
    (base url : String) : Prop :=
  base.toList.getLast? ≠ some '/' ∧
    ∃ count, url.toList = base.toList ++ List.replicate count '/'

theorem isBaseOf_withoutTrailingSlashes
    (url : String) :
    IsBaseOf (withoutTrailingSlashes url) url := by
  rw [IsBaseOf, withoutTrailingSlashes, String.toList_ofList]
  constructor
  · rw [List.getLast?_reverse]
    intro isSlash
    have notSlash :=
      List.head?_dropWhile_not (· == '/') url.toList.reverse
    rw [isSlash] at notSlash
    exact absurd notSlash (by decide)
  · refine ⟨(url.toList.reverse.takeWhile (· == '/')).length, ?_⟩
    have slashes :
        url.toList.reverse.takeWhile (· == '/') =
          List.replicate
            (url.toList.reverse.takeWhile (· == '/')).length '/' := by
      rw [List.eq_replicate_iff]
      refine ⟨rfl, ?_⟩
      intro character member
      have isSlash := List.mem_takeWhile_imp member
      exact beq_iff_eq.mp isSlash
    rw [← List.reverse_replicate, ← slashes, ← List.reverse_append,
      List.takeWhile_append_dropWhile, List.reverse_reverse]

theorem Settings.isBaseOf_baseUrl
    (settings : Settings) :
    IsBaseOf settings.baseUrl settings.backendUrl :=
  isBaseOf_withoutTrailingSlashes settings.backendUrl

end TestScribe.Configuration
