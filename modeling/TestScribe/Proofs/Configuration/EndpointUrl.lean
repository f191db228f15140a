import TestScribe.Backend.Url
import TestScribe.Proofs.Configuration.Settings
import TestScribe.Proofs.Text.Run

/-!
# The URLs of the backend's endpoints

Both URLs are the base URL with something put behind it, and the base URL is
told by what it is: the backend's URL without slashes at its end.  So slashes
behind the backend's URL change neither, and the scheme is kept wherever the base
URL still begins with it.  It does unless the slashes that are left out reach
into the scheme, and that happens exactly when nothing but slashes follows the
scheme.
-/

namespace TestScribe.Configuration

open TestScribe.Text

/-- So many slashes. -/
def slashes
    (count : Nat) :
    String :=
  String.ofList (List.replicate count '/')

/-- The backend's URL is the scheme, followed by slashes only. -/
def Settings.IsBareScheme
    (settings : Settings)
    (scheme : String) : Prop :=
  ∃ count, settings.backendUrl = scheme ++ slashes count

variable
    {base url text lead scheme : String}
    {settings : Settings}

/-! ## The base of a URL -/

theorem BeginsWith.append
    (begins : BeginsWith text lead)
    (behind : String) :
    BeginsWith (text ++ behind) lead := by
  rw [BeginsWith, String.toList_append]
  exact begins.trans (List.prefix_append _ _)

/-- Only one text is the base of a URL. -/
theorem IsBaseOf.eq_withoutTrailingSlashes
    (isBase : IsBaseOf base url) :
    withoutTrailingSlashes url = base := by
  rcases isBase with ⟨notSlash, count, whole⟩
  have stops :
      ∀ character ∈ base.toList.reverse.head?,
        (character == '/') = false := by
    intro character isLast
    rw [List.head?_reverse] at isLast
    rw [beq_eq_false_iff_ne]
    rintro rfl
    exact notSlash isLast
  have passes :
      ∀ character ∈ List.replicate count '/',
        (character == '/') = true := by
    intro character member
    rw [List.eq_of_mem_replicate member]
    rfl
  rw [withoutTrailingSlashes, whole, List.reverse_append,
    List.reverse_replicate, dropWhile_append_of_boundary passes stops,
    List.reverse_reverse, String.ofList_toList]

/-- The base is that of the URL with more slashes behind it. -/
theorem IsBaseOf.append_slashes
    (isBase : IsBaseOf base url)
    (count : Nat) :
    IsBaseOf base (url ++ slashes count) := by
  rcases isBase with ⟨notSlash, before, whole⟩
  refine ⟨notSlash, before + count, ?_⟩
  rw [String.toList_append, whole, slashes, String.toList_ofList,
    List.append_assoc, List.replicate_append_replicate]

theorem withoutTrailingSlashes_append_slashes
    (url : String)
    (count : Nat) :
    withoutTrailingSlashes (url ++ slashes count) =
      withoutTrailingSlashes url :=
  ((isBaseOf_withoutTrailingSlashes url).append_slashes
    count).eq_withoutTrailingSlashes

/-- The base begins as the URL does, unless only slashes follow there. -/
theorem IsBaseOf.beginsWith
    (isBase : IsBaseOf base url)
    (begins : BeginsWith url lead)
    (further : ¬ ∃ count, url = lead ++ slashes count) :
    BeginsWith base lead := by
  rcases isBase with ⟨-, count, whole⟩
  have baseBegins : base.toList <+: url.toList :=
    ⟨_, whole.symm⟩
  rcases Nat.le_total lead.toList.length base.toList.length with
    short | long
  · exact List.prefix_of_prefix_length_le begins baseBegins short
  · -- What is left out would reach into the lead.
    exfalso
    rcases begins with ⟨behind, leadWhole⟩
    rcases
      List.prefix_of_prefix_length_le baseBegins ⟨behind, leadWhole⟩
        long with
      ⟨reached, leadEq⟩
    rw [whole, ← leadEq, List.append_assoc,
      List.append_cancel_left_eq] at leadWhole
    have onlySlashes :=
      (List.append_eq_replicate_iff.mp leadWhole).2.2
    apply further
    refine ⟨behind.length, String.toList_inj.mp ?_⟩
    rw [String.toList_append, slashes, String.toList_ofList,
      ← onlySlashes, whole, ← leadEq, List.append_assoc, leadWhole]

/-! ## Endpoints -/

/-- Slashes behind the backend's URL do not change the base URL. -/
theorem Settings.baseUrl_append_slashes
    (settings : Settings)
    (count : Nat) :
    { settings with
        backendUrl := settings.backendUrl ++ slashes count }.baseUrl =
      settings.baseUrl :=
  withoutTrailingSlashes_append_slashes settings.backendUrl count

theorem Settings.IsBareScheme.baseUrl_eq
    (bare : settings.IsBareScheme scheme) :
    settings.baseUrl = withoutTrailingSlashes scheme := by
  rcases bare with ⟨count, whole⟩
  rw [Settings.baseUrl, whole, withoutTrailingSlashes_append_slashes]

/-- Behind a bare scheme the endpoints lose one of its slashes. -/
theorem Settings.IsBareScheme.not_beginsWith
    (bare : settings.IsBareScheme scheme)
    (known : scheme ∈ knownSchemes) :
    ¬ BeginsWith settings.generateTestsUrl scheme ∧
      ¬ BeginsWith settings.healthUrl scheme := by
  rw [Settings.generateTestsUrl, Settings.healthUrl, bare.baseUrl_eq]
  simp only [knownSchemes, List.mem_cons, List.not_mem_nil,
    or_false] at known
  rcases known with rfl | rfl
  · decide
  · decide

/--
The endpoints of usable settings begin with the scheme that the backend's URL
begins with, unless that URL is the scheme and slashes only; then neither does.
The two differ in what follows the same base, and slashes behind the backend's
URL change neither.
-/
theorem endpoints_keep_scheme_iff
    (settings : Settings)
    (usable : settings.problem? = none) :
    (∃ scheme ∈ knownSchemes,
      BeginsWith settings.backendUrl scheme ∧
        (BeginsWith settings.generateTestsUrl scheme ↔
          ¬ settings.IsBareScheme scheme) ∧
        (BeginsWith settings.healthUrl scheme ↔
          ¬ settings.IsBareScheme scheme)) ∧
      (∃ base,
        settings.healthUrl = base ++ "/" ∧
          settings.generateTestsUrl = base ++ "/api/generate-tests") ∧
      ∀ count,
        let padded :=
          { settings with
            backendUrl := settings.backendUrl ++ slashes count }
        padded.generateTestsUrl = settings.generateTestsUrl ∧
          padded.healthUrl = settings.healthUrl := by
  refine ⟨?kept, ⟨settings.baseUrl, rfl, rfl⟩, ?padded⟩
  case kept =>
    rcases (Settings.problem?_eq_none_iff.mp usable).reachable with
      ⟨scheme, known, begins⟩
    refine ⟨scheme, known, begins, ?_⟩
    by_cases bare : settings.IsBareScheme scheme
    · rcases bare.not_beginsWith known with ⟨notTests, notHealth⟩
      exact
        ⟨iff_of_false notTests (not_not_intro bare),
          iff_of_false notHealth (not_not_intro bare)⟩
    · have kept : BeginsWith settings.baseUrl scheme :=
        settings.isBaseOf_baseUrl.beginsWith begins bare
      exact
        ⟨iff_of_true (kept.append _) bare,
          iff_of_true (kept.append _) bare⟩
  case padded =>
    intro count
    simp only [Settings.generateTestsUrl, Settings.healthUrl,
      Settings.baseUrl_append_slashes, and_self]

/-- A URL with a path and several slashes at its end. -/
theorem endpoints_keep_scheme_iff_path :
    let settings : Settings :=
      { Settings.standard with backendUrl := "https://h//p//" }
    settings.problem? = none ∧
      settings.generateTestsUrl = "https://h//p/api/generate-tests" ∧
      ∃ scheme ∈ knownSchemes,
        BeginsWith settings.backendUrl scheme ∧
          (BeginsWith settings.generateTestsUrl scheme ↔
            ¬ settings.IsBareScheme scheme) := by
  intro settings
  have usable : settings.problem? = none := by
    decide
  rcases (endpoints_keep_scheme_iff settings usable).1 with
    ⟨scheme, known, begins, tests, -⟩
  exact ⟨usable, by decide, scheme, known, begins, tests⟩

/-- A scheme alone is accepted as a URL, but the requests for tests go to a host
named after the front of their path. -/
theorem bare_scheme_loses_slash :
    let settings : Settings :=
      { Settings.standard with backendUrl := "http://" }
    settings.problem? = none ∧
      settings.generateTestsUrl = "http:/api/generate-tests" ∧
      ¬ BeginsWith settings.generateTestsUrl "http://" ∧
      (Backend.Url.parse? settings.generateTestsUrl).map (·.host) =
        some "api" := by
  decide +kernel

end TestScribe.Configuration
