import Mathlib.Data.List.TakeWhile
import TestScribe.Path.FileName
import TestScribe.Proofs.Text.Run

/-!
# The stem of a file name

A name is its stem, followed by a dot and an extension without dots, or it is all
stem.  It has one stem only, which is empty only if the name is, and has no slash
if the name has none.
-/

namespace TestScribe.Path

open TestScribe.Text

variable
    {α : Type}
    [PathLetter α]

/-! ## Stems -/

/--
The stem of a name is what stands before its last dot, or the whole name if it
has no dot, other than one at its front.
-/
inductive IsStem :
    List α → List α → Prop where
  | cut
      {stem extension : List α}
      (nonempty : stem ≠ [])
      (dotless : dot ∉ extension) :
      IsStem stem (stem ++ dot :: extension)
  | whole
      {name : List α}
      (dotless : dot ∉ name.tail) :
      IsStem name name

/-- A name has one stem. -/
theorem IsStem.unique
    {stem other name : List α}
    (isStem : IsStem stem name)
    (otherToo : IsStem other name) :
    stem = other := by
  have dotBehind
      {front extension : List α}
      (nonempty : front ≠ []) :
      dot ∈ (front ++ dot :: extension).tail := by
    rw [List.tail_append_of_ne_nil nonempty]
    exact List.mem_append_cons_self
  generalize same : name = written at otherToo
  cases isStem with
  | cut nonempty dotless =>
      cases otherToo with
      | cut _ otherDotless =>
          exact
            (eq_of_append_cons_of_not_mem_right dotless otherDotless
              same).1
      | whole otherDotless =>
          rw [← same] at otherDotless
          exact absurd (dotBehind nonempty) otherDotless
  | whole dotless =>
      cases otherToo with
      | cut otherNonempty _ =>
          rw [same] at dotless
          exact absurd (dotBehind otherNonempty) dotless
      | whole _ => exact same

variable
    [DecidableEq α]

/-! ## Cutting a name at its last dot -/

/-- What is taken up to a dot has none. -/
theorem dot_not_mem_takeWhile
    (text : List α) :
    dot ∉ text.takeWhile (· != dot) := by
  intro member
  have passed := List.mem_takeWhile_imp member
  simp at passed

/-- The parts of a name meet at its last dot. -/
theorem eq_append_of_cutAtLastDot?
    {name stem extension : List α}
    (cut : cutAtLastDot? name = some (stem, extension)) :
    name = stem ++ dot :: extension ∧ dot ∉ extension := by
  rw [cutAtLastDot?] at cut
  split at cut
  · cases cut
  · cases cut
  · next found before _ dropped =>
    cases cut
    rcases eq_takeWhile_append_cons dropped with ⟨whole, stops⟩
    have isDot : found = dot := by
      simpa using stops
    constructor
    · have reversed := congrArg List.reverse whole
      rwa [List.reverse_reverse, List.reverse_append, List.reverse_cons,
        List.append_assoc, List.singleton_append, isDot] at reversed
    · rw [List.mem_reverse]
      exact dot_not_mem_takeWhile _

/-- The stem is the front of the name. -/
theorem stemOfName_isPrefix
    (name : List α) :
    stemOfName name <+: name := by
  rw [stemOfName]
  split
  · next stem extension cut =>
    exact ⟨_, (eq_append_of_cutAtLastDot? cut).1.symm⟩
  · exact List.prefix_refl name

theorem stemOfName_ne_nil
    {name : List α}
    (nonempty : name ≠ []) :
    stemOfName name ≠ [] := by
  rw [stemOfName]
  split
  · next stem extension cut =>
    rw [cutAtLastDot?] at cut
    split at cut
    · cases cut
    · cases cut
    · next _ _ several _ =>
      cases cut
      rw [ne_eq, List.reverse_eq_nil_iff]
      intro nothing
      exact several nothing
  · exact nonempty

/-- A name that is not cut has no dot behind its first character. -/
theorem dot_not_mem_tail_of_cutAtLastDot?
    {name : List α}
    (uncut : cutAtLastDot? name = none) :
    dot ∉ name.tail := by
  rw [cutAtLastDot?] at uncut
  split at uncut
  · next nothing =>
    intro member
    have passed :=
      List.dropWhile_eq_nil_iff.mp nothing dot
        (List.mem_reverse.mpr (List.mem_of_mem_tail member))
    simp at passed
  · next found single =>
    have whole :
        name = found :: (name.reverse.takeWhile (· != dot)).reverse := by
      have reversed :=
        congrArg List.reverse (eq_takeWhile_append_cons single).1
      rwa [List.reverse_reverse, List.reverse_append,
        List.reverse_singleton, List.singleton_append] at reversed
    rw [whole, List.tail_cons, List.mem_reverse]
    exact dot_not_mem_takeWhile _
  · cases uncut

theorem isStem_stemOfName
    (name : List α) :
    IsStem (stemOfName name) name := by
  rcases split : cutAtLastDot? name with _ | ⟨stem, extension⟩
  · have isWhole : stemOfName name = name := by
      rw [stemOfName, split]
    rw [isWhole]
    exact IsStem.whole (dot_not_mem_tail_of_cutAtLastDot? split)
  · have isCut : stemOfName name = stem := by
      rw [stemOfName, split]
    rcases eq_append_of_cutAtLastDot? split with ⟨whole, dotless⟩
    have nonempty : stem ≠ [] := by
      rw [← isCut]
      apply stemOfName_ne_nil
      rw [whole]
      simp
    rw [isCut, whole]
    exact IsStem.cut nonempty dotless

/-- A stem has no slash if the name has none. -/
theorem slash_not_mem_stemOfName
    {name : List α}
    (unbroken : slash ∉ name) :
    slash ∉ stemOfName name := by
  intro inStem
  exact unbroken ((stemOfName_isPrefix name).mem inStem)

end TestScribe.Path
