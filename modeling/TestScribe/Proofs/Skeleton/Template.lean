import TestScribe.Skeleton.Template

/-!
# The call in a skeleton

The skeletons differ from framework to framework, but each of them assigns to a
result what comes of one call of the function, and the call passes one
placeholder for each parameter.
-/

namespace TestScribe.Skeleton

open TestScribe.Locate

/-- The part stands somewhere in the text. -/
def Holds
    (text part : String) : Prop :=
  ∃ before after, text = before ++ (part ++ after)

theorem Holds.trans
    {text middle part : String}
    (outer : Holds text middle)
    (inner : Holds middle part) :
    Holds text part := by
  rcases outer with ⟨before, after, rfl⟩
  rcases inner with ⟨front, back, rfl⟩
  refine ⟨before ++ front, back ++ after, ?_⟩
  simp only [String.append_assoc]

/-- A text of lines holds each of its lines. -/
theorem textOfLines_holds_of_mem
    {lines : List String}
    {line : String}
    (member : line ∈ lines) :
    Holds (textOfLines lines) line := by
  rcases List.append_of_mem member with ⟨before, after, rfl⟩
  refine ⟨textOfLines before, "\n" ++ textOfLines after, ?_⟩
  simp only [textOfLines, List.map_append, List.map_cons,
    String.join_append, String.join_cons, String.append_assoc]

/-- The assignment of a call with as many placeholders as there are parameters. -/
def assignedCall
    (name : String)
    (parameterCount : Nat) :
    String :=
  "result = " ++
    (name ++ "("
      ++ ", ".intercalate (List.replicate parameterCount "arg") ++ ")")

theorem assignedCall_eq
    (record : FunctionRecord) :
    assignedCall record.name record.parameters.length =
      "result = " ++ placeholderCall record := by
  rw [assignedCall, placeholderCall, placeholderArguments,
    List.map_const']

/-- Every skeleton holds the call of the function with its placeholders. -/
theorem basicTemplate_holds_assignedCall
    (record : FunctionRecord)
    (sourcePath : Option String) :
    Holds (basicTemplate record sourcePath)
      (assignedCall record.name record.parameters.length) := by
  rw [assignedCall_eq, basicTemplate]
  cases Framework.forLanguage record.language with
  | jest =>
      have line :
          Holds ("        // const result = " ++ placeholderCall record
              ++ ";")
            ("result = " ++ placeholderCall record) := by
        refine ⟨"        // const ", ";", ?_⟩
        simp only [← String.append_assoc]
        rfl
      exact (textOfLines_holds_of_mem (by simp)).trans line
  | pytest =>
      have line :
          Holds ("    # result = " ++ placeholderCall record)
            ("result = " ++ placeholderCall record) := by
        refine ⟨"    # ", "", ?_⟩
        simp only [← String.append_assoc, String.append_empty]
        rfl
      exact (textOfLines_holds_of_mem (by simp)).trans line
  | junit =>
      have line :
          Holds
            ("        // "
              ++ record.returnType.getD Header.defaultReturnType
              ++ " result = " ++ placeholderCall record ++ ";")
            ("result = " ++ placeholderCall record) := by
        refine
          ⟨"        // "
              ++ record.returnType.getD Header.defaultReturnType ++ " ",
            ";", ?_⟩
        have spaced : " result = " = " " ++ "result = " := by
          decide
        simp only [spaced, ← String.append_assoc]
      exact (textOfLines_holds_of_mem (by simp)).trans line
  | generic =>
      have line :
          Holds ("    // const result = " ++ placeholderCall record
              ++ ";")
            ("result = " ++ placeholderCall record) := by
        refine ⟨"    // const ", ";", ?_⟩
        simp only [← String.append_assoc]
        rfl
      exact (textOfLines_holds_of_mem (by simp)).trans line

end TestScribe.Skeleton
