import Enrollment.Proofs.Text.Quoted
import Enrollment.Text.Inspect

/-!
# What inspection text tells

A shown value can be told from any other where it is the only one that differs: around it there
stands the same text, whatever the value is.
-/

namespace Enrollment.Inspect

variable {name key v w : String} {after : List (String × String)}

/-- What stands around one of several texts with a separator between them. -/
theorem exists_intercalate (separator : String) (before after : List String) :
    ∃ front back, ∀ text,
      separator.intercalate (before ++ text :: after) = front ++ text ++ back := by
  have hback : ∃ back, ∀ text, separator.intercalate (text :: after) = text ++ back := by
    cases after with
    | nil => exact ⟨"", fun text => by simp⟩
    | cons next after =>
        refine ⟨separator ++ separator.intercalate (next :: after), fun text => ?_⟩
        rw [String.intercalate_cons_cons, String.append_assoc]
  obtain ⟨back, hback⟩ := hback
  cases before with
  | nil => exact ⟨"", back, fun text => by rw [List.nil_append, hback, String.empty_append]⟩
  | cons first before =>
      refine ⟨separator.intercalate (first :: before) ++ separator, back, fun text => ?_⟩
      rw [String.intercalate_append_of_ne_nil (List.cons_ne_nil _ _) (List.cons_ne_nil _ _), hback,
        String.append_assoc]
      simp only [String.append_assoc]

/-- Two records that differ in one value are shown alike only if that value is. -/
theorem record_inj (before : List (String × String)) :
    record name (before ++ (key, v) :: after) = record name (before ++ (key, w) :: after) ↔
      v = w := by
  refine ⟨fun heq => ?_, congrArg fun v => record name (before ++ (key, v) :: after)⟩
  have hfields : ∀ v, before ++ (key, v) :: after ≠ [] := by simp
  obtain ⟨front, back, hparts⟩ := exists_intercalate ", "
    (before.map fun f => f.1 ++ ": " ++ f.2) (after.map fun f => f.1 ++ ": " ++ f.2)
  rw [record_eq name (hfields v), record_eq name (hfields w), List.map_append, List.map_append,
    List.map_cons, List.map_cons, hparts, hparts] at heq
  simpa [String.append_right_inj, String.append_left_inj] using heq

theorem tagged_inj {tag : String} : tagged tag v = tagged tag w ↔ v = w := by
  simp [tagged, String.append_right_inj, String.append_left_inj]

end Enrollment.Inspect
