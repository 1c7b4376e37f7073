import PromptCanvas.Job.Submission

set_option autoImplicit false
set_option relaxedAutoImplicit false

namespace PromptCanvas.Submission

theorem map_number_jobs (admission : Admission) (size : Size) (prompts : List String)
    (first : Nat) :
    (jobs admission size prompts first).map Job.number = List.range' first prompts.length := by
  apply List.ext_getElem
  · simp [jobs]
  · intro place _ _
    simp [jobs]

end PromptCanvas.Submission
