import Manuscript.Error
import Manuscript.Compile.Raw
import Manuscript.Compile.Carry
import Manuscript.Compile.Directive

/-!
# Compiling a story

A story compiles into its resolved stream, and with the instructions carried out into its cleaned
stream, which the prose formats are made from. A story without records does not compile.
-/

namespace Manuscript

/-- The resolved stream of a story. -/
def compileActions (story : Story) : Except Error (List Action) :=
  if story.isEmpty then .error .noStoryRecords
  else
    let raw := rawActions story
    if raw.isEmpty then .error .noActions
    else
      let resolved := resolveSame raw
      if resolved.isEmpty then .error .noResolvedActions else .ok resolved

/-- The cleaned stream of a story. -/
def cleanedActions (story : Story) : Except Error (List Action) :=
  (compileActions story).map applyInstructions

end Manuscript
