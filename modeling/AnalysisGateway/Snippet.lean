import AnalysisGateway.Failure
import AnalysisGateway.Settings

/-!
# Checking snippets

A snippet counts without the blanks around it, in characters. It must not be empty, nor shorter or
longer than the settings allow; the faults come in that order.
-/

namespace AnalysisGateway

/-- The trimmed snippet, if its length is within the bounds. -/
def AnalysisSettings.checkSnippet (settings : AnalysisSettings) (code : String) :
    Except Failure String :=
  let trimmed := Text.trim code.toList
  if trimmed.length = 0 then .error (.validation "Code snippet cannot be empty")
  else if trimmed.length < settings.minLength then
    .error (.validation ("Provide a code snippet of at least " ++ toString settings.minLength
      ++ " characters"))
  else if settings.maxLength < trimmed.length then
    .error (.payloadTooLarge ("Code snippet too large (>" ++ toString settings.maxLength
      ++ " chars)"))
  else .ok (String.ofList trimmed)

end AnalysisGateway
