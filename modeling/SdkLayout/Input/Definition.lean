import SdkLayout.Api.Codec
import SdkLayout.Input.Error

/-!
# Reading API definitions

A definition is accepted if its text is JSON of the right form and the definition is intact.
-/

namespace SdkLayout

/-- Reads an API definition. The path is used in messages. -/
def Api.read (text path : String) : Except InputError Api :=
  match Api.decoder.text text with
  | .error e => .error (.malformedApi e.explanation?)
  | .ok api =>
    match api.validate with
    | .error e => .error (.inconsistentApi path e)
    | .ok () => .ok api

end SdkLayout
