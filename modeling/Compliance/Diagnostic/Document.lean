import Compliance.Diagnostic
import Compliance.Json

/-!
# Compliance.Diagnostic.Document

Diagnostics as documents.

* `Diagnostic.toJsonWith` — position and wording, together with further fields.
-/

namespace Compliance.Diagnostic

/-- The document of a diagnostic, with further fields. -/
def toJsonWith (d : Diagnostic) (more : List (String × Json)) : Json :=
  .ofFields
    ([("kind", .text "parse_error"), ("line", .ofNat d.position.line),
      ("column", .ofNat d.position.column), ("message", .text d.message)] ++ more)

def toJson (d : Diagnostic) : Json := d.toJsonWith []

end Compliance.Diagnostic
