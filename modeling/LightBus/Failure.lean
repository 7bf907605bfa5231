/-!
# What is shown of errors

Every type of errors of the library says how its errors are named and worded.
-/

namespace LightBus

/-- The shown form of an error. -/
class Failure (ε : Type) where
  /-- The name of the error. The name of an error inside of it follows after a dot. -/
  kind : ε → String
  message : ε → String

end LightBus
