import LivePatching.Host.Files

/-!
# Environment variables

Each variable has at most one value, a list of bytes. A value that is not UTF-8 has no text.
-/

namespace LivePatching.Host

/-- The variables by name; of two of one name the first counts. -/
abbrev Environment := List (String × Bytes)

namespace Environment

/-- The value of the variable. -/
def get? (env : Environment) (name : String) : Option Bytes := env.lookup name

/-- The value of the variable as text, if it is UTF-8. -/
def text? (env : Environment) (name : String) : Option String := env.get? name >>= Bytes.toString?

end Environment

end LivePatching.Host
