import LivePatching.Catalog.Document
import LivePatching.Duration
import LivePatching.Host.Files

/-!
# Data providers

A provider answers the three questions of the sub-form: the clients, the products and the kernels
of a scope. A catalog answers from a document, after its latency; a failing provider answers every
question with the same error.
-/

namespace LivePatching

/-- Where the lists come from. -/
inductive Provider where
  | catalog (document : Catalog.Document) (latency : Option Duration)
  | failing (reason : String)
deriving Repr, Inhabited

namespace Provider

/-- The time that an answer takes, if it takes any. -/
def latency? : Provider → Option Duration
  | catalog _ latency => latency
  | failing _ => none

/-- The answer to the question for the clients. -/
def clients : Provider → Except ProviderError (List Client)
  | catalog d _ => .ok d.clients
  | failing reason => .error (.unavailable reason)

/-- The answer to the question for the products. -/
def products : Provider → Except ProviderError (List Product)
  | catalog d _ => .ok d.products
  | failing reason => .error (.unavailable reason)

/-- The answer to the question for the kernels of a scope. -/
def kernels (s : Scope) : Provider → Except ProviderError (List Kernel)
  | catalog d _ => d.kernelsFor s
  | failing reason => .error (.unavailable reason)

/-- The document behind a catalog. -/
def document? : Provider → Option Catalog.Document
  | catalog d _ => some d
  | failing _ => none

end Provider

namespace Catalog

/-- The document in a file; an error names the path. -/
def Document.load (files : Host.Files) (path shown : String) : Except ProviderError Document :=
  match files.readText path with
  | .ok text => Document.parse text
  | .error e => .error (.unavailable (shown ++ ": " ++ e.message))

end Catalog

end LivePatching
