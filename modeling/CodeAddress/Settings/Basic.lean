/-
The settings of a client.
-/
import CodeAddress.Real.Binary64

namespace CodeAddress

/-- Where the service is, how the client introduces itself, and how long it waits, in seconds. Without
anything said it is the home instance, under the library's own name, for half a minute. -/
structure Settings where
  baseUrl : Text := "https://sourcegraph.com/api/"
  userAgent : Text := "sgclient/0.1.0"
  timeout : Binary64 := Binary64.ofDecimal false 30 0
deriving DecidableEq, Repr

end CodeAddress
