import WikiSync.Web.Exchange

/-!
# No Network

The web as seen from a machine without a network: no request gets through.

## Main definitions

* `Web.offline`: Answers every request with the same failure.
-/

namespace WikiSync

/-- The reason why a request does not get through without a network. -/
def noNetwork : String := "io: Network is unreachable (os error 101)"

/-- The web without a network. -/
def Web.offline : Machine Web Unit where
  answer _ _ := (.error noNetwork, ())

end WikiSync
