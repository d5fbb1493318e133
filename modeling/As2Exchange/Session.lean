import As2Exchange.KeyStore.Basic
import As2Exchange.Registry

/-!
# Sessions

What one send works with: the key store and the partnerships that are known. A session is opened for
each send and never shared.
-/

namespace As2Exchange

/-- The components of a send. -/
structure Session where
  keyStore : KeyStore := {}
  registry : Registry := {}

namespace Session

/-- Opens a session: the key store first, then the partnerships, whose setting up may fail for a
reason of its own. A request to stop passes as it is. -/
def start (surroundings : Surroundings) (settings : Settings)
    (partnershipsFail : Option Foreign) : Except Failure Session := do
  let keyStore ← KeyStore.load surroundings settings.keyStorePath settings.keyStorePassword
  match partnershipsFail with
  | none => return { keyStore }
  | some cause =>
    if cause.family = .interrupt then .error (.foreign cause)
    else .error (.component (.partnerships cause))

end Session

end As2Exchange
