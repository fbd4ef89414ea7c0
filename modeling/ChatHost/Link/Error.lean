/-!
# Link Errors

What can go wrong between this host and a peer.

## Main definitions

* `LinkError`: The causes.
* `LinkError.message`: The wording of a cause.
-/

namespace ChatHost

/-- Why a packet did not go out or come in. -/
inductive LinkError
  /-- The network refused; the reason is the operating system's. -/
  | io (reason : String)
  /-- This end was closed. -/
  | closed
  /-- The packet that was to be answered did not ask for an answer. -/
  | notARequest
  /-- A datagram is no frame. -/
  | malformed (reason : String)
  /-- A payload has more bytes than all frames of one packet can hold. -/
  | tooLarge (size limit : Nat)
  deriving DecidableEq

/-- The wording of a cause. -/
def LinkError.message : LinkError → String
  | io reason => "I/O error: " ++ reason
  | closed => "Transport closed"
  | notARequest => "Packet did not arrive as a request and cannot be answered"
  | malformed reason => "Malformed datagram: " ++ reason
  | tooLarge size limit =>
    "Payload of " ++ size.repr ++ " bytes exceeds the " ++ limit.repr ++ " byte limit"

end ChatHost
