/-!
# Errors of the push channel

What can go wrong with a connection or a frame. Two questions are asked of
a `ChannelError`: how it is shown, and whether another attempt may help
(`ChannelError.isRetryable`). One may where the network failed. A token that
was rejected once is rejected again, and a frame that cannot be read is
dropped and ends no connection.
-/

namespace Liveboard

/-- **What can go wrong on the push channel.** -/
inductive ChannelError where
  /-- The network or the channel failed. -/
  | transport (reason : String)
  /-- The backend rejected the token. -/
  | auth (reason : String)
  /-- A frame could not be read. -/
  | decode (reason : String)
  deriving DecidableEq, Repr, Inhabited

namespace ChannelError

/-- The wording of an error. -/
def message : ChannelError → String
  | .transport reason => "Transport error: " ++ reason
  | .auth reason => "Authentication rejected: " ++ reason
  | .decode reason => "Malformed frame: " ++ reason

/-- Whether another attempt to connect may help: only where the network
failed. -/
def isRetryable : ChannelError → Bool
  | .transport _ => true
  | _ => false

end ChannelError

end Liveboard
