/-!
# Errors of the backend's answers

Three callers ask the backend over HTTP: the plain client, the source of
snapshots and the client of the queues. Each has errors of its own, with
texts of its own, and the errors of the plain client turn into those of the
other two. On the way a bad status becomes a failure of the exchange, except
that 404 tells a client of the queues that there is nothing of that name
(`HttpError.toQueueError`).
-/

namespace Liveboard

/-- **Why there is no snapshot.** -/
inductive FetchError where
  /-- The exchange failed or had a bad status. -/
  | transport (reason : String)
  /-- The body is no snapshot. -/
  | decode (reason : String)
  deriving DecidableEq, Repr, Inhabited

namespace FetchError

/-- The wording of an error. -/
def message : FetchError → String
  | .transport reason => "Snapshot transport error: " ++ reason
  | .decode reason => "Snapshot decode error: " ++ reason

end FetchError

/-- **Why a call on the queues failed.** -/
inductive QueueError where
  /-- The exchange failed or had a bad status. -/
  | transport (reason : String)
  /-- There is nothing of that name. -/
  | notFound (subject : String)
  /-- The body could not be read. -/
  | decode (reason : String)
  deriving DecidableEq, Repr, Inhabited

namespace QueueError

/-- The wording of an error. -/
def message : QueueError → String
  | .transport reason => "Queue API request failed: " ++ reason
  | .notFound subject => "Queued request not found: " ++ subject
  | .decode reason => "Queue API decode error: " ++ reason

end QueueError

/-- **Why an exchange gave no value.** -/
inductive HttpError where
  /-- The exchange failed. -/
  | transport (reason : String)
  /-- The status tells no success. -/
  | status (code : Nat) (body : String)
  /-- The body could not be read. -/
  | decode (reason : String)
  deriving DecidableEq, Repr, Inhabited

namespace HttpError

/-- The wording of an error. -/
def message : HttpError → String
  | .transport reason => "Request failed: " ++ reason
  | .status code body => s!"Unexpected status {code}: {body}"
  | .decode reason => "Invalid response body: " ++ reason

/-- What the error means for a snapshot. -/
def toFetchError : HttpError → FetchError
  | .decode reason => .decode reason
  | e => .transport e.message

/-- What the error means for a call about `subject`: the backend answers
404 if there is nothing of that name. -/
def toQueueError (subject : String) : HttpError → QueueError
  | .status 404 _ => .notFound subject
  | .decode reason => .decode reason
  | e => .transport e.message

end HttpError

end Liveboard
