import Liveboard.Fetch.Client

/-!
# Calls on the backend

The calls that the client makes: the snapshot of a period, and the queues
of requests that wait at the backend. A call is a value, with the request
it makes – or an error where it makes none – and the result that an outcome
means. Nothing is sent between the two, so what a call asks for and what it
makes of an answer can be looked at one without the other.

A call on the queues may be about one request that waits there. Its
identifier becomes the last segment of the path as it comes; what is empty
or has a slash in it cannot be a segment, and `QueueCall.request` asks for
nothing then.
-/

namespace Liveboard

/-! ## Snapshots -/

namespace SnapshotCall

/-- Where snapshots are to be had. -/
def path : String := "dashboard/stats/streaming"

/-- **The request for the snapshot of a period.** -/
def request (c : HttpClient) (period : Period) : Except FetchError HttpRequest :=
  (c.request .get path [("period", period.name)] none).mapError HttpError.toFetchError

/-- **The snapshot that an outcome means.** -/
def result (r : HttpRequest) (period : Period) (outcome : Outcome) : Except FetchError Snapshot :=
  ((r.receive outcome).bind (HttpRequest.decodeBody SnapshotBody.shape.ofText)).mapError
      HttpError.toFetchError
    |>.map (·.toSnapshot period)

end SnapshotCall

/-! ## Queues -/

/-- **A call on the queues.** -/
inductive QueueCall where
  /-- All queues. -/
  | list
  /-- The requests that are served. -/
  | active
  /-- How the queues are set up. -/
  | config
  /-- Sets the queues up anew. -/
  | updateConfig (config : Json)
  /-- Takes a request out of its queue. -/
  | cancel (id : String)

namespace QueueCall

/-- Where the queues are to be had. -/
def root : String := "dashboard/queues"

/-- The path of a call. -/
def path : QueueCall → String
  | .list => root
  | .active => root ++ "/active"
  | .config | .updateConfig _ => root ++ "/config"
  | .cancel id => root ++ "/" ++ id

/-- The method of a call. -/
def method : QueueCall → HttpMethod
  | .updateConfig _ => .put
  | .cancel _ => .delete
  | _ => .get

/-- What a call is about, should there be nothing of that name. -/
def subject : QueueCall → String
  | .list => "queues"
  | .active => "active requests"
  | .config | .updateConfig _ => "queue config"
  | .cancel id => id

/-- Whether a text can name a request: it is one segment of a path. -/
def isName (id : String) : Bool :=
  id ≠ "" && !id.toList.contains '/'

/-- **The request of a call.** What cannot name a request is not asked
for. -/
def request (call : QueueCall) (c : HttpClient) : Except QueueError HttpRequest :=
  let body : Option Json := match call with
    | .updateConfig v => some v
    | _ => none
  let sent :=
    (c.request call.method call.path [] body).mapError (HttpError.toQueueError call.subject)
  match call with
  | .cancel id => if isName id then sent else .error (.notFound id)
  | _ => sent

/-- **What an outcome means.** A request that was cancelled leaves no
value. -/
def result (call : QueueCall) (r : HttpRequest) (outcome : Outcome) :
    Except QueueError (Option Json) :=
  let received : Except HttpError (Option Json) :=
    match call with
    | .cancel _ => (r.receive outcome).map fun _ => none
    | _ => (r.receiveJson outcome).map some
  received.mapError (HttpError.toQueueError call.subject)

end QueueCall

end Liveboard
