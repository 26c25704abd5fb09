import Liveboard.Channel.Driver
import Liveboard.Metrics.Event

/-!
# A transport in memory

A push channel without a network. Its connections are either fed by hand,
where failures can be planned ahead, or follow a script that lists what
each attempt to open a connection brings.

A `Connection` keeps what it still has to bring, and a driver takes that one
item at a time. To end a connection is to put nothing more on it
(`Transport.hangUp`), or an error as the last item (`Transport.snap`); what was
put on it before is still read.
-/

namespace Liveboard

/-- **A connection.** -/
structure Connection where
  /-- What it brings and was not read yet. -/
  unread : List StreamItem
  /-- Whether more may come. -/
  isFed : Bool
  /-- Whether someone reads. -/
  isRead : Bool

/-- What an attempt of a script brings. -/
inductive ScriptEntry where
  /-- It fails. -/
  | failure (error : ChannelError)
  /-- It opens a connection that brings the items, and then stays open or
  ends. -/
  | items (items : List StreamItem) (holds : Bool)

/-- **A transport in memory.** Connections are numbered in the order in
which they were opened. -/
structure Transport where
  /-- What the coming attempts bring; none if connections are fed by
  hand. -/
  script : Option (List ScriptEntry)
  /-- The planned failures, the next first. -/
  failures : List ChannelError
  /-- Whether every attempt fails. -/
  offline : Bool
  /-- The connection that is fed. -/
  current : Option Nat
  /-- All connections so far. -/
  connections : List Connection
  /-- The number of attempts. -/
  opens : Nat
  /-- The token of the last attempt. -/
  token : Option String

namespace Transport

/-- A transport whose connections are fed by hand. -/
def manual : Transport where
  script := none
  failures := []
  offline := false
  current := none
  connections := []
  opens := 0
  token := none

/-- A transport that follows a script. -/
def scripted (entries : List ScriptEntry) : Transport :=
  { manual with script := some entries }

/-- What the transport is called. -/
def endpoint (t : Transport) : String :=
  if t.script.isSome then "script://push" else "memory://push"

/-- Changes a connection. -/
def modify (t : Transport) (connection : Nat) (change : Connection → Connection) : Transport :=
  { t with connections := t.connections.modify connection change }

/-- Feeds no connection any more. -/
def release (t : Transport) : Transport :=
  match t.current with
  | some n => { t.modify n (fun c => { c with isFed := false }) with current := none }
  | none => t

/-- Adds a connection. -/
def add (t : Transport) (c : Connection) : Nat × Transport :=
  (t.connections.length, { t with connections := t.connections ++ [c] })

/-- An attempt that follows the script; past its end every connection ends
at once. -/
def follow (t : Transport) (entries : List ScriptEntry) : Except ChannelError Nat × Transport :=
  let t := { t with script := some (entries.drop 1) }
  match entries.head? with
  | some (.failure error) => (.error error, t)
  | some (.items items holds) =>
    let (n, t) := t.add ⟨items, holds, true⟩
    (.ok n, t)
  | none =>
    let (n, t) := t.add ⟨[], false, true⟩
    (.ok n, t)

/-- **An attempt to open a connection.** Planned failures come first. A new
connection takes the place of the one fed so far. -/
def dial (t : Transport) (token : String) : Except ChannelError Nat × Transport :=
  let t := { t with opens := t.opens + 1, token := some token }
  match t.script with
  | some entries => t.follow entries
  | none =>
    match t.failures with
    | error :: rest => (.error error, { t with failures := rest })
    | [] =>
      if t.offline then (.error (.transport "memory transport offline"), t)
      else
        let (n, t) := t.release.add ⟨[], true, true⟩
        (.ok n, { t with current := some n })

/-- Plans a failure. -/
def failNext (t : Transport) (error : ChannelError) : Transport :=
  { t with failures := t.failures ++ [error] }

/-- Whether the connection that is fed is read. -/
def isOpen (t : Transport) : Bool :=
  (t.current.bind (t.connections[·]?)).any (·.isRead)

/-- **Feeds the current connection.** Tells whether anyone reads it. -/
def push (t : Transport) (item : StreamItem) : Bool × Transport :=
  match t.current with
  | some n =>
    if t.isOpen then (true, t.modify n fun c => { c with unread := c.unread ++ [item] })
    else (false, t)
  | none => (false, t)

/-- Ends the current connection as if the other side had closed it. -/
def hangUp (t : Transport) : Transport := t.release

/-- Ends the current connection with an error. -/
def snap (t : Transport) (reason : String) : Transport :=
  (t.push (.fault (.transport reason))).2.release

/-- Nobody reads a connection any more. -/
def abandon (t : Transport) (connection : Nat) : Transport :=
  t.modify connection fun c => { c with isRead := false }

/-- What a reader finds on a connection. -/
inductive Found where
  /-- The next item. -/
  | item (item : StreamItem)
  /-- The end. -/
  | closed
  /-- Nothing yet. -/
  | nothing

/-- Reads the next item of a connection. -/
def read (t : Transport) (connection : Nat) : Found × Transport :=
  match t.connections[connection]? with
  | none => (.closed, t)
  | some c =>
    match c.unread with
    | item :: rest => (.item item, t.modify connection fun c => { c with unread := rest })
    | [] => (if c.isFed then .nothing else .closed, t)

end Transport

end Liveboard
