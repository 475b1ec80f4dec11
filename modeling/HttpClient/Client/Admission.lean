/-
# Admission

Of the calls that are awaited, only so many may be under way at a time.  A call
waits for its permit as long as the client's patience lasts, and then fails; a
draft that is wrong fails before it asks for one.
-/
import HttpClient.Client.Call
import HttpClient.Client.Draft
import HttpClient.Crowd.Basic
import HttpClient.Time.Duration

namespace HttpClient

/-- How calls are admitted. -/
structure Admission where
  maxInFlight : Nat := 100
  /-- How long a call waits for its permit. -/
  patience : Duration := .ofSeconds 5
deriving DecidableEq, Repr

namespace Admission

/-- The failure of a call that was not admitted in time. -/
def refusal (a : Admission) : Error :=
  .timeout .pool ("no permit within " ++ a.patience.text)

/-- A call as a member of a crowd. -/
def member (a : Admission) (c : Client) (d : Draft) : Member Session (Except Error Answer) :=
  match d.request with
  | .error e => .early (.error e)
  | .ok r => .queued a.patience.millis (c.call .async r d.options).run

/-- Calls that start together, none of them admitted yet. -/
def crowd (a : Admission) (c : Client) (drafts : List Draft) (s : Session) :
    Crowd Session (Except Error Answer) :=
  { turns := .ofSize drafts.length
    free := a.maxInFlight
    state := s
    members := drafts.map (a.member c) }

end Admission

namespace Client

/-- Makes calls together, when there are no others: the crowd after all of them have ended. -/
def sendTogether (c : Client) (a : Admission) (drafts : List Draft) (s : Session) :
    Crowd Session (Except Error Answer) :=
  (a.crowd c drafts s).run (.error a.refusal)

/-- Makes a draft, when there are no other calls. -/
def sendDraft (c : Client) (d : Draft) (s : Session) : Except Error Answer × Session :=
  match d.request with
  | .error e => (.error e, s)
  | .ok r => c.send .blocking r d.options s

end Client

end HttpClient
