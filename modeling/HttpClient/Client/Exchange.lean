/-
# Exchanges

An exchange hands one request to a transport and brings one response back.  Before
that, a request whose body has nothing left is refused, the transport is found,
the cookies are written and the request hooks are shown the request.  After that,
the response gets to know its request, its cookies go into the jar, and the
response hooks are shown it.  The first failure ends the exchange.

Only the transport takes time; what is before it happens at one moment, and so
does what is behind it.
-/
import HttpClient.Activity
import HttpClient.Client.Basic

namespace HttpClient

/-- A part of a call. -/
abbrev Call := ExceptT Error (Activity Session)

namespace Call

/-- Does something at one moment. -/
def act {α : Type} (f : Session → Except Error α × Session) : Call α := .mk (Activity.act f)

def pause (p : Activity Session Unit) : Call Unit := ExceptT.lift p

def ofExcept {α : Type} (e : Except Error α) : Call α := .mk (pure e)

end Call

/-- What became of a request that a transport was given. -/
structure Handled where
  /-- The request with its body as the transport left it. -/
  request : Request
  result : Except Error Response
  event : Event

/-- Gives a transport a request. -/
def Transport.handle (t : Transport) (mode : Mode) (j : Journal) (r : Request) : Handled :=
  if t.readsBody then
    match r.body.readAll mode with
    | (.ok bytes, body) =>
      let result := t.respond j r.head (.full bytes)
      ⟨{ r with body }, result, .exchange t.name r.head (.full bytes) result⟩
    | (.error e, body) => ⟨{ r with body }, .error e, .unreadable t.name r.head e⟩
  else
    let result := t.respond j r.head r.body
    ⟨r, result, .exchange t.name r.head r.body result⟩

/-- Shows something to one hook after the other, the first of which has the given index; `note` is
what goes into the journal. -/
def showTo {α : Type} (note : Nat → α → Event) (index : Nat) (hooks : List (Hook α)) (x : α)
    (j : Journal) : Except Error α × Journal :=
  match hooks with
  | [] => (.ok x, j)
  | hook :: rest =>
    match hook j x with
    | .ok changed => showTo note (index + 1) rest changed (j ++ [note index x])
    | .error e => (.error e, j ++ [note index x])

def showRequest (hooks : List RequestHook) (r : Request) (j : Journal) :
    Except Error Request × Journal :=
  showTo (fun index r => .requestHook index r.head) 0 hooks r j

def showResponse (hooks : List ResponseHook) (r : Response) (j : Journal) :
    Except Error Response × Journal :=
  showTo .responseHook 0 hooks r j

namespace Client

/-- The cookies that the jar has to send now. -/
def cookies (c : Client) (s : Session) : Option String := s.jar.render (c.clock s.journal)

/-- What is done with a request before its transport is given it. -/
def beforeSend (c : Client) (r : Request) (s : Session) :
    Except Error (Transport × Request) × Session :=
  if r.body.isConsumed then (.error .streamConsumed, s)
  else
    match c.router.route r.url s.connections with
    | (.error e, connections) => (.error e, { s with connections })
    | (.ok transport, connections) =>
      match r.applyJarCookie (c.cookies s) with
      | .error e => (.error e, { s with connections })
      | .ok r =>
        let (result, journal) := showRequest c.requestHooks r s.journal
        (result.map (transport, ·), { s with connections, journal })

/-- What is done with the response to a request. -/
def afterReceive (c : Client) (head : RequestHead) (response : Response) (s : Session) :
    Except Error Response × Session :=
  let jar := s.jar.extract response.headers (c.clock s.journal)
  let (result, journal) :=
    showResponse c.responseHooks { response with request := some head } s.journal
  (result, { s with jar, journal })

/-- Gives a request to its transport and receives the response. -/
def handOver (c : Client) (mode : Mode) (t : Transport) (r : Request) (s : Session) :
    Except Error (Request × Response) × Session :=
  let handled := t.handle mode s.journal r
  let s := { s with journal := s.journal ++ [handled.event] }
  match handled.result with
  | .error e => (.error e, s)
  | .ok response =>
    let (result, s) := c.afterReceive r.head response s
    (result.map (handled.request, ·), s)

/-- An exchange: the request with its body as the transport left it, and the response. -/
def exchange (c : Client) (mode : Mode) (r : Request) : Call (Request × Response) := do
  let (transport, r) ← Call.act (c.beforeSend r)
  Call.pause (.sleep (transport.delay r.head))
  Call.pause (.turns (if transport.readsBody then r.body.pauses else 0))
  Call.act (c.handOver mode transport r)

end Client

end HttpClient
