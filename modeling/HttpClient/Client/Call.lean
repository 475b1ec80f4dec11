/-
# Calls

A call is prepared, authenticated and redirected.  The authentication flow is
started on the request; then the request is exchanged and the flow is shown the
response, until the flow asks for no further round.  The last response starts the
redirect chain, which sends one request after the other until no redirect is left
to follow.  The responses before the last one form the history of the answer:
first those of the rounds, then those of the redirects, each with its body in
memory.

Both loops end: a round uses up one of those that the flow has left, and a
redirect adds to the history, whose length is bounded.
-/
import HttpClient.Client.Exchange
import HttpClient.Client.Prepare

namespace HttpClient

open Auth Redirect

namespace Call

/-- The response with its body in memory. -/
def read (mode : Mode) (response : Response) : Call Response := do
  pause (.turns response.body.pauses)
  match response.read mode with
  | (.ok _, response) => return response
  | (.error e, _) => throw e

/-- The request with its body in memory, if the flow needs it there. -/
def buffer (mode : Mode) (flow : Flow) (r : Request) : Call Request :=
  if flow.buffersRequest && r.body.isStream then do
    pause (.turns r.body.pauses)
    let bytes ← ofExcept (r.body.readAll mode).1
    return { r with body := .ofBytes bytes }
  else return r

/-- The request as the flow starts it. -/
def start (flow : Flow) (r : Request) : Call Request :=
  act fun s =>
    let (edited, digests) := flow.start s.journal r s.digests
    (edited.toExcept, { s with digests })

/-- Shows the flow a response. -/
def resume (flow : Flow) (r : Request) (response : Response) : Call Resumed :=
  act fun s =>
    let resumed := flow.resume s.journal r response s.digests
    (resumed.step.map fun _ => resumed,
      { s with digests := resumed.store, journal := s.journal ++ flow.note response })

end Call

/-- A call behind its authentication rounds. -/
structure Authenticated where
  request : Request
  response : Response
  /-- The responses of the rounds before the last exchange. -/
  history : List Response

namespace Client

/-- One round: an exchange, and what the flow makes of the response. -/
def round (c : Client) (mode : Mode) (flow : Flow) (r : Request) : Call (Resumed × Response) := do
  let (r, response) ← c.exchange mode r
  let response ← if flow.buffersResponse then Call.read mode response else pure response
  let resumed ← Call.resume flow r response
  return (resumed, response)

/-- Exchanges the request until the flow asks for no further round, of which so many are left. -/
def authenticate (c : Client) (mode : Mode) :
    Nat → Flow → Request → List Response → Call Authenticated
  | left, flow, r, history => do
    let (resumed, response) ← c.round mode flow r
    match resumed.step with
    | .ok .sendRequest =>
      match left with
      | 0 => return ⟨resumed.request, response, history⟩
      | left + 1 =>
        let response ← Call.read mode response
        c.authenticate mode left resumed.flow resumed.request (history ++ [response])
    | _ => return ⟨resumed.request, response, history⟩

/-- Sends the request that a redirect leads to. -/
def proceed (c : Client) (mode : Mode) (r : Redirected) : Call (Sending × Response) := do
  let response ← Call.read mode r.response
  let chain ← Call.act fun s => ({ r with response }.proceed (c.cookies s), s)
  let (request, response) ← c.exchange mode chain.request
  return ({ chain with request }, response)

/-- Hands the chain the response and follows its redirects, of which at most so many are left. -/
def follow (c : Client) (mode : Mode) : Nat → Sending → Response → Call Answer
  | left, chain, response => do
    match ← Call.ofExcept (chain.receive response) with
    | .done answer => return answer
    | .redirected r =>
      match left with
      | 0 => throw (.tooManyRedirects response.url chain.history.length)
      | left + 1 =>
        let (chain, response) ← c.proceed mode r
        c.follow mode left chain response

/-- A call up to its first exchange: the request is prepared, and the flow has started on it. -/
def ready (c : Client) (mode : Mode) (r : Request) (options : Options) : Call Prepared := do
  let prepared ← Call.ofExcept (c.prepare r options)
  let request ← Call.buffer mode prepared.flow prepared.request
  let request ← Call.start prepared.flow request
  return { prepared with request }

/-- The chain that begins with the last response of the authentication. -/
def chain (c : Client) (last : Authenticated) (follow : Bool) : Sending :=
  { request := last.request
    history := last.history
    maxRedirects := c.maxRedirects
    follow }

def call (c : Client) (mode : Mode) (r : Request) (options : Options) : Call Answer := do
  let ready ← c.ready mode r options
  let last ← c.authenticate mode ready.flow.roundsLeft ready.flow ready.request []
  c.follow mode c.maxRedirects (c.chain last ready.follow) last.response

/-- Makes a call that has the session to itself. -/
def send (c : Client) (mode : Mode) (r : Request) (options : Options) (s : Session) :
    Except Error Answer × Session :=
  (c.call mode r options).run.run s

end Client

end HttpClient
