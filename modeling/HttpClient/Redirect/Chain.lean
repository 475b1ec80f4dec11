/-
# Redirect chains

The redirects of one call form a chain, which is in one of three states.  It is
*sending* while a request is under way; a response makes it *redirected*, if it
names another request that is to be followed, and *done* otherwise; from
*redirected* it proceeds to sending the next request.

The history holds the responses before the one awaited, also those from before
the chain, and its length is bounded: with `maxRedirects` responses in it no
redirect is followed any more.
-/
import HttpClient.Redirect.Next

namespace HttpClient.Redirect

/-- How long the history of a call may grow unless something else is set. -/
def defaultMax : Nat := 20

/-- A chain that awaits the response to its request. -/
structure Sending where
  request : Request
  /-- The responses so far, oldest first. -/
  history : List Response := []
  /-- How many redirects were followed. -/
  redirects : Nat := 0
  maxRedirects : Nat := defaultMax
  /-- Redirects are followed. -/
  follow : Bool := true
deriving DecidableEq

/-- A chain that is about to follow a redirect. -/
structure Redirected where
  /-- The chain as it was while it awaited the response. -/
  chain : Sending
  response : Response
  /-- The request that the response leads to. -/
  next : Request
deriving DecidableEq

/-- What a response makes of a chain. -/
inductive Received where
  | redirected (r : Redirected)
  | done (answer : Answer)
deriving DecidableEq

/-- Hands a chain the response to its request. -/
def Sending.receive (c : Sending) (response : Response) : Except Error Received :=
  if !response.isRedirect then .ok (.done ⟨response, c.history, none⟩)
  else if !c.follow then
    (next c.request response true).map fun next => .done ⟨response, c.history, some next⟩
  else if c.maxRedirects ≤ c.history.length then
    .error (.tooManyRedirects response.url c.history.length)
  else
    (next c.request response false).map fun next => .redirected ⟨c, response, next⟩

/-- Follows the redirect. The cookie field of the request follows the jar, which renders as given. -/
def Redirected.proceed (r : Redirected) (rendered : Option String) : Except Error Sending :=
  (r.next.applyJarCookie rendered).map fun request =>
    { r.chain with
      request
      history := r.chain.history ++ [r.response]
      redirects := r.chain.redirects + 1 }

/-- The state of a chain in a description. -/
inductive State where
  | sending
  | redirected
  | done
deriving DecidableEq, Repr

def State.describe : State → String
  | .sending => "Chain<Sending>"
  | .redirected => "Chain<Redirected>"
  | .done => "Chain<Done>"

/-- The state that a response brings a chain into. -/
def Received.state : Received → State
  | .redirected _ => .redirected
  | .done _ => .done

end HttpClient.Redirect
