/-
# Written transports

A transport that answers from a list of replies, one for each request and in
order, or by repeating what it was asked.  Which reply is next follows from the
journal: it is the number of requests answered so far.

A *mock* reads the request body before it takes a reply and may let time pass
before that; a *closure* does neither.
-/
import HttpClient.Client.Basic
import HttpClient.Message.Head

namespace HttpClient.Script

/-- The answer to one request. -/
inductive Reply where
  /-- The bytes of a response. -/
  | raw (bytes : Bytes)
  /-- A response; its url becomes that of the request. -/
  | response (response : Response)
  | fail (failure : Error)

/-- The outcome of an exchange with a reply. -/
def Reply.outcome (url : Url) : Reply → Except Error Response
  | .raw bytes => Response.ofBytes bytes url
  | .response r => .ok { r with url }
  | .fail e => .error e

/-- The outcome of the exchange behind so many others. -/
def answer (replies : List Reply) (exhausted : String) (served : Nat) (url : Url) :
    Except Error Response :=
  match replies[served]? with
  | some reply => reply.outcome url
  | none => .error (.connect exhausted)

theorem answer_ok {replies : List Reply} {exhausted : String} {served : Nat} {url : Url}
    {x : Response} (h : answer replies exhausted served url = .ok x) :
    ∃ reply ∈ replies, reply.outcome url = .ok x := by
  simp only [answer] at h
  split at h
  · rename_i reply found
    exact ⟨reply, List.mem_of_getElem? found, h⟩
  · cases h

/-- The name of the field that asks a mock to let time pass. -/
def delayName : HeaderName := ⟨"x-delay-ms", by decide⟩

/-- The milliseconds that a request asks a mock to wait. -/
def delay (head : RequestHead) : Option Nat :=
  (head.headers.firstText? delayName).bind fun s => Text.natUpTo? (UInt64.size - 1) s.toList

def mock (name : String) (replies : List Reply) : Transport where
  name := name
  readsBody := true
  delay := delay
  respond := fun j head _ =>
    answer replies "mock script exhausted" (j.served name) head.url

def closure (name : String) (replies : List Reply) : Transport where
  name := name
  readsBody := false
  delay := fun _ => none
  respond := fun j head _ =>
    answer replies "closure script exhausted" (j.served name) head.url

/-- The bytes with which an echo answers: a cookie named by the path, and the method and url. -/
def echoed (head : RequestHead) : Bytes :=
  let path := String.ofList (head.url.path.toList.dropWhile (· == '/'))
  Text.utf8 ("HTTP/1.1 200 OK\r\nSet-Cookie: " ++ path ++ "=1\r\n\r\n" ++ head.method.text ++ " "
    ++ head.url.text)

/-- A mock that repeats what it was asked. -/
def echo (name : String) : Transport where
  name := name
  readsBody := true
  delay := delay
  respond := fun _ head _ => Response.ofBytes (echoed head) head.url

/-- A mock in a description, having answered so many requests. -/
def describeMock (seen : Nat) : String := Text.record "MockTransport" [("seen", toString seen)]

def connector {T : Type} (outcome : Except Error T) : Connector T := fun _ _ => outcome

def counter : Connector String := fun calls _ => .ok (s!"proxy{calls.length + 1}")

end HttpClient.Script
