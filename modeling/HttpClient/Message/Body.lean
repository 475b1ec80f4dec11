/-
# Bodies

A body is absent, held in memory, or produced once.  A producer is the list of
what it still has to give: chunks, at most one failure that matters (nothing is
taken behind it), and, where it produces asynchronously, pauses in which it has
nothing ready yet.  When its end or its failure has been reported, or when it is
given up, it is drained, and a drained producer answers every read with the same
failure.  `Producer` has no other states: a drained producer has nothing left to
give, and one that is not drained has reported neither end nor failure.

Reading an asynchronous producer by blocking is refused and leaves it as it is.
All other reads of bodies are the same in both modes.
-/
import HttpClient.Error

namespace HttpClient

/-- Whether a caller blocks or awaits. -/
inductive Mode where
  | blocking
  | async
deriving DecidableEq, Repr

/-- One thing that a producer does. -/
inductive ProducerItem where
  /-- It gives some bytes, perhaps none. -/
  | chunk (bytes : Bytes)
  /-- It fails. -/
  | failure (detail : String)
  /-- It has nothing ready yet. -/
  | pause
deriving DecidableEq, Repr

/-- A one-shot source of bytes. -/
inductive Producer where
  /-- It still does these things, and then it ends. -/
  | live (rest : List ProducerItem)
  /-- It has ended, failed, or been given up. -/
  | drained
deriving DecidableEq, Repr

namespace Producer

/-- The producer has nothing left to give. -/
def isDrained : Producer → Bool
  | .live _ => false
  | .drained => true

/-- The producer given up, whatever it still had. -/
def release (_ : Producer) : Producer := .drained

/-- The next chunk of a producer with so much left, waiting through its pauses: `none` at the end. -/
def nextOf : List ProducerItem → Except Error (Option Bytes) × Producer
  | [] => (.ok none, .drained)
  | .chunk b :: rest => (.ok (some b), .live rest)
  | .failure d :: _ => (.error (.read d), .drained)
  | .pause :: rest => nextOf rest

/-- The next chunk, waiting through pauses: `none` at the end. -/
def next : Producer → Except Error (Option Bytes) × Producer
  | .drained => (.error .streamConsumed, .drained)
  | .live rest => nextOf rest

/-- All bytes that a producer with so much left still gives, unless it fails first. -/
def bytesOf : List ProducerItem → Except Error Bytes
  | [] => .ok []
  | .chunk b :: rest => (bytesOf rest).map (b ++ ·)
  | .failure d :: _ => .error (.read d)
  | .pause :: rest => bytesOf rest

/-- All bytes that the producer still gives. It is drained afterwards, also if it fails. -/
def readAll : Producer → Except Error Bytes × Producer
  | .drained => (.error .streamConsumed, .drained)
  | .live rest => (bytesOf rest, .drained)

/-- The pauses before the end or the failure of a producer with so much left. -/
def pausesOf : List ProducerItem → Nat
  | [] => 0
  | .chunk _ :: rest => pausesOf rest
  | .failure _ :: _ => 0
  | .pause :: rest => pausesOf rest + 1

/-- How often a read to the end has to wait. -/
def pauses : Producer → Nat
  | .drained => 0
  | .live rest => pausesOf rest

end Producer

inductive Body where
  /-- There is none. -/
  | empty
  /-- The bytes are in memory and can be sent again. -/
  | full (bytes : Bytes)
  /-- A one-shot source that is read by blocking. -/
  | stream (source : Producer)
  /-- A one-shot source that is awaited. -/
  | asyncStream (source : Producer)
deriving DecidableEq, Repr

namespace Body

instance : Inhabited Body := ⟨empty⟩

/-- The body with these bytes: no bytes are no body. -/
def ofBytes (bytes : Bytes) : Body := if bytes = [] then .empty else .full bytes

/-- There are no bytes to send. -/
def isEmpty : Body → Bool
  | .empty => true
  | .full b => b.isEmpty
  | _ => false

/-- The body is a one-shot source. -/
def isStream : Body → Bool
  | .stream _ | .asyncStream _ => true
  | _ => false

/-- The source of a one-shot body. -/
def source? : Body → Option Producer
  | .stream p | .asyncStream p => some p
  | _ => none

/-- The body is a one-shot source with nothing left to give. -/
def isConsumed (b : Body) : Bool := b.source?.any (·.isDrained)

def bytes? : Body → Option Bytes
  | .empty => some []
  | .full b => some b
  | _ => none

/-- The body with another state of its source. -/
def withSource : Body → Producer → Body
  | .stream _, p => .stream p
  | .asyncStream _, p => .asyncStream p
  | b, _ => b

/-- All bytes of the body, and the body as it is left. -/
def readAll (mode : Mode) : Body → Except Error Bytes × Body
  | .empty => (.ok [], .empty)
  | .full b => (.ok b, .full b)
  | .stream p => (p.readAll.1, .stream p.readAll.2)
  | .asyncStream p =>
    match mode with
    | .blocking => (.error .streamMode, .asyncStream p)
    | .async => (p.readAll.1, .asyncStream p.readAll.2)

/-- The body with its source given up, if it has one. -/
def close : Body → Body
  | .stream p => .stream p.release
  | .asyncStream p => .asyncStream p.release
  | b => b

/-- The body for sending the same request again. A source is handed over as it is; one with nothing
left cannot be sent. -/
def forResend (b : Body) : Except Error Body :=
  if b.isConsumed then .error .streamConsumed else .ok b

/-- How often reading the body to its end has to wait. -/
def pauses : Body → Nat
  | .asyncStream p => p.pauses
  | _ => 0

def describe : Body → String
  | .empty => "Empty"
  | .full b => s!"Full({b.length} bytes)"
  | .stream p => s!"Stream(drained: {p.isDrained})"
  | .asyncStream p => s!"AsyncStream(drained: {p.isDrained})"

end Body

end HttpClient
