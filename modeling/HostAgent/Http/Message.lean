/-!
# `HostAgent.Http.Message` — requests, responses and the network between them

A request is a method, a URL, headers and a body; a body is empty, a text with its content type,
or a multipart form. A response is a status and a body text.

The network decides what becomes of a request: an answer, no answer before the client's timeout,
or a failure with the client's reason. An unreachable network answers none: every request fails
before it is sent. A server replies to each request with the next of its replies, and with its
fallback once they are used up, and keeps every request it received.
-/

namespace HostAgent.Http

/-- One part of a multipart form. -/
structure Part where
  name : String
  fileName : Option String
  contentType : Option String
  data : ByteArray

/-- The body of a request. -/
inductive Body where
  | empty
  /-- A text and its content type. -/
  | text (contentType : String) (data : String)
  /-- A multipart form, its boundary and its parts. -/
  | multipart (boundary : String) (parts : List Part)

/-- A request. -/
structure Request where
  method : String
  url : String
  headers : List (String × String)
  body : Body

/-- A response. -/
structure Response where
  status : Nat
  body : String
  deriving Repr, DecidableEq, Inhabited

/-- What becomes of a request. -/
inductive Reply where
  /-- The server answered. -/
  | answer (response : Response)
  /-- No answer came before the client's timeout. -/
  | timeout
  /-- The request could not be sent or its connection broke, for the reason the client gives. -/
  | failure (reason : String)
  deriving Repr, DecidableEq, Inhabited

/-- Where requests go. -/
inductive Network where
  /-- Nothing can be reached. -/
  | unreachable
  /-- A server with its replies to come, its fallback reply and the requests it received. -/
  | server (replies : List Reply) (fallback : Reply) (received : Array Request)

instance : Inhabited Network := ⟨.unreachable⟩

namespace Network

/-- Send a request: what became of it, and the network afterwards. -/
def exchange (n : Network) (r : Request) : Reply × Network :=
  match n with
  | .unreachable => (.failure ("error sending request for url (" ++ r.url ++ ")"), n)
  | .server [] fallback received => (fallback, .server [] fallback (received.push r))
  | .server (next :: rest) fallback received => (next, .server rest fallback (received.push r))

/-- The requests a server received. -/
def received : Network → Array Request
  | .unreachable => #[]
  | .server _ _ rs => rs

end Network

end HostAgent.Http
