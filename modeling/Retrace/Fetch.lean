import Retrace.Disk
import Retrace.Dictionary
import Retrace.Frame
import Retrace.MapLocation
/-!
# Fetching

Artifacts are fetched from disk or over the network, whole or not at all.  None may be larger than a
limit, which a body that comes in chunks is held to while it is read.
-/

namespace Retrace

namespace Fetch

/-- Why something is not there. -/
inductive Absence
  | onDisk (e : Disk.Error)
  | unknown
deriving Repr, DecidableEq

/-- The wording of an absence. -/
def Absence.message : Absence → String
  | .onDisk e => e.message
  | .unknown => "no such artifact"

/-- Why an exchange over the network came to nothing. -/
inductive Trouble
  /-- A location that the network has no protocol for. -/
  | unsupportedScheme (location scheme : String)
  /-- A request that was not answered. -/
  | notSent (location url : String)
  /-- A URL that no request can be made for. -/
  | badRequest (location url : String)
  | other (text : String)
deriving Repr, DecidableEq

/-- The wording of trouble. -/
def Trouble.message : Trouble → String
  | .unsupportedScheme location scheme =>
    "Get \"" ++ location ++ "\": unsupported protocol scheme \"" ++ scheme ++ "\""
  | .notSent location url =>
    "Get \"" ++ location ++ "\": error sending request for url (" ++ url ++ ")"
  | .badRequest location url => "Get \"" ++ location ++ "\": builder error for url (" ++ url ++ ")"
  | .other text => text

/-- Why an artifact was not fetched. -/
inductive Error
  | notFound (reason : Absence)
  | badStatus (status : Nat)
  | transport (trouble : Trouble)
  | tooLarge (size limit : Nat)
deriving Repr, DecidableEq

/-- The wording of an error. -/
def Error.message : Error → String
  | .notFound reason => "error opening file: " ++ reason.message
  | .badStatus _ => "status code not OK"
  | .transport trouble => "error getting source file: " ++ trouble.message
  | .tooLarge size limit => s!"artifact is {size} bytes, exceeds limit of {limit} bytes"

/-- Whether an artifact was not there, on disk or on the network. -/
def Error.isNotFound : Error → Bool
  | .notFound _ => true
  | .badStatus status => status = 404
  | _ => false

end Fetch

/-! ### From disk -/

/-- The content of a file of at most `limit` bytes. -/
def Disk.fetch (disk : Disk) (limit : Nat) (location : String) : Except Fetch.Error Bytes :=
  match disk.size? location with
  | .error e => .error (.notFound (.onDisk e))
  | .ok size =>
    if limit < size then .error (.tooLarge size limit)
    else
      match disk.read? location with
      | .error e => .error (.notFound (.onDisk e))
      | .ok data => .ok data

/-! ### Over the network -/

/-- A reply to a request. -/
structure Reply where
  status : Nat
  /-- The length of the body, if the reply says it. -/
  contentLength : Option Nat
  /-- The body in the chunks in which it comes. -/
  chunks : List Bytes
deriving Repr, DecidableEq

namespace Reply

/-- A reply that says how long its body is. -/
def ofBody (status : Nat) (body : Bytes) : Reply := ⟨status, some body.length, [body]⟩

/-- A reply whose body comes in chunks. -/
def ofChunks (chunks : List Bytes) : Reply := ⟨200, none, chunks⟩

/-- Whether a status says that all went well. -/
def isSuccess (reply : Reply) : Bool :=
  200 ≤ reply.status && reply.status < 300

/-- Reads chunks after `held` up to the limit. -/
def readChunks (limit : Nat) : Bytes → List Bytes → Except Fetch.Error Bytes
  | held, [] => .ok held
  | held, chunk :: rest =>
    let size := held.length + chunk.length
    if limit < size then .error (.tooLarge size limit) else readChunks limit (held ++ chunk) rest

/-- The body of a reply, of at most `limit` bytes. -/
def body? (reply : Reply) (limit : Nat) : Except Fetch.Error Bytes :=
  if !reply.isSuccess then .error (.badStatus reply.status)
  else
    match reply.contentLength with
    | some size =>
      if limit < size then .error (.tooLarge size limit) else readChunks limit [] reply.chunks
    | none => readChunks limit [] reply.chunks

end Reply

/-- The replies that a network gives. -/
structure Network where
  /-- Whether requests get through. -/
  isUp : Bool
  /-- Replies by URL; for other URLs there is nothing. -/
  replies : Dictionary Reply
deriving Repr, DecidableEq

namespace Network

/-- The network that no request gets through. -/
def down : Network := ⟨false, []⟩

/-- The reply for what is not there. -/
def nothingThere : Reply := .ofBody 404 []

/-- The reply to a request for a URL, in which a fragment does not count. -/
def reply? (network : Network) (url : Url) : Option Reply :=
  if network.isUp then
    some ((network.replies.get? { url with fragment := none }.toString).getD nothingThere)
  else none

/-- The most characters of a URL that a request can be made for. -/
def urlLimit : Nat := 65534

/-- Characters that the host of a URL may have, but not that of a request. -/
def refusedInHost : List Char := ['\x22', '\x60', '\x7b', '\x7d']

/-- Whether a request can be made for a URL. -/
def canRequest (url : Url) : Bool :=
  let host := (url.authority.map fun a => a.host.text).getD []
  url.text.length ≤ urlLimit && host.all fun c => !refusedInHost.contains c

/-- Whether a percent-encoded part of a URL stands for text. -/
def isText (part : List Char) : Bool :=
  match Utf8.decode? (Percent.decode (Utf8.encode part)) with
  | .ok _ => true
  | .error _ => false

/-- The URL that a request is made for.  User and password go with the request instead; they stay
where the user, or a password without one, stands for no text. -/
def requestUrl (url : Url) : Url :=
  match url.authority with
  | none => url
  | some a =>
    if isText a.username && (!a.username.isEmpty || isText a.password) then url.withoutUser else url

/-- The URL of a location on the web. -/
def webUrl? (location : String) : Except Fetch.Error Url :=
  match Url.parse? location.toList with
  | .error _ => .error (.transport (.unsupportedScheme location ""))
  | .ok url =>
    if url.isWeb then .ok url
    else .error (.transport (.unsupportedScheme location (String.ofList url.scheme)))

/-- What a network gives for a location, of at most `limit` bytes. -/
def fetch (network : Network) (limit : Nat) (location : String) : Except Fetch.Error Bytes :=
  match webUrl? location with
  | .error e => .error e
  | .ok url =>
    let url := requestUrl url
    if !canRequest url then .error (.transport (.badRequest location url.toString))
    else
      match network.reply? url with
      | none => .error (.transport (.notSent location url.toString))
      | some reply => reply.body? limit

end Network

/-! ### The choice between them -/

/-- Where artifacts are fetched from. -/
inductive Fetcher
  | disk
  | network
deriving Repr, DecidableEq

namespace Fetcher

/-- The name of a fetcher. -/
def name : Fetcher → String
  | .disk => "disk"
  | .network => "network"

/-- The fetcher for a stack trace, which its first frame decides. -/
def select (frames : List StackFrame) : Fetcher :=
  match frames with
  | frame :: _ => if isUrl frame.fileName then .network else .disk
  | [] => .disk

end Fetcher

end Retrace
