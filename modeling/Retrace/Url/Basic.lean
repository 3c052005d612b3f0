import Retrace.Url.Address
/-!
# URLs

The parts of a URL and its text.  A URL either has a path of segments, which other URLs can be
relative to, or a flat text in place of a path.
-/

namespace Retrace

namespace Url

/-- Why a text is no URL. -/
inductive Error
  | emptyHost
  | invalidDomainName
  | invalidPort
  | invalidIpv4
  | invalidIpv6
  | invalidHostCharacter
  /-- A relative reference with nothing that it is relative to. -/
  | noBase
  /-- A relative reference to a URL without a path. -/
  | flatBase
deriving Repr, DecidableEq

/-- The wording of an error. -/
def Error.message : Error → String
  | .emptyHost => "empty host"
  | .invalidDomainName => "invalid international domain name"
  | .invalidPort => "invalid port number"
  | .invalidIpv4 => "invalid IPv4 address"
  | .invalidIpv6 => "invalid IPv6 address"
  | .invalidHostCharacter => "invalid domain character"
  | .noBase => "relative URL without a base"
  | .flatBase => "relative URL with a cannot-be-a-base base"

/-- The host of a URL; an empty domain stands for none. -/
inductive Host
  | domain (name : List Char)
  | ipv4 (address : Nat)
  | ipv6 (pieces : List Nat)
deriving Repr, DecidableEq

/-- The text of a host. -/
def Host.text : Host → List Char
  | .domain name => name
  | .ipv4 address => Address.ipv4Text address
  | .ipv6 pieces => '[' :: Address.ipv6Text pieces ++ [']']

/-- Who is asked for a URL, and as whom. -/
structure Authority where
  username : List Char
  password : List Char
  host : Host
  /-- The port, unless it is the one that goes with the scheme. -/
  port : Option Nat
deriving Repr, DecidableEq

/-- A host alone. -/
def Authority.ofHost (host : Host) : Authority := ⟨[], [], host, none⟩

/-- The text of the user's name and password. -/
def Authority.userText (a : Authority) : List Char :=
  if a.username.isEmpty && a.password.isEmpty then []
  else a.username ++ (if a.password.isEmpty then [] else ':' :: a.password) ++ ['@']

/-- The text of a port. -/
def portText : Option Nat → List Char
  | none => []
  | some port => ':' :: Nat.toDigits 10 port

/-- The text of an authority. -/
def Authority.text (a : Authority) : List Char :=
  a.userText ++ a.host.text ++ portText a.port

/-- What follows the authority. -/
inductive Path
  /-- A text that nothing can be relative to. -/
  | flat (text : List Char)
  /-- Segments, each of them after a slash. -/
  | segments (list : List (List Char))
deriving Repr, DecidableEq

/-- The text of a path. -/
def Path.text : Path → List Char
  | .flat text => text
  | .segments list => list.flatMap ('/' :: ·)

/-- How the rules of a scheme differ. -/
inductive Kind
  /-- The schemes of the web, which always have a host. -/
  | web
  | file
  | other
deriving Repr, DecidableEq

/-- Whether a backslash is as good as a slash. -/
def Kind.isSpecial : Kind → Bool
  | .other => false
  | _ => true

/-- The port that goes with a scheme. -/
def defaultPort (scheme : List Char) : Option Nat :=
  if scheme = "http".toList || scheme = "ws".toList then some 80
  else if scheme = "https".toList || scheme = "wss".toList then some 443
  else if scheme = "ftp".toList then some 21
  else none

/-- The kind of a scheme. -/
def Kind.ofScheme (scheme : List Char) : Kind :=
  if scheme = "file".toList then .file
  else if (defaultPort scheme).isSome then .web
  else .other

end Url

/-- A URL. -/
structure Url where
  /-- The scheme in lower case. -/
  scheme : List Char
  authority : Option Url.Authority
  path : Url.Path
  query : Option (List Char)
  fragment : Option (List Char)
deriving Repr, DecidableEq

namespace Url

/-- A mark in front of a path that would be taken for an authority otherwise. -/
def pathGuard (u : Url) : List Char :=
  match u.authority, u.path with
  | none, .segments ([] :: _ :: _) => ['/', '.']
  | _, _ => []

/-- A part that is set off by a mark. -/
def marked (mark : Char) : Option (List Char) → List Char
  | none => []
  | some text => mark :: text

/-- The text of a URL. -/
def text (u : Url) : List Char :=
  u.scheme ++ [':'] ++ (u.authority.map fun a => '/' :: '/' :: a.text).getD [] ++ u.pathGuard ++
    u.path.text ++ marked '?' u.query ++ marked '#' u.fragment

/-- The text of a URL as a string. -/
def toString (u : Url) : String :=
  String.ofList u.text

/-- Whether nothing can be relative to a URL. -/
def isFlat (u : Url) : Bool :=
  match u.path with
  | .flat _ => true
  | .segments _ => false

/-- The segments of a path. -/
def pathSegments (u : Url) : List (List Char) :=
  match u.path with
  | .flat _ => []
  | .segments list => list

/-- Whether a URL is asked for over HTTP. -/
def isWeb (u : Url) : Bool :=
  u.scheme = "http".toList || u.scheme = "https".toList

/-- A URL without user and password. -/
def withoutUser (u : Url) : Url :=
  { u with authority := u.authority.map fun a => { a with username := [], password := [] } }

end Url

end Retrace
