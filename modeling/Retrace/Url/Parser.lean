import Retrace.Url.Basic
import Retrace.Url.Domain
/-!
# Reading URLs

A reference is read by itself, when it has a scheme, or relative to the URL of the place where it
stands.  Blanks and control characters around a reference, and tabs and line ends within it, do not
belong to it.

Schemes fall into three kinds: those of the web, which need a host and for which a backslash is as
good as a slash; `file`, whose paths may start with a drive letter; and all others.
-/

namespace Retrace

namespace Url

/-! ### Characters -/

/-- The characters that a fragment may have as they are. -/
def plainInFragment (c : Char) : Bool :=
  0x20 < c.toNat && c.toNat < 0x7F && !("\x22<>".toList.contains c) && c ≠ '\x60'

/-- The characters that a segment of a path may have as they are. -/
def plainInPath (c : Char) : Bool :=
  plainInFragment c && !(['#', '?', '\x7b', '\x7d'].contains c)

/-- The characters that a user's name may have as they are. -/
def plainInUser (c : Char) : Bool :=
  plainInPath c && !("/:;=@[\\]^|".toList.contains c)

/-- The characters that a query may have as they are. -/
def plainInQuery (kind : Kind) (c : Char) : Bool :=
  0x20 < c.toNat && c.toNat < 0x7F && !("\x22#<>".toList.contains c) &&
    !(kind.isSpecial && c = '\x27')

/-- The characters that a flat path and the host of an unknown scheme may have as they are. -/
def plainInFlat (c : Char) : Bool :=
  0x20 ≤ c.toNat && c.toNat < 0x7F

/-- Whether a character ends the path. -/
def endsPath (c : Char) : Bool :=
  c = '?' || c = '#'

/-- Whether a character separates the segments of a path. -/
def isSlash (kind : Kind) (c : Char) : Bool :=
  c = '/' || (kind.isSpecial && c = '\\')

/-- Whether a character is a slash or a backslash. -/
def isEitherSlash (c : Char) : Bool :=
  c = '/' || c = '\\'

/-- A reference without what does not belong to it. -/
def strip (reference : List Char) : List Char :=
  let outer (c : Char) : Bool := c.toNat ≤ 0x20
  let inner := (((reference.dropWhile outer).reverse).dropWhile outer).reverse
  inner.filter fun c => c ≠ '\t' && c ≠ '\n' && c ≠ '\r'

/-! ### Schemes -/

/-- The rest of a scheme, in lower case, and what follows its colon. -/
def schemeRest? : List Char → Option (List Char × List Char)
  | [] => none
  | c :: rest =>
    if c = ':' then some ([], rest)
    else if c.isAlphanum || c = '+' || c = '-' || c = '.' then
      (schemeRest? rest).map fun p => (c.toLower :: p.1, p.2)
    else none

/-- The scheme at the front of a reference, in lower case, and what follows its colon. -/
def scheme? (reference : List Char) : Option (List Char × List Char) :=
  match reference with
  | c :: _ => if c.isAlpha then schemeRest? reference else none
  | [] => none

/-! ### Drive letters -/

/-- Whether a segment is a drive letter, with a colon or a bar. -/
def isDrive : List Char → Bool
  | [c, mark] => c.isAlpha && (mark = ':' || mark = '|')
  | _ => false

/-- Whether a segment is a drive letter with a colon. -/
def isNormalDrive : List Char → Bool
  | [c, mark] => c.isAlpha && mark = ':'
  | _ => false

/-- Whether a reference starts with a segment that is a drive letter. -/
def startsWithDrive (reference : List Char) : Bool :=
  match reference with
  | c :: mark :: rest =>
    isDrive [c, mark] &&
      match rest with
      | [] => true
      | next :: _ => isEitherSlash next || endsPath next
  | _ => false

/-! ### Paths -/

/-- Whether a segment stands for the one above. -/
def isParent (segment : List Char) : Bool :=
  let text := segment.map Char.toLower
  text = "..".toList || text = ".%2e".toList || text = "%2e.".toList || text = "%2e%2e".toList

/-- Whether a segment stands for the place where it is. -/
def isCurrent (segment : List Char) : Bool :=
  let text := segment.map Char.toLower
  text = ".".toList || text = "%2e".toList

/-- The segments without the deepest one, which comes first and stays when it names a drive. -/
def dropSegment : List (List Char) → List (List Char)
  | [] => []
  | deepest :: above => if startsWithDrive deepest then deepest :: above else above

/-- The segments with an empty one below them where a slash that ends the path has to follow. -/
def closed (last : Bool) (above : List (List Char)) : List (List Char) :=
  if last then [] :: above else above

/-- Puts a segment below others, the deepest of which comes first.  The segment is written straight
after `lead`, and `last` says that no slash follows it.  A drive letter on top of the path of a file
gets its colon. -/
def addSegment (kind : Kind) (above : List (List Char)) (lead segment : List Char) (last : Bool) :
    List (List Char) :=
  if isParent segment then
    if lead.isEmpty then closed last (dropSegment above) else lead :: above
  else if isCurrent segment then
    closed last (if lead.isEmpty then above else lead :: above)
  else if kind = .file && above.isEmpty && isDrive segment then [segment.take 1 ++ [':']]
  else (lead ++ segment) :: above

/-- Puts the segments of a text below others, where `segment` is the part of the current one that
was read, the last character first. -/
def addSegments (kind : Kind) (above : List (List Char)) (lead segment : List Char) :
    List Char → List (List Char)
  | [] => addSegment kind above lead (Percent.encodeText plainInPath segment.reverse) true
  | c :: rest =>
    if isSlash kind c then
      addSegments kind
        (addSegment kind above lead (Percent.encodeText plainInPath segment.reverse) false) [] []
        rest
    else addSegments kind above lead (c :: segment) rest

/-- The segments of a text up to a query or fragment, from the root on, and what follows them.  The
first of them is written straight after `lead`, below the segments in `above`, of which the deepest
comes first. -/
def readSegments (kind : Kind) (above : List (List Char)) (lead text : List Char) :
    List (List Char) × List Char :=
  ((addSegments kind above lead [] (text.takeWhile fun c => !endsPath c)).reverse,
    text.dropWhile fun c => !endsPath c)

/-- The segments of a file's path without empty ones at the front. -/
def dropEmptyFront (segments : List (List Char)) : List (List Char) :=
  match segments.dropWhile List.isEmpty with
  | [] => [[]]
  | rest => rest

/-- The path of a text below the segments in `above`, of which the deepest comes first, and what
follows it. -/
def readPath (kind : Kind) (above : List (List Char)) (text : List Char) :
    List (List Char) × List Char :=
  readSegments kind above [] text

/-- The path of a file, written straight after `lead`, and what follows it. -/
def readFilePath (above : List (List Char)) (lead text : List Char) :
    List (List Char) × List Char :=
  let (segments, rest) := readSegments .file above lead text
  (dropEmptyFront segments, rest)

/-! ### Queries and fragments -/

/-- The fragment of a text that is empty or starts with its mark. -/
def readFragment (text : List Char) : Option (List Char) :=
  match text with
  | [] => none
  | _ :: rest => some (Percent.encodeText plainInFragment rest)

/-- The query and the fragment of a text that is empty or starts with the mark of either. -/
def readQuery (kind : Kind) (text : List Char) : Option (List Char) × Option (List Char) :=
  match text with
  | '?' :: rest =>
    (some (Percent.encodeText (plainInQuery kind) (rest.takeWhile (· ≠ '#'))),
      readFragment (rest.dropWhile (· ≠ '#')))
  | _ => (none, readFragment text)

/-- A URL whose query and fragment are still to be read. -/
def finish (scheme : List Char) (authority : Option Authority) (path : Path) (text : List Char) :
    Url :=
  let (query, fragment) := readQuery (Kind.ofScheme scheme) text
  ⟨scheme, authority, path, query, fragment⟩

/-! ### Hosts -/

/-- A host that is written in brackets. -/
def bracketedHost? (text : List Char) : Except Error Host :=
  match text.getLast? with
  | some ']' =>
    match Address.ipv6? (text.drop 1).dropLast with
    | some pieces => .ok (.ipv6 pieces)
    | none => .error .invalidIpv6
  | _ => .error .invalidIpv6

/-- A host of the web: percent-decoded, in ASCII, and an address if it ends in a number. -/
def webHost? (text : List Char) : Except Error Host :=
  if text.head? = some '[' then bracketedHost? text
  else
    match Utf8.decode? (Percent.decode (Utf8.encode text)) with
    | .error _ => .error .invalidDomainName
    | .ok name =>
      match Domain.toAscii? name with
      | none => .error .invalidDomainName
      | some name =>
        if name.isEmpty then .error .emptyHost
        else if Address.endsInNumber name then
          match Address.ipv4? name with
          | some address => .ok (.ipv4 address)
          | none => .error .invalidIpv4
        else .ok (.domain name)

/-- A host of an unknown scheme, which is kept as it is. -/
def otherHost? (text : List Char) : Except Error Host :=
  if text.head? = some '[' then bracketedHost? text
  else if text.any fun c => c = '\x00' || " #/:<>?@[\\]^|".toList.contains c then
    .error .invalidHostCharacter
  else .ok (.domain (Percent.encodeText plainInFlat text))

/-- The text of a host at the front and what follows it; a colon in brackets belongs to it. -/
def spanHost (kind : Kind) (bracketed : Bool) : List Char → List Char × List Char
  | [] => ([], [])
  | c :: rest =>
    if (c = ':' && !bracketed) || isSlash kind c || endsPath c then ([], c :: rest)
    else
      let (host, after) := spanHost kind (c = '[' || (bracketed && c ≠ ']')) rest
      (c :: host, after)

/-- Reads the digits of a port, up to the path. -/
def readPort (value : Nat) : List Char → Except Error (Nat × List Char)
  | [] => .ok (value, [])
  | c :: rest =>
    if '0' ≤ c && c ≤ '9' then
      let next := value * 10 + (c.toNat - 48)
      if next ≤ 65535 then readPort next rest else .error .invalidPort
    else if isEitherSlash c || endsPath c then .ok (value, c :: rest)
    else .error .invalidPort

/-- Reads a port after its colon.  Without digits there is none, and the port that goes with the
scheme is left out. -/
def port? (scheme : List Char) (text : List Char) : Except Error (Option Nat × List Char) :=
  match readPort 0 text with
  | .error e => .error e
  | .ok (value, rest) =>
    if rest.length = text.length || defaultPort scheme = some value then .ok (none, rest)
    else .ok (some value, rest)

/-- Reads a host and a port. -/
def hostAndPort? (scheme : List Char) (text : List Char) :
    Except Error (Host × Option Nat × List Char) := do
  let kind := Kind.ofScheme scheme
  let (name, rest) := spanHost kind false text
  if kind = .web && name.isEmpty then throw .emptyHost
  let host ← if kind.isSpecial then webHost? name else otherHost? name
  match rest with
  | ':' :: digits =>
    if name.isEmpty then throw .emptyHost
    let (port, rest) ← port? scheme digits
    return (host, port, rest)
  | _ => return (host, none, rest)

/-! ### Authorities -/

/-- The part of a text before the path. -/
def beforePath (kind : Kind) (text : List Char) : List Char :=
  text.takeWhile fun c => !(c = '/' || (kind.isSpecial && c = '\\') || endsPath c)

/-- The user's name and password at the front, up to the last `@` before the path, and what follows
them. -/
def user? (kind : Kind) (text : List Char) :
    Except Error ((List Char × List Char) × List Char) :=
  let front := beforePath kind text
  if front.contains '@' then
    let host := (front.reverse.takeWhile (· ≠ '@')).reverse
    let info := front.take (front.length - host.length - 1)
    let rest := text.drop (info.length + 1)
    if info.isEmpty then
      match rest with
      | c :: _ => if isSlash kind c || endsPath c then .error .emptyHost else .ok (([], []), rest)
      | [] => .ok (([], []), rest)
    else
      let encode := Percent.encodeText plainInUser
      .ok ((encode (info.takeWhile (· ≠ ':')), encode ((info.dropWhile (· ≠ ':')).drop 1)), rest)
  else .ok (([], []), text)

/-- The path after an authority.  A URL of the web always has one. -/
def pathAfterAuthority (kind : Kind) (text : List Char) : List (List Char) × List Char :=
  match text with
  | [] => if kind.isSpecial then ([[]], []) else ([], [])
  | c :: rest =>
    if isSlash kind c then readPath kind [] rest
    else if endsPath c then (if kind.isSpecial then [[]] else [], text)
    else readPath kind [] text

/-- Reads what follows two slashes. -/
def afterSlashes? (scheme : List Char) (text : List Char) : Except Error Url := do
  let kind := Kind.ofScheme scheme
  let ((username, password), rest) ← user? kind text
  let (host, port, rest) ← hostAndPort? scheme rest
  if host = .domain [] && !(username.isEmpty && password.isEmpty) then throw .emptyHost
  let (segments, rest) := pathAfterAuthority kind rest
  return finish scheme (some ⟨username, password, host, port⟩) (.segments segments) rest

/-! ### Files -/

/-- The scheme of files. -/
def fileScheme : List Char := "file".toList

/-- The host of a file that names none. -/
def noHost : Authority := .ofHost (.domain [])

/-- Whether a path starts with a drive letter and a colon. -/
def hasDrive (segments : List (List Char)) : Bool :=
  (segments.head?.map isNormalDrive).getD false

/-- A text without a slash at its front. -/
def afterSlash : List Char → List Char
  | [] => []
  | c :: rest => if isEitherSlash c then rest else c :: rest

/-- Reads the path of a file after the name of its host.  A drive letter on top of the path takes
the place of the host. -/
def fileOnHost (host : Host) (text : List Char) : Url :=
  let (segments, rest) := readSegments .file [] [] (afterSlash text)
  let host := if hasDrive segments then .domain [] else host
  finish fileScheme (some (.ofHost host)) (.segments (dropEmptyFront segments)) rest

/-- A URL of a file without anything that it is relative to, from a path below the segments in
`above`. -/
def freshFile (above : List (List Char)) (text : List Char) : Url :=
  let (segments, rest) := readFilePath above [] text
  finish fileScheme (some noHost) (.segments segments) rest

/-- Reads what follows two slashes in the URL of a file.  A drive letter there is no host but the
top of the path.  After an empty host it is not: an empty segment stands on top of the path until
all of it is read. -/
def fileAfterSlashes? (text : List Char) : Except Error Url := do
  let name := text.takeWhile fun c => !(isEitherSlash c || endsPath c)
  let rest := text.drop name.length
  if isDrive name then return freshFile [] text
  else if name.isEmpty then return freshFile [[]] (afterSlash rest)
  else
    let host ← webHost? name
    if host = .domain "localhost".toList then return freshFile [[]] (afterSlash rest)
    else return fileOnHost host rest

/-- Reads a path from the root of a file's URL: the drive or the host of the base stays. -/
def fileFromRoot (base : Option Url) (after : List Char) : Url :=
  match base with
  | none => freshFile [] after
  | some base =>
    if startsWithDrive after then freshFile [] after
    else if hasDrive base.pathSegments then freshFile (base.pathSegments.take 1) after
    else
      let (segments, rest) := readFilePath [] [] after
      finish fileScheme (some (base.authority.getD noHost)) (.segments segments) rest

/-- The segments that a reference to another file goes on below, the deepest first, and what its
first segment is written straight after.  The last segment of the base goes, if it is no drive
letter; below the root, nothing separates a drive letter from what follows it. -/
def besideFile (base : Url) : List (List Char) × List Char :=
  match base.pathSegments.reverse with
  | [] => ([], [])
  | last :: above =>
    if !isNormalDrive last then (above, [])
    else if above.isEmpty then ([last], [])
    else (above, last)

/-- A URL of a file from a text that is not empty and starts with no slash. -/
def fileBeside (base : Option Url) (text : List Char) : Url :=
  match base with
  | none => freshFile [] text
  | some base =>
    if text.head? = some '?' then finish base.scheme base.authority base.path text
    else if text.head? = some '#' then { base with fragment := readFragment text }
    else if startsWithDrive text then freshFile [] text
    else
      let (above, lead) := besideFile base
      let (segments, rest) := readFilePath above lead text
      finish base.scheme base.authority (.segments segments) rest

/-- Reads the URL of a file after its scheme, or a reference relative to one. -/
def file? (base : Option Url) (text : List Char) : Except Error Url :=
  match text with
  | [] =>
    match base with
    | some base => .ok { base with fragment := none }
    | none => .ok (freshFile [] [])
  | a :: rest =>
    if !isEitherSlash a then .ok (fileBeside base text)
    else
      match rest with
      | b :: more =>
        if isEitherSlash b then fileAfterSlashes? more else .ok (fileFromRoot base rest)
      | [] => .ok (fileFromRoot base [])

/-! ### References -/

/-- Reads a reference that is relative to a URL with a path. -/
def relative? (base : Url) (text : List Char) : Except Error Url :=
  let kind := Kind.ofScheme base.scheme
  match text with
  | [] => .ok { base with fragment := none }
  | c :: rest =>
    if c = '?' then .ok (finish base.scheme base.authority base.path text)
    else if c = '#' then .ok { base with fragment := readFragment text }
    else if isEitherSlash c then
      let slashes := (text.takeWhile isEitherSlash).length
      if 2 ≤ slashes then
        match Text.after? ['/', '/'] text with
        | some after => afterSlashes? base.scheme after
        | none => afterSlashes? base.scheme (text.drop slashes)
      else
        let (segments, rest) := readPath kind [] rest
        .ok (finish base.scheme base.authority (.segments segments) rest)
    else
      let (segments, rest) := readPath kind (base.pathSegments.reverse.drop 1) text
      .ok (finish base.scheme base.authority (.segments segments) rest)

/-- Reads a URL of an unknown scheme after its colon. -/
def other? (scheme : List Char) (text : List Char) : Except Error Url :=
  match text with
  | '/' :: '/' :: rest => afterSlashes? scheme rest
  | '/' :: rest =>
    let (segments, rest) := readPath .other [] rest
    .ok (finish scheme none (.segments segments) rest)
  | _ =>
    let flat := Percent.encodeText plainInFlat (text.takeWhile fun c => !endsPath c)
    .ok (finish scheme none (.flat flat) (text.dropWhile fun c => !endsPath c))

/-- Reads a URL after its scheme. -/
def afterScheme? (base : Option Url) (scheme text : List Char) : Except Error Url :=
  match Kind.ofScheme scheme with
  | .file => file? (base.filter fun b => b.scheme = fileScheme) text
  | .other => other? scheme text
  | .web =>
    let slashes := (text.takeWhile isEitherSlash).length
    match base with
    | some base =>
      if slashes < 2 && base.scheme = scheme then relative? base text
      else afterSlashes? scheme (text.drop slashes)
    | none => afterSlashes? scheme (text.drop slashes)

/-- The URL that a reference stands for, seen from a base if there is one. -/
def read? (base : Option Url) (reference : List Char) : Except Error Url :=
  let text := strip reference
  match scheme? text with
  | some (scheme, rest) => afterScheme? base scheme rest
  | none =>
    match base with
    | none => .error .noBase
    | some base =>
      if text.head? = some '#' then .ok { base with fragment := readFragment text }
      else if base.isFlat then .error .flatBase
      else if Kind.ofScheme base.scheme = .file then file? (some base) text
      else relative? base text

/-- The URL that a text writes. -/
def parse? (text : List Char) : Except Error Url :=
  read? none text

/-- The URL that a reference stands for, seen from another URL. -/
def join? (base : Url) (reference : List Char) : Except Error Url :=
  read? (some base) reference

end Url

end Retrace
