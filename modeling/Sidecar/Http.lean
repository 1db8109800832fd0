/-!
# Requests

`Uri.parse` reads the address of a resource as requests accept it: a path alone, a host alone, or
a scheme with a host and a path.  A fragment is cut off.  The reading is lenient about paths and
queries, which may hold any text from beyond ASCII, and strict about hosts.

`Request.build?` makes a request of a method, an address and headers, if each of them is well
formed.  `Exchange` is what becomes of it, `Network` what decides that.
-/

namespace Sidecar

/-- Where a resource is. -/
structure Uri where
  scheme : Option String
  /-- The host, perhaps with a user before it and a port after it. -/
  authority : Option String
  /-- The path with its query. -/
  path : String
  deriving DecidableEq, Repr, Inhabited

namespace Uri

/-- The longest text that is read, in bytes. -/
def maxLength : Nat := 65534

/-- The longest scheme. -/
def maxSchemeLength : Nat := 64

/-- Whether a character may stand in a scheme. -/
def isSchemeChar (c : Char) : Bool := c.isAlphanum || c == '+' || c == '-' || c == '.' || c == '~'

/-- Whether a character may stand in an authority. -/
def isAuthorityChar (c : Char) : Bool := c.isAlphanum || "!$&'()*+,-.:;=@[]_~".toList.contains c

/-- Whether a character ends an authority. -/
def endsAuthority (c : Char) : Bool := c == '/' || c == '?' || c == '#'

/-- Whether a character may stand in a query. -/
def isQueryChar (c : Char) : Bool :=
  0x21 ≤ c.toNat && c != '"' && c != '#' && c != '<' && c != '>'

/-- Whether a character may stand in a path. -/
def isPathChar (c : Char) : Bool :=
  0x21 ≤ c.toNat && !"#<>?\x60".toList.contains c

/-- The query up to a fragment. -/
def query? (cs : List Char) : Option (List Char) :=
  let q := cs.takeWhile (· != '#')
  if q.all isQueryChar then some q else none

/-- The path and query up to a fragment. -/
def pathAndQuery? (cs : List Char) : Option (List Char) :=
  let path := cs.takeWhile fun c => c != '?' && c != '#'
  if path.all isPathChar then
    match cs.drop path.length with
    | '?' :: q => (query? q).map fun q => path ++ '?' :: q
    | _ => some path
  else none

/-- What is remembered of an authority while it is read. -/
structure Scan where
  /-- The colons since the last at sign or closing bracket. -/
  colons : Nat
  opened : Bool
  closed : Bool
  /-- Whether there was a percent sign since then. -/
  percent : Bool
  deriving DecidableEq, Repr

/-- The most colons of an address in brackets. -/
def maxColons : Nat := 8

/-- Read one character of an authority. -/
def Scan.next? (s : Scan) (c : Char) : Option Scan :=
  if c = ':' then if s.colons < maxColons then some { s with colons := s.colons + 1 } else none
  else if c = '[' then if s.percent || s.opened then none else some { s with opened := true }
  else if c = ']' then
    if !s.opened || s.closed then none
    else some { s with closed := true, colons := 0, percent := false }
  else if c = '@' then some { s with colons := 0, percent := false }
  else if c = '%' then some { s with percent := true }
  else if isAuthorityChar c then some s
  else none

/-- Whether characters make an authority: a user perhaps with percent signs, a host perhaps in
brackets, and at most one port. -/
def isAuthority (cs : List Char) : Bool :=
  match cs.foldlM Scan.next? ⟨0, false, false, false⟩ with
  | some s => s.opened == s.closed && s.colons ≤ 1 && cs.getLast? != some '@' && !s.percent
  | none => false

/-- The scheme before `://`, and what follows; the scheme is missing when there is none. -/
def scheme? (cs : List Char) : Option (Option (List Char) × List Char) :=
  let name := cs.takeWhile isSchemeChar
  match cs.drop name.length with
  | ':' :: '/' :: '/' :: rest =>
    if cs.length ≤ 3 then some (none, cs)
    else if maxSchemeLength < name.length then none
    else some (some name, rest)
  | _ => some (none, cs)

/-- Read an address that does not begin with a slash. -/
def parseFull (cs : List Char) : Option Uri := do
  let (scheme, rest) ← scheme? cs
  let authority := rest.takeWhile fun c => !endsAuthority c
  let rest := rest.drop authority.length
  if !isAuthority authority then none
  else
    match scheme with
    | none =>
      if rest = [] then
        return { scheme := none, authority := some (String.ofList authority), path := "" }
      else none
    | some scheme =>
      if authority = [] then none
      else
        let path ← pathAndQuery? rest
        return { scheme := some (String.ofList scheme)
                 authority := some (String.ofList authority), path := String.ofList path }

/-- Read an address. -/
def parse (s : String) : Option Uri :=
  if maxLength < s.utf8ByteSize then none
  else
    match s.toList with
    | [] => none
    | ['*'] => some { scheme := none, authority := none, path := "*" }
    | '/' :: cs =>
      (pathAndQuery? ('/' :: cs)).map fun path =>
        { scheme := none, authority := none, path := String.ofList path }
    | cs => parseFull cs

end Uri

end Sidecar

namespace Sidecar.Http

/-! ### Requests -/

/-- Whether a character may stand in a token. -/
def isTokenChar (c : Char) : Bool := c.isAlphanum || "!#$%&'*+-.^_\x60|~".toList.contains c

/-- Whether a text is a token. -/
def isToken (s : String) : Bool := !s.isEmpty && s.toList.all isTokenChar

/-- The longest name of a header, in bytes. -/
def maxNameLength : Nat := 65535

/-- Whether a text can name a header. -/
def isHeaderName (s : String) : Bool := isToken s && s.utf8ByteSize ≤ maxNameLength

/-- Whether a text can be the value of a header: there are no control characters but tabs. -/
def isHeaderValue (s : String) : Bool :=
  s.toList.all fun c => (0x20 ≤ c.toNat && c.toNat != 0x7f) || c == '\t'

/-- A request without a body. -/
structure Request where
  method : String
  uri : Uri
  headers : List (String × String)
  deriving DecidableEq, Repr

/-- Make a request. -/
def Request.build? (method url : String) (headers : List (String × String)) : Option Request := do
  let uri ← Uri.parse url
  if isToken method ∧ headers.all fun (name, value) => isHeaderName name && isHeaderValue value then
    return { method, uri, headers }
  else none

/-! ### Networks -/

/-- What becomes of a request within its time limit. -/
inductive Exchange where
  /-- It cannot be delivered. -/
  | undelivered
  /-- The time limit is over before the answer is complete. -/
  | late
  /-- The answer breaks off. -/
  | brokenOff
  /-- The complete answer. -/
  | answered (status : Nat) (body : ByteArray)

/-- What a network does with requests. -/
structure Network where
  exchange : Request → Exchange

/-- A network without peers, in which nothing can be delivered. -/
def Network.isolated : Network := { exchange := fun _ => .undelivered }

end Sidecar.Http
