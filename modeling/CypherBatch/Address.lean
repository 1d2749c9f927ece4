import CypherBatch.Address.Host
import CypherBatch.Decimal.Text
import CypherBatch.Text.Digit

/-!
# Addresses

An address names a resource of a server: a scheme, the user information, host
and port of a server, a path, a query and a fragment, most of which may be
missing.  `Address.parse` splits a text and puts each part into the form in which
it is sent; `Address.text` joins them again.

A client has a base address, whose path ends in a slash.  `Address.resolve` gives
the address of a path: a path that names a scheme and a host stands alone, any
other one is put behind the path of the base address.
-/

namespace CypherBatch

/-- Why a text is no address. -/
inductive AddressError where
  | tooLong
  /-- An ASCII control character stands in the text. -/
  | control
  | badHost
  | badPort
  | badPath
deriving DecidableEq, Repr

/-- An address, each part in the form in which it is sent. -/
structure Address where
  scheme : String
  userInfo : String
  host : String
  port : Option Int
  path : String
  query : Option String
  fragment : Option String
deriving DecidableEq

namespace Address

/-! ## Characters that stay as they are -/

/-- Is this a printable ASCII character other than the given ones? -/
def isPrintableBut (others : String) (c : Char) : Bool :=
  32 < c.toNat && c.toNat < 127 && !others.toList.contains c

def staysInFragment : Char → Bool := isPrintableBut "\"<>`"

def staysInQuery : Char → Bool := isPrintableBut "\"#<>"

def staysInPath : Char → Bool := isPrintableBut "\"#<>?`\x7b\x7d"

def staysInUserInfo : Char → Bool := isPrintableBut "\"#<>?`\x7b\x7d/;=@[\\]^|"

/-! ## Splitting -/

/-- An address in parts, as they were written. -/
structure Parts where
  scheme : List Char
  authority : List Char
  path : List Char
  query : Option (List Char)
  fragment : Option (List Char)

/-- May the name of a scheme go on with this character? -/
def isSchemeChar (c : Char) : Bool :=
  c.isAlphanum || c = '+' || c = '.' || c = '-'

/-- The scheme, which may be empty, and the text behind its colon. -/
def splitScheme (cs : List Char) : List Char × List Char :=
  if cs.head?.any fun c => c.isAlpha || c = ':' then
    match cs.dropWhile isSchemeChar with
    | ':' :: rest => (cs.takeWhile isSchemeChar, rest)
    | _ => ([], cs)
  else ([], cs)

/-- Does the authority of an address end here? -/
def endsAuthority (c : Char) : Bool :=
  c = '/' || c = '?' || c = '#'

/-- The authority behind two slashes and the text behind it. -/
def splitAuthority : List Char → List Char × List Char
  | '/' :: '/' :: rest =>
      (rest.takeWhile (!endsAuthority ·), rest.dropWhile (!endsAuthority ·))
  | cs => ([], cs)

def splitQuery (cs : List Char) : List Char × Option (List Char) :=
  match cs.dropWhile (· ≠ '?') with
  | _ :: query => (cs.takeWhile (· ≠ '?'), some query)
  | [] => (cs, none)

def split (cs : List Char) : Parts :=
  let (scheme, cs) := splitScheme cs
  let (authority, cs) := splitAuthority cs
  let (path, query) := splitQuery (cs.takeWhile (· ≠ '#'))
  let fragment :=
    match cs.dropWhile (· ≠ '#') with
    | _ :: fragment => some fragment
    | [] => none
  ⟨scheme, authority, path, query, fragment⟩

/-- The user information up to the last at sign and the text behind it. -/
def splitUserInfo (cs : List Char) : List Char × List Char :=
  if cs.contains '@' then
    ((cs.reverse.dropWhile (· ≠ '@')).drop 1 |>.reverse, (cs.reverse.takeWhile (· ≠ '@')).reverse)
  else ([], cs)

/-- The host, which brackets may enclose, and the port behind it. -/
def splitHost (cs : List Char) : List Char × List Char :=
  let host :=
    if cs.head? = some '[' && cs.contains ']' then (cs.reverse.dropWhile (· ≠ ']')).reverse
    else cs.takeWhile (· ≠ ':')
  match cs.drop host.length with
  | ':' :: port => (host, port)
  | port => (host, port)

/-! ## The form in which parts are sent -/

/-- The port that a scheme has by itself. -/
def ownPort? (scheme : List Char) : Option Int :=
  if scheme = "http".toList ∨ scheme = "ws".toList then some 80
  else if scheme = "https".toList ∨ scheme = "wss".toList then some 443
  else if scheme = "ftp".toList then some 21
  else none

/-- The port to be named: none if nothing is given or the scheme has it by itself. -/
def normalizePort (scheme port : List Char) : Except AddressError (Option Int) :=
  if port.isEmpty then .ok none
  else
    match Text.wholeNumber? (String.ofList port) with
    | none => .error .badPort
    | some n => .ok (if ownPort? scheme = some n then none else some n)

/-- Take one step of a path: a point stays, two points go back. -/
def walk (steps : List (List Char)) (step : List Char) : List (List Char) :=
  if step = ['.'] then steps
  else if step = ['.', '.'] then
    if steps = [[]] then steps else steps.dropLast
  else steps ++ [step]

/-- The path without steps of one or two points. -/
def straighten (path : List Char) : List Char :=
  List.intercalate ['/'] ((Text.splitOn ['/'] path).foldl walk [])

/-- Is the text a path, in an address with or without a scheme and a server? -/
def isPath (hasScheme hasServer : Bool) (path : List Char) : Bool :=
  if hasServer then path.isEmpty || path.head? = some '/'
  else hasScheme || !(path.take 2 = ['/', '/'] || path.head? = some ':')

/-- Put parts into the form in which they are sent. -/
def ofParts (parts : Parts) : Except AddressError Address := do
  let (userInfo, server) := splitUserInfo parts.authority
  let (host, port) := splitHost server
  let port ← normalizePort parts.scheme port
  match Host.normalize? host with
  | none => throw .badHost
  | some host =>
      let hasScheme := !parts.scheme.isEmpty
      let hasServer := !userInfo.isEmpty || !host.isEmpty || port.isSome
      if !isPath hasScheme hasServer parts.path then throw .badPath
      let path := if hasScheme || hasServer then straighten parts.path else parts.path
      let encoded (stays : Char → Bool) (cs : List Char) := String.ofList (Text.percentEncode stays cs)
      return {
        scheme := String.ofList (parts.scheme.map Char.toLower)
        userInfo := encoded staysInUserInfo userInfo
        host := String.ofList host
        port := port
        path := encoded staysInPath path
        query := parts.query.map (encoded staysInQuery)
        fragment := parts.fragment.map (encoded staysInFragment) }

/-- How many characters a text may have. -/
def longest : Nat := 65536

def parse (text : String) : Except AddressError Address :=
  let cs := text.toList
  if longest < cs.length then .error .tooLong
  else if cs.any fun c => c.toNat < 32 || c.toNat = 127 then .error .control
  else ofParts (split cs)

/-! ## Joining -/

def authority (a : Address) : String :=
  let user := if a.userInfo = "" then "" else a.userInfo ++ "@"
  let host := if a.host.toList.contains ':' then "[" ++ a.host ++ "]" else a.host
  match a.port with
  | none => user ++ host
  | some n => user ++ host ++ ":" ++ Decimal.integerText n

def text (a : Address) : String :=
  let scheme := if a.scheme = "" then "" else a.scheme ++ ":"
  let server := if a.authority = "" then "" else "//" ++ a.authority
  let query := match a.query with
    | some query => "?" ++ query
    | none => ""
  let fragment := match a.fragment with
    | some fragment => "#" ++ fragment
    | none => ""
  scheme ++ server ++ a.path ++ query ++ fragment

/-- The path and the query in one text, a missing path being a slash. -/
def target (a : Address) : String :=
  (if a.path = "" then "/" else a.path) ++ match a.query with
    | some query => "?" ++ query
    | none => ""

/-- The address with another path and query, given in one text. -/
def withTarget (a : Address) (target : String) : Except AddressError Address :=
  let (path, query) := splitQuery target.toList
  if longest < path.length ∨ longest < (query.getD []).length then .error .tooLong
  else
    ofParts ⟨a.scheme.toList, a.authority.toList, path, query, a.fragment.map String.toList⟩

/-- The base address of a client: its target ends in a slash. -/
def base (text : String) : Except AddressError Address := do
  let a ← parse text
  if a.target.toList.getLast? = some '/' then return a else a.withTarget (a.target ++ "/")

def isAbsolute (a : Address) : Bool :=
  a.scheme ≠ "" && a.host ≠ ""

def resolve (a : Address) (path : String) : Except AddressError Address := do
  let other ← parse path
  if other.isAbsolute then return other
  else a.withTarget (a.target ++ String.ofList (other.target.toList.dropWhile (· = '/')))

/-- The user name and password in an address, if either is there. -/
def credentials? (a : Address) : Option (String × String) :=
  let cs := a.userInfo.toList
  let user := Text.percentDecode (String.ofList (cs.takeWhile (· ≠ ':')))
  let password := Text.percentDecode (String.ofList ((cs.dropWhile (· ≠ ':')).drop 1))
  if user = "" && password = "" then none else some (user, password)

/-- The text of a path under a base, both given as text. -/
def joined? (baseText path : String) : Option String :=
  ((do let a ← base baseText; a.resolve path).map text).toOption

/-- A path under a base, one that stands alone, a port that goes without saying, and a bad one. -/
example :
    joined? "http://DB:80/a" "/b?c" = some "http://db/a/b?c" ∧
    joined? "http://db" "https://h:1/é" = some "https://h:1/%C3%A9" ∧
    joined? "http://u@db/a" "../x y" = some "http://u@db/x%20y" ∧
    joined? "http://db:x" "" = none := by
  decide +kernel

end Address
end CypherBatch
