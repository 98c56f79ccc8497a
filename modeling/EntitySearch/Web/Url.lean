import EntitySearch.Web.Host

/-!
# Web addresses

An address has a scheme, mostly an authority that names a host, and a path, which a query and a
fragment may follow. A few special schemes have rules of their own: an address has a host, slashes
may lean either way, and the usual number of a service is left out. The path of a file may begin
with the letter of a drive, and then no host counts.

* `User`, `Authority`, `Url`: an address and its parts.
* `Url.parse?`: reads an address.
* `Url.text`: how it is written.
* `Url.withoutUser`: an address without the user's name and password.
* `Url.isWeb`: whether messages can be sent to it.
-/

namespace EntitySearch

/-- The name and the password of a user, both encoded. -/
structure User where
  name : List Char
  /-- A password may be missing, but it is not empty. -/
  password : Option (List Char)
deriving DecidableEq

/-- The part of an address that names a host. -/
structure Authority where
  user : Option User := none
  host : Host
  /-- The number by which services of a host are told apart. -/
  service : Option Nat := none
deriving DecidableEq

/-- An address. -/
structure Url where
  scheme : String
  authority : Option Authority
  path : String
  query : Option String
  fragment : Option String
deriving DecidableEq

/-! ## Users -/

namespace User

/-- Reads what stands in front of a host. A user without a name and a password is none. -/
def ofText? (text : List Char) : Option User :=
  let name := text.takeWhile (· ≠ ':')
  let password := text.drop (name.length + 1)
  let encoded := Percent.encode Percent.inUser
  if name.isEmpty && password.isEmpty then none
  else some ⟨encoded name, if password.isEmpty then none else some (encoded password)⟩

/-- How a user is written. -/
def text (user : User) : String :=
  String.ofList user.name ++
    ((user.password.map fun password => ":" ++ String.ofList password).getD "") ++ "@"

/-- Whether encoded characters are those of a text. -/
def isReadable (encoded : List Char) : Bool := (Percent.text? (Percent.decode encoded)).isSome

/-- Whether a user can be told apart from an address: the name is a text, and if it is empty the
password is one. -/
def isSeparable (user : User) : Bool :=
  isReadable user.name && (!user.name.isEmpty || user.password.any isReadable)

end User

namespace Url

/-! ## Schemes -/

/-- The number of the service that a scheme usually means. -/
def usualService? : String → Option Nat
  | "http" | "ws" => some 80
  | "https" | "wss" => some 443
  | "ftp" => some 21
  | _ => none

/-- Whether a scheme is special. -/
def isSpecial (scheme : String) : Bool := scheme = "file" || (usualService? scheme).isSome

/-- Whether a character separates the parts of a path. -/
def isSlash (special : Bool) (c : Char) : Bool := c = '/' || (special && c = '\\')

/-- Whether a character ends an authority. -/
def endsAuthority (special : Bool) (c : Char) : Bool := isSlash special c || c = '?' || c = '#'

/-- The scheme in front of a colon, in lower case, and what follows. -/
def scheme? (text : List Char) : Option (String × List Char) :=
  let name := text.takeWhile fun c => c.isAlphanum || c = '+' || c = '-' || c = '.'
  match name, text.drop name.length with
  | first :: _, ':' :: rest =>
    if first.isAlpha then some ((String.ofList name).toLower, rest) else none
  | _, _ => none

/-! ## Authorities -/

/-- Splits a host from the number that may follow: at the first colon outside of brackets. -/
def splitHost (inside : Bool) : List Char → List Char × List Char
  | [] => ([], [])
  | c :: rest =>
    if c = ':' && !inside then ([], c :: rest)
    else
      let (host, number) := splitHost (c = '[' || (inside && c ≠ ']')) rest
      (c :: host, number)

/-- Reads the number of a service behind a colon, of which there may be no digit, and gives what
follows it. A usual number is left out. -/
def service? (scheme : String) : List Char → Option (Option Nat × List Char)
  | [] => some (none, [])
  | _ :: text => do
    let digits := text.takeWhile Char.isDigit
    let number ← Host.numeral? 10 digits
    let rest := text.drop digits.length
    if 65535 < number ∨ rest.head?.any (· ≠ '\\') then none
    else if digits = [] ∨ usualService? scheme = some number then some (none, rest)
    else some (some number, rest)

/-- What stands in front of the last at sign of a text, if there is one, and what stands behind. -/
def splitUser (text : List Char) : Option (List Char) × List Char :=
  let host := (text.reverse.takeWhile (· ≠ '@')).reverse
  if text.contains '@' then (some (text.take (text.length - host.length - 1)), host)
  else (none, host)

/-- Reads an authority, and gives what follows its number. -/
def authority? (scheme : String) (text : List Char) : Option (Authority × List Char) := do
  let (user, text) := splitUser text
  let (host, number) := splitHost false text
  let user? := user.bind User.ofText?
  let missing := isSpecial scheme || !number.isEmpty || user = some [] || user?.isSome
  if host.isEmpty && missing then none
  let host ←
    if isSpecial scheme then Host.ofText? (String.ofList host)
    else Host.ofOpaque? (String.ofList host)
  let (service, rest) ← service? scheme number
  return (⟨user?, host, service⟩, rest)

/-! ## Paths -/

/-- The parts of a path between its slashes. -/
def segments (special : Bool) : List Char → List (List Char)
  | [] => [[]]
  | c :: rest =>
    if isSlash special c then [] :: segments special rest
    else
      match segments special rest with
      | segment :: others => (c :: segment) :: others
      | [] => [[c]]

/-- Whether a part of a path stands for the place itself. -/
def isHere (segment : List Char) : Bool :=
  [".", "%2e"].contains (String.ofList segment).toLower

/-- Whether a part of a path stands for the place above. -/
def isAbove (segment : List Char) : Bool :=
  ["..", ".%2e", "%2e.", "%2e%2e"].contains (String.ofList segment).toLower

/-- Whether a part of a path is the letter of a drive. -/
def isDrive : List Char → Bool
  | [letter, mark] => letter.isAlpha && (mark = ':' || mark = '|')
  | _ => false

/-- The place above a place, whose parts are given from the last one. There is nothing above a
drive. -/
def above : List (List Char) → List (List Char)
  | [] => []
  | segment :: place => if isDrive segment then segment :: place else place

/-- Follows the parts of a path from a place, whose parts are given from the last one. A path that
ends at a place itself ends with a slash. -/
def follow (place : List (List Char)) : List (List Char) → List (List Char)
  | [] => place
  | segment :: rest =>
    let place := if isAbove segment then above place else place
    if isAbove segment || isHere segment then
      if rest.isEmpty then [] :: place else follow place rest
    else follow (Percent.encode Percent.inPath segment :: place) rest

/-- The written form of a place. -/
def placeText (place : List (List Char)) : String :=
  String.join (place.reverse.map fun segment => "/" ++ String.ofList segment)

/-- The parts of a path behind its first slash, which it may lack. -/
def rootedSegments (special : Bool) : List Char → List (List Char)
  | [] => [[]]
  | c :: rest => segments special (if isSlash special c then rest else c :: rest)

/-- The written form of a path behind an authority. -/
def pathBehind (special : Bool) (path : List Char) : String :=
  if path.isEmpty && !special then ""
  else placeText (follow [] (rootedSegments special path))

/-- An address whose scheme, authority and path are known, and what follows the path. -/
def ofParts (scheme : String) (authority : Option Authority) (path : String) (rest : List Char) :
    Url :=
  let query := (rest.takeWhile (· ≠ '#')).dropWhile (· ≠ '?')
  let fragment := rest.dropWhile (· ≠ '#')
  let encoded (set : Char → Bool) : List Char → Option String
    | [] => none
    | _ :: text => some (String.ofList (Percent.encode set text))
  { scheme, authority, path, query := encoded (Percent.inQuery (isSpecial scheme)) query,
    fragment := encoded Percent.inFragment fragment }

/-- Splits a text where a path ends. -/
def splitPath (text : List Char) : List Char × List Char :=
  text.span fun c => c ≠ '?' && c ≠ '#'

/-! ## Files -/

/-- The parts of the path of a file. A drive at its beginning is written with a colon. -/
def fileSegments (path : List Char) : List (List Char) :=
  match rootedSegments true path with
  | [letter, mark] :: rest =>
    if isDrive [letter, mark] then [letter, ':'] :: rest else [letter, mark] :: rest
  | segments => segments

/-- The written form of the path of a file, without more slashes at its beginning than one. -/
def filePath (path : List Char) : String :=
  let place := (follow [] (fileSegments path)).reverse
  match place.dropWhile (·.isEmpty) with
  | [] => "/"
  | segments => placeText segments.reverse

/-- The address of a file on a host, and what follows its path. -/
def file (host : Host) (text : List Char) : Url :=
  let (path, rest) := splitPath text
  let onDrive := (rootedSegments true path).head?.any isDrive
  ofParts "file" (some ⟨none, if onDrive then .name "" else host, none⟩) (filePath path) rest

/-- The host of a file. There is none if it is missing, or is the host of the reader. -/
def fileHost? (text : List Char) : Option Host :=
  if text.isEmpty then some (.name "")
  else (Host.ofText? (String.ofList text)).map fun host =>
    if host = .name "localhost" then .name "" else host

/-- Reads what follows the scheme of a file, which may have no host. -/
def file? : List Char → Option Url
  | first :: second :: rest =>
    if isSlash true first && isSlash true second then
      let host := rest.takeWhile fun c => !endsAuthority true c
      if isDrive host then some (file (.name "") rest)
      else (fileHost? host).map fun name => file name (rest.drop host.length)
    else some (file (.name "") (first :: second :: rest))
  | rest => some (file (.name "") rest)

/-! ## Whole addresses -/

/-- Reads what follows two slashes behind a scheme. -/
def behindSlashes? (scheme : String) (text : List Char) : Option Url := do
  let special := isSpecial scheme
  let (front, rest) := text.span fun c => !endsAuthority special c
  let (authority, front) ← authority? scheme front
  let (path, rest) := splitPath (front ++ rest)
  return ofParts scheme (some authority) (pathBehind special path) rest

/-- Reads what follows a scheme that is not special. -/
def general? (scheme : String) : List Char → Option Url
  | '/' :: '/' :: rest => behindSlashes? scheme rest
  | text =>
    let (path, rest) := splitPath text
    let path :=
      if path.head? = some '/' then pathBehind false path
      else String.ofList (Percent.encode Percent.everywhere path)
    some (ofParts scheme none path rest)

/-- Whether a character has no meaning at the ends of an address. -/
def isMargin (c : Char) : Bool := c.toNat ≤ 32

/-- The characters of an address that have a meaning. -/
def meaningful (text : String) : List Char :=
  let text := (text.toList.dropWhile isMargin).reverse.dropWhile isMargin
  text.reverse.filter fun c => c ≠ '\t' && c ≠ '\n' && c ≠ '\r'

/-- Reads an address. -/
def parse? (text : String) : Option Url := do
  let (scheme, rest) ← scheme? (meaningful text)
  if scheme = "file" then file? rest
  else if isSpecial scheme then behindSlashes? scheme (rest.dropWhile (isSlash true))
  else general? scheme rest

/-- How an authority is written. -/
def authorityText (authority : Authority) : String :=
  "//" ++ (authority.user.map User.text).getD "" ++ authority.host.text ++
    (authority.service.map fun number => ":" ++ toString number).getD ""

/-- How an address is written. A point keeps a path from being read as an authority. -/
def text (url : Url) : String :=
  let authority :=
    match url.authority with
    | some authority => authorityText authority
    | none => if "//".toList.isPrefixOf url.path.toList then "/." else ""
  url.scheme ++ ":" ++ authority ++ url.path ++ (url.query.map ("?" ++ ·)).getD "" ++
    (url.fragment.map ("#" ++ ·)).getD ""

/-- An address without the user's name and password, if they can be told apart from it. -/
def withoutUser (url : Url) : Url :=
  { url with
    authority := url.authority.map fun authority =>
      { authority with user := authority.user.filter (!·.isSeparable) } }

/-- The longest address to which messages can be sent. -/
def longestWeb : Nat := 65534

/-- Whether messages can be sent to an address. -/
def isWeb (url : Url) : Bool :=
  (url.scheme = "http" || url.scheme = "https") && url.text.utf8ByteSize ≤ longestWeb &&
    url.authority.all fun authority =>
      !authority.host.text.any fun c => ['\x22', '\x60', '\x7b', '\x7d'].contains c

end Url

end EntitySearch
