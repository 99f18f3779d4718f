import AssignmentGrid.Http.HostName
import AssignmentGrid.Http.Path

/-!
# Addresses

The text of an address is taken apart and put into its normal form. How it is taken apart depends
on its scheme: addresses on the web always have a host, and a backslash counts as a slash in
them; an address of a file may have a host; any other address has one behind two slashes only.
-/

namespace AssignmentGrid.Http

/-- An address on a host. All parts have their normal form. -/
structure Address where
  scheme : String
  /-- A user's name and password, if they are kept. -/
  user? : Option String := none
  host : String
  port? : Option Nat
  path : String
  /-- What stands behind a question mark. -/
  query? : Option String := none
  /-- What stands behind a number sign. -/
  fragment? : Option String := none
  deriving DecidableEq, Repr

/-- What the text of an address denotes. -/
inductive Destination where
  /-- An address on a host. -/
  | host (address : Address)
  /-- An address without a host; its normal form. -/
  | hostless (text : String)
  /-- No address. -/
  | invalid
  deriving DecidableEq, Repr

/-! ## Schemes -/

/-- How an address is taken apart. -/
inductive Style where
  | web
  | file
  | other
  deriving DecidableEq, Repr

/-- The schemes of addresses on the web, and the ports that they imply. -/
def webPorts : List (String × Nat) :=
  [("http", 80), ("https", 443), ("ws", 80), ("wss", 443), ("ftp", 21)]

/-- How an address with a scheme is taken apart. -/
def styleOf (scheme : String) : Style :=
  if scheme = "file" then .file else if (webPorts.lookup scheme).isSome then .web else .other

/-- Whether a character counts as a slash. -/
def Style.isSlash (s : Style) (c : Char) : Bool := c == '/' || (c == '\\' && s != .other)

/-- Whether a character ends the host with its user and port. -/
def Style.endsHost (s : Style) (c : Char) : Bool := s.isSlash c || c == '?' || c == '#'

/-- Whether a character may stand in the name of a scheme. -/
def isSchemeChar (c : Char) : Bool := c.isAlphanum || c == '+' || c == '-' || c == '.'

/-- The scheme in front of a colon, and what follows the colon. -/
def splitScheme? (cs : List Char) : Option (String × List Char) :=
  match cs.takeWhile isSchemeChar, cs.dropWhile isSchemeChar with
  | first :: more, ':' :: rest =>
    if first.isAlpha then some ((String.ofList (first :: more)).toLower, rest) else none
  | _, _ => none

/-! ## User, host and port -/

/-- What stands in front of the last at sign, and what follows it. -/
def splitUser (cs : List Char) : Option (List Char) × List Char :=
  let host := (cs.reverse.takeWhile (· != '@')).reverse
  if host.length = cs.length then (none, cs)
  else (some (cs.take (cs.length - host.length - 1)), host)

/-- A user's name and password in their normal form, with the at sign if there is any. -/
def showUser (cs : List Char) : List Char :=
  let name := escape .user (cs.takeWhile (· != ':'))
  let password := escape .user (cs.dropWhile (· != ':')).tail
  let text := if password.isEmpty then name else name ++ ':' :: password
  if text.isEmpty then [] else text ++ ['@']

/-- The user that is kept in an address: a name and password that can be told to the host
otherwise are dropped. -/
def keptUser? (cs : List Char) : Option String :=
  let text := (showUser cs).dropLast
  let name? := unescape? (text.takeWhile (· != ':'))
  let password? := (text.dropWhile (· != ':')).tail?.bind unescape?
  let told := match name? with
    | some name => !name.isEmpty || password?.isSome
    | none => false
  if text.isEmpty || told then none else some (String.ofList text)

/-- The host in front of a colon that stands in no brackets, and what follows it. -/
def splitHost (inside : Bool) : List Char → List Char × List Char
  | [] => ([], [])
  | c :: cs =>
    if c == ':' && !inside then ([], c :: cs)
    else
      let (host, rest) := splitHost (c == '[' || (inside && c != ']')) cs
      (c :: host, rest)

/-- The port in the text behind the host and what follows it; `none` if that is no port. -/
def readPort? (cs : List Char) : Option (Option Nat × List Char) :=
  match cs with
  | ':' :: cs =>
    let digits := cs.takeWhile Char.isDigit
    let rest := cs.dropWhile Char.isDigit
    let port := Decimal.natOfDigits digits
    if rest.head?.any (· != '\\') || UInt16.size ≤ port then none
    else some (if digits.isEmpty then none else some port, rest)
  | _ => some (none, cs)

/-- The user, host and port behind two slashes, and what follows them. The host may be empty only
where the style allows it and neither a user nor a port is given. -/
def readAuthority? (style : Style) (scheme : String) (cs : List Char) :
    Option (Option String × List Char × Option Nat × List Char) := do
  let authority := cs.takeWhile fun c => !style.endsHost c
  let behind := cs.drop authority.length
  let (user?, place) := splitUser authority
  let (hostText, portText) := splitHost false place
  let host ← if style = .web then readHost? hostText else readPlainHost? hostText
  let (port?, rest) ← readPort? portText
  let user := user?.getD []
  let bare := user?.isNone || (user.isEmpty && behind.isEmpty) || (showUser user).isEmpty &&
    !user.isEmpty
  if host.isEmpty && !(style = .other && bare && portText.head? != some ':') then none
  else
    return (keptUser? user, host, port?.filter fun p => webPorts.lookup scheme != some p,
      rest ++ behind)

/-! ## Whole addresses -/

/-- The path in front of a query or fragment. -/
def pathOf (cs : List Char) : List Char := cs.takeWhile fun c => c != '?' && c != '#'

/-- The query behind a path, if there is any. -/
def queryOf (style : Style) (cs : List Char) : Option String :=
  let part := if style = .other then Part.query else .webQuery
  match cs.dropWhile fun c => c != '?' && c != '#' with
  | '?' :: query => some (String.ofList (escape part (query.takeWhile (· != '#'))))
  | _ => none

/-- The fragment behind a path, if there is any. -/
def fragmentOf (cs : List Char) : Option String :=
  ((cs.dropWhile (· != '#')).tail?).map fun fragment => String.ofList (escape .fragment fragment)

/-- The query and the fragment as they stand behind a path. -/
def showTail (query? fragment? : Option String) : String :=
  ((query?.map fun q => "?" ++ q).getD "") ++ ((fragment?.map fun f => "#" ++ f).getD "")

/-- An address without a host, from what stands in front of the query. -/
def hostlessAt (style : Style) (front : List Char) (cs : List Char) : Destination :=
  .hostless (String.ofList front ++ showTail (queryOf style cs) (fragmentOf cs))

/-- The path behind a host. -/
def pathBehindHost (style : Style) (cs : List Char) : List Char :=
  match pathOf cs with
  | [] => if style = .other then [] else ['/']
  | c :: path => showParts (readParts style.isSlash (if style.isSlash c then path else c :: path))

/-- An address on the web, behind its scheme. -/
def readWeb (scheme : String) (cs : List Char) : Destination :=
  match readAuthority? .web scheme (cs.dropWhile Style.web.isSlash) with
  | some (user?, host, port?, rest) =>
    .host {
      scheme, user?, host := String.ofList host, port?
      path := String.ofList (pathBehindHost .web rest)
      query? := queryOf .web rest
      fragment? := fragmentOf rest }
  | none => .invalid

/-- An address that is not on the web, behind its scheme. -/
def readOther (scheme : String) (cs : List Char) : Destination :=
  let front := scheme.toList ++ [':']
  match cs with
  | '/' :: '/' :: cs =>
    match readAuthority? .other scheme cs with
    | some (user?, host, port?, rest) =>
      if host.isEmpty then
        hostlessAt .other (front ++ '/' :: '/' :: pathBehindHost .other rest) rest
      else
        .host {
          scheme, user?, host := String.ofList host, port?
          path := String.ofList (pathBehindHost .other rest)
          query? := queryOf .other rest
          fragment? := fragmentOf rest }
    | none => .invalid
  | '/' :: _ =>
    let path := pathBehindHost .other cs
    let path := if ['/', '/'].isPrefixOf path then '/' :: '.' :: path else path
    hostlessAt .other (front ++ path) cs
  | _ => hostlessAt .other (front ++ escape .plain (pathOf cs)) cs

/-- The path of a file and whether it begins with a drive, which is written with a colon. Empty
parts in front do not count. -/
def filePath (cs : List Char) : List Char × Bool :=
  let path := pathOf cs
  let parts := readParts Style.file.isSlash
    (if path.head?.any Style.file.isSlash then path.tail else path)
  match parts with
  | [letter, mark] :: more =>
    if isDrive [letter, mark] then (showParts ([letter, ':'] :: more), true)
    else (showParts parts, false)
  | _ =>
    let parts := parts.dropWhile List.isEmpty
    (if parts.isEmpty then ['/'] else showParts parts, false)

/-- The address of a file, behind its scheme. A host in front of a drive does not count, nor does
the own one. -/
def readFile (cs : List Char) : Destination :=
  let front := "file://".toList
  match cs with
  | a :: b :: rest =>
    if Style.file.isSlash a && Style.file.isSlash b then
      let hostText := rest.takeWhile fun c => !Style.file.endsHost c
      let behind := rest.drop hostText.length
      if isDrive hostText then hostlessAt .file (front ++ (filePath rest).1) rest
      else if hostText.isEmpty then hostlessAt .file (front ++ (filePath behind).1) behind
      else
        let (path, drive) := filePath behind
        match readHost? hostText with
        | none => .invalid
        | some host =>
          if drive || String.ofList host = "localhost" then
            hostlessAt .file (front ++ path) behind
          else
            .host {
              scheme := "file", host := String.ofList host, port? := none
              path := String.ofList path
              query? := queryOf .file behind
              fragment? := fragmentOf behind }
    else hostlessAt .file (front ++ (filePath cs).1) cs
  | _ => hostlessAt .file (front ++ (filePath cs).1) cs

/-- Blanks and controls do not count at the ends of an address. -/
def trimAddress (cs : List Char) : List Char :=
  let cs := cs.dropWhile fun c => c.toNat ≤ 0x20
  (cs.reverse.dropWhile fun c => c.toNat ≤ 0x20).reverse

/-- What a text denotes as an address. Tabs and line ends do not count anywhere. -/
def Destination.ofText (s : String) : Destination :=
  let cs := (trimAddress s.toList).filter fun c => c != '\t' && c != '\n' && c != '\r'
  match splitScheme? cs with
  | none => .invalid
  | some (scheme, rest) =>
    match styleOf scheme with
    | .web => readWeb scheme rest
    | .file => readFile rest
    | .other => readOther scheme rest

namespace Address

/-- The address with pairs put behind its query. -/
def ask (a : Address) (pairs : List (String × String)) : Address :=
  match pairs with
  | [] => { a with query? := a.query?.filter fun q => !q.isEmpty }
  | pairs =>
    let asked := pairs.map fun (q : String × String) => q.1 ++ "=" ++ q.2
    let former := (a.query?.filter fun q => !q.isEmpty).toList
    { a with query? := some (String.intercalate "&" (former ++ asked)) }

/-- The normal form of an address. -/
def text (a : Address) : String :=
  let user := (a.user?.map fun u => u ++ "@").getD ""
  let port := (a.port?.map fun p => ":" ++ Decimal.intText p).getD ""
  s!"{a.scheme}://{user}{a.host}{port}{a.path}{showTail a.query? a.fragment?}"

/-- The characters that may stand in a host but cannot be sent. -/
def unsendable : List Char := ['\"', '\x60', '\x7b', '\x7d']

/-- Whether a request can be sent to an address: the scheme must be the one of requests, and every
character of the host can be sent. -/
def isReachable (a : Address) : Bool :=
  (a.scheme == "http" || a.scheme == "https") &&
    a.host.toList.all fun c => !unsendable.contains c

end Address

end AssignmentGrid.Http
