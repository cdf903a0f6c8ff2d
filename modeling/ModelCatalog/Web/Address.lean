import ModelCatalog.Web.Host

namespace ModelCatalog.Web

inductive Path where
  | opaqueText (s : String)
  | segments (parts : List String)
deriving DecidableEq

structure Address where
  scheme : String
  username : String := ""
  password : Option String := none
  host : Option Host := none
  port : Option Nat := none
  path : Path
  query : Option String := none
  fragment : Option String := none
deriving DecidableEq

namespace Address

inductive SchemeKind where
  | special
  | file
  | other
deriving DecidableEq

def SchemeKind.ofScheme (scheme : String) : SchemeKind :=
  if ["http","https","ws","wss","ftp"].contains scheme then .special
  else if scheme = "file" then .file
  else .other

def usualPort? : String → Option Nat
  | "http" | "ws" => some 80
  | "https" | "wss" => some 443
  | "ftp" => some 21
  | _ => none

def SchemeKind.isSlash (kind : SchemeKind) (c : Char) : Bool :=
  c = '/' || (kind ≠ .other && c = '\\')

def significant (text : String) : List Char :=
  (Text.strip (·.toNat ≤ 0x20) text.toList).filter fun c => c ≠ '\t' && c ≠ '\n' && c ≠ '\r'

def scheme? (chars : List Char) : Option (String × List Char) :=
  let isPart (c : Char) : Bool := c.isAlphanum || c = '+' || c = '-' || c = '.'
  match chars,chars.dropWhile isPart with
  | first :: _,':' :: rest =>
    if first.isAlpha then some (String.ofList ((chars.takeWhile isPart).map Char.toLower),rest)
    else none
  | _,_ => none

def tail (chars : List Char) : List Char × Option (List Char) × Option (List Char) :=
  let beforeHash := chars.takeWhile (· ≠ '#')
  let fragment := match chars.dropWhile (· ≠ '#') with
    | _ :: rest => some rest
    | [] => none
  let query := match beforeHash.dropWhile (· ≠ '?') with
    | _ :: rest => some rest
    | [] => none
  (beforeHash.takeWhile (· ≠ '?'),query,fragment)

def pieces (isSlash : Char → Bool) : List Char → List (List Char)
  | [] => [[]]
  | c :: rest =>
    if isSlash c then [] :: pieces isSlash rest
    else match pieces isSlash rest with
      | part :: parts => (c :: part) :: parts
      | [] => [[c]]

def lower (part : List Char) : String := String.ofList (part.map Char.toLower)

def isSingleDot (part : List Char) : Bool := [".","%2e"].contains (lower part)

def isDoubleDot (part : List Char) : Bool := ["..",".%2e","%2e.","%2e%2e"].contains (lower part)

-- Resolves the parts that stand for the same place and for the one above. At the end such a part leaves a slash.
def resolve (above : List (List Char)) : List (List Char) → List (List Char)
  | [] => above
  | part :: rest =>
    let parts :=
      if isDoubleDot part then (if rest.isEmpty then above.dropLast ++ [[]] else above.dropLast)
      else if isSingleDot part then (if rest.isEmpty then above ++ [[]] else above)
      else above ++ [part]
    resolve parts rest

def segments (kind : SchemeKind) (chars : List Char) : List String :=
  let body := match chars with
    | c :: rest => if kind.isSlash c then rest else chars
    | [] => []
  (resolve [] (pieces kind.isSlash body)).map fun part =>
    String.ofList (Percent.encode Percent.path part)

def endsAuthority (kind : SchemeKind) (c : Char) : Bool := kind.isSlash c || c = '?' || c = '#'

def userInfo? (authority : List Char) : Option (List Char × List Char) :=
  let behind := (authority.reverse.takeWhile (· ≠ '@')).reverse
  if behind.length = authority.length then none
  else some (authority.take (authority.length - behind.length - 1),behind)

def hostAndPort (inside : Bool) : List Char → List Char × Option (List Char)
  | [] => ([],none)
  | c :: rest =>
    if c = ':' && !inside then ([],some rest)
    else
      let (host,port) := hostAndPort (c = '[' || (inside && c ≠ ']')) rest
      (c :: host,port)

-- A port that is the usual one of the scheme is none.
def parsePort (scheme : String) (chars : List Char) : Except AddressError (Option Nat) :=
  if !chars.all Char.isDigit then .error .invalidPort
  else
    let n := chars.foldl (fun n c => n * 10 + (c.toNat - 48)) 0
    if 65535 < n then .error .invalidPort
    else .ok (if chars.isEmpty ∨ some n = usualPort? scheme then none else some n)

-- A backslash ends a port even where it does not end the authority.
def beforeBackslash (chars : List Char) : List Char × List Char :=
  (chars.takeWhile (· ≠ '\\'),chars.dropWhile (· ≠ '\\'))

def encoded (special : Char → Bool) (part : List Char) : String :=
  String.ofList (Percent.encode special part)

def withTail (kind : SchemeKind) (address : Address) (chars : List Char) : Address :=
  let (path,query,fragment) := tail chars
  let path := match kind,path with
    | .other,[] => .segments []
    | kind,path => .segments (segments kind path)
  let quote (c : Char) : Bool := kind ≠ .other && c = '\''
  { address with
    path
    query := query.map (encoded fun c => Percent.query c || quote c)
    fragment := fragment.map (encoded Percent.fragment) }

def parseAuthority (scheme : String) (kind : SchemeKind) (chars : List Char) :
    Except AddressError Address := do
  let authority := chars.takeWhile (!endsAuthority kind ·)
  let rest := chars.dropWhile (!endsAuthority kind ·)
  let user := userInfo? authority
  let place := match user with
    | some (_,behind) => behind
    | none => authority
  let (hostText,portText) := hostAndPort false place
  if hostText.isEmpty then
    if kind = .special ∨ portText.isSome ∨ user.isSome then throw .emptyHost
  let host ← if kind = .special then Host.parse hostText else Host.parseOpaque hostText
  let (digits,extra) := beforeBackslash (portText.getD [])
  let port ← parsePort scheme digits
  let (username,password) := match user with
    | none => ([],none)
    | some (info,_) =>
      (info.takeWhile (· ≠ ':'),match info.dropWhile (· ≠ ':') with
        | _ :: p :: ps => some (p :: ps)
        | _ => none)
  return withTail kind {
    scheme,host := some host,port,path := .segments []
    username := encoded Percent.userInfo username
    password := password.map (encoded Percent.userInfo) } (extra ++ rest)

-- A letter and a colon or bar name a drive, not a host.
def isDrive : List Char → Bool
  | [letter,mark] => letter.isAlpha && (mark = ':' || mark = '|')
  | _ => false

def parseFile (chars : List Char) : Except AddressError Address := do
  let kind := SchemeKind.file
  let plain : Address := { scheme := "file",path := .segments [] }
  match chars with
  | a :: b :: rest =>
    if kind.isSlash a && kind.isSlash b then
      let hostText := rest.takeWhile (!endsAuthority kind ·)
      if hostText.isEmpty || isDrive hostText then return withTail kind plain rest
      let host ← Host.parse hostText
      let host := if host = Host.name "localhost" then none else some host
      return withTail kind { plain with host } (rest.dropWhile (!endsAuthority kind ·))
    else return withTail kind plain chars
  | chars => return withTail kind plain chars

def parse (text : String) : Except AddressError Address :=
  match scheme? (significant text) with
  | none => .error .relative
  | some (scheme,rest) =>
    match SchemeKind.ofScheme scheme with
    | .special =>
      parseAuthority scheme .special (rest.dropWhile fun c => c = '/' || c = '\\')
    | .file => parseFile rest
    | .other => match rest with
      | '/' :: '/' :: rest => parseAuthority scheme .other rest
      | '/' :: _ => .ok (withTail .other { scheme,path := .segments [] } rest)
      | rest =>
        let (path,query,fragment) := tail rest
        .ok {
          scheme
          path := .opaqueText (encoded Percent.control path)
          query := query.map (encoded Percent.query)
          fragment := fragment.map (encoded Percent.fragment) }

def pathText (a : Address) : String :=
  match a.path with
  | .opaqueText s => s
  | .segments parts =>
    let text := String.join (parts.map ("/" ++ ·))
    if a.host.isNone ∧ a.scheme ≠ "file" ∧ parts.length > 1 ∧ parts.head? = some "" then "/." ++ text
    else text

def text (a : Address) : String :=
  let user := match a.password with
    | some p => a.username ++ ":" ++ p ++ "@"
    | none => if a.username = "" then "" else a.username ++ "@"
  let authority := match a.host with
    | some host => "//" ++ user ++ host.text ++ (match a.port with
      | some p => ":" ++ toString p
      | none => "")
    | none => if a.scheme = "file" then "//" else ""
  a.scheme ++ ":" ++ authority ++ a.pathText
    ++ (match a.query with
      | some q => "?" ++ q
      | none => "")
    ++ (match a.fragment with
      | some f => "#" ++ f
      | none => "")

end Address
end ModelCatalog.Web
