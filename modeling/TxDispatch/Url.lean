import TxDispatch.Url.Host

namespace TxDispatch

open Text

/-- A URL in its parts. A host that is absent leaves no room for one; an empty host does. -/
structure Url where
  scheme : String
  username : String := ""
  password : String := ""
  host : Option Url.Host := none
  port : Option Nat := none
  path : Url.Path
  query : Option String := none
  fragment : Option String := none
deriving DecidableEq, Repr

namespace Url

def clean (cs : List Char) : List Char :=
  let edge (c : Char) : Bool := c.toNat ≤ 0x20
  (((cs.dropWhile edge).reverse.dropWhile edge).reverse).filter fun c =>
    c != '\t' && c != '\n' && c != '\r'

/-- The text before the first place of a character and, if there is one, the text after it. -/
def cutAt (c : Char) (cs : List Char) : List Char × Option (List Char) :=
  match cs.dropWhile (· != c) with
  | [] => (cs, none)
  | _ :: rest => (cs.takeWhile (· != c), some rest)

def isSchemeChar (c : Char) : Bool := c.isAlphanum || c == '+' || c == '-' || c == '.'

def scheme? (cs : List Char) : Option (String × List Char) :=
  match cutAt ':' cs with
  | (c :: name, some rest) =>
    if c.isAlpha && name.all isSchemeChar then
      some (String.ofList ((c :: name).map Char.toLower), rest)
    else none
  | _ => none

def impliedPort? (scheme : String) : Option Nat :=
  if scheme == "http" || scheme == "ws" then some 80
  else if scheme == "https" || scheme == "wss" then some 443
  else if scheme == "ftp" then some 21
  else none

def kindOf (scheme : String) : Kind :=
  if scheme == "file" then .file else if (impliedPort? scheme).isSome then .web else .other

def kind (u : Url) : Kind := kindOf u.scheme

/-- What stands between the slashes and the path. -/
structure Authority where
  username : String := ""
  password : String := ""
  host : Option Host
  port : Option Nat := none

namespace Authority

def cutUser (cs : List Char) : Option (List Char) × List Char :=
  if cs.contains '@' then
    (some (cs.reverse.dropWhile (· != '@')).tail.reverse, (cs.reverse.takeWhile (· != '@')).reverse)
  else (none, cs)

/-- The text of a host, which ends at a colon outside of brackets, and the text after it. -/
def cutHost : (inside : Bool) → List Char → List Char × List Char
  | _, [] => ([], [])
  | inside, c :: cs =>
    if c == ':' && !inside then ([], c :: cs)
    else
      let (host, rest) := cutHost (c == '[' || (inside && c != ']')) cs
      (c :: host, rest)

/-- A port, and the text after it, which a backslash may begin. No digits are no port. -/
def readPort (scheme : String) (cs : List Char) : Except UrlError (Option Nat × List Char) :=
  let digits := cs.takeWhile Char.isDigit
  let rest := cs.dropWhile Char.isDigit
  let n := Digits.value digits
  if 65535 < n || !(rest == [] || rest.head? == some '\\') then .error .invalidPort
  else .ok (if digits == [] || impliedPort? scheme == some n then none else some n, rest)

/-- Reads an authority, after which the URL may be at its end, and gives the text that turns out to
belong to the path. A user needs a host. -/
def ofText (scheme : String) (atEnd : Bool) (cs : List Char) :
    Except UrlError (Authority × List Char) := do
  let (user, cs) := cutUser cs
  if user == some [] && cs == [] && !atEnd then throw .emptyHost
  let (hostText, rest) := cutHost false cs
  let host ←
    if kindOf scheme == .web then
      if hostText == [] then throw .emptyHost else Host.ofText hostText
    else Host.ofPlainText hostText
  if host.isEmpty && rest != [] then throw .emptyHost
  let (port, rest) ← match rest with
    | ':' :: digits => readPort scheme digits
    | _ => .ok (none, rest)
  let (name, password) := cutAt ':' (user.getD [])
  let write (cs : List Char) : String := String.ofList (Percent.encode Percent.inUserinfo cs)
  if host.isEmpty && (name != [] || password.getD [] != []) then throw .emptyHost
  return (⟨write name, write (password.getD []), some host, port⟩, rest)

end Authority

/-- The path that follows an authority. A URL of the web always has one. -/
def rootPath (k : Kind) (cs : List Char) : Path :=
  match cs with
  | [] => if k == .other then .segments [] else .ofText k [] []
  | c :: rest => .ofText k [] (if k.isSlash c then rest else c :: rest)

/-- The authority and the path of a URL of the web: any number of slashes may come first. -/
def webParts (scheme : String) (atEnd : Bool) (cs : List Char) :
    Except UrlError (Authority × Path) := do
  let cs := cs.dropWhile Kind.web.isSlash
  let path := cs.dropWhile (!Kind.web.isSlash ·)
  let (authority, rest) ←
    Authority.ofText scheme (atEnd && path == []) (cs.takeWhile (!Kind.web.isSlash ·))
  return (authority, rootPath .web (rest ++ path))

/-- The host and the path of a file. The host of this machine is no host, a drive is none either,
and a path with a drive needs none. -/
def fileParts (cs : List Char) : Except UrlError (Authority × Path) := do
  let here : Authority := ⟨"", "", none, none⟩
  match cs with
  | a :: b :: rest =>
    if Kind.file.isSlash a && Kind.file.isSlash b then
      let name := rest.takeWhile (!Kind.file.isSlash ·)
      if name == [] || Path.isDrive name then return (here, .ofText .file [] rest)
      let host ← Host.ofText name
      let path := Path.ofText .file [] (rest.drop name.length).tail
      if host == .domain "localhost" || path.hasDrive then return (here, path)
      return ({ here with host := some host }, path)
  | _ => pure ()
  return (here, .ofText .file [] cs)

/-- The authority and the path of a URL with an unknown scheme: two slashes come before an authority
and one before a path alone. -/
def otherParts (scheme : String) (atEnd : Bool) (cs : List Char) :
    Except UrlError (Authority × Path) := do
  match cs with
  | '/' :: '/' :: rest =>
    let path := rest.dropWhile (· != '/')
    let (authority, rest) ←
      Authority.ofText scheme (atEnd && path == []) (rest.takeWhile (· != '/'))
    return (authority, rootPath .other (rest ++ path))
  | '/' :: rest => return (⟨"", "", none, none⟩, .ofText .other [] rest)
  | _ =>
    return (⟨"", "", none, none⟩, .flat (String.ofList (Percent.encode Percent.isControl cs)))

def encoded (escaped : Char → Bool) (cs : Option (List Char)) : Option String :=
  cs.map fun cs => String.ofList (Percent.encode escaped cs)

def parse (s : String) : Except UrlError Url := do
  let some (scheme, cs) := scheme? (clean s.toList) | throw .relativeWithoutBase
  let (cs, fragment) := cutAt '#' cs
  let (cs, query) := cutAt '?' cs
  let kind := kindOf scheme
  let atEnd := query.isNone && fragment.isNone
  let (authority, path) ← match kind with
    | .web => webParts scheme atEnd cs
    | .file => fileParts cs
    | .other => otherParts scheme atEnd cs
  return { scheme, username := authority.username, password := authority.password,
           host := authority.host, port := authority.port, path,
           query := encoded (Percent.inQuery (kind != .other)) query,
           fragment := encoded Percent.inFragment fragment }

/-- Joins a reference that begins with the name of a segment: the last segment of the base gives way
to it. -/
def join (base : Url) (reference : String) : Except UrlError Url :=
  match base.path with
  | .flat _ => .error .relativeToFlat
  | .segments names =>
    let (cs, fragment) := cutAt '#' (clean reference.toList)
    let (cs, query) := cutAt '?' cs
    .ok { base with
          path := .ofText base.kind names.dropLast cs
          query := encoded (Percent.inQuery (base.kind != .other)) query
          fragment := encoded Percent.inFragment fragment }

def asFolder (u : Url) : Url := { u with path := u.path.asFolder }

/-- Adds the parameters of a form to the query. A query that stays empty is dropped. -/
def withParameters (u : Url) (parameters : List (String × String)) : Url :=
  let form := parameters.map fun p =>
    String.ofList (Percent.formEncode p.1.toList ++ '=' :: Percent.formEncode p.2.toList)
  let query := "&".intercalate (((u.query.filter (!·.isEmpty)).toList) ++ form)
  { u with query := if query.isEmpty then none else some query }

def hasHost (u : Url) : Bool := u.host.any (!·.isEmpty)

def address (u : Url) : String :=
  ((u.host.map Host.text).getD "") ++
    match u.port with
    | none => ""
    | some port => ":" ++ Digits.text port

def target (u : Url) : String :=
  u.path.text ++
    match u.query with
    | none => ""
    | some query => "?" ++ query

def userText (u : Url) : String :=
  if u.username.isEmpty && u.password.isEmpty then ""
  else u.username ++ (if u.password.isEmpty then "" else ":" ++ u.password) ++ "@"

/-- The text of a URL. Without an authority, a path must not begin like one. -/
def text (u : Url) : String :=
  let authority :=
    if u.host.isSome || u.kind == .file then "//" ++ u.userText ++ u.address
    else match u.path with
      | .segments ("" :: _ :: _) => "/."
      | _ => ""
  u.scheme ++ ":" ++ authority ++ u.target ++
    match u.fragment with
    | none => ""
    | some fragment => "#" ++ fragment

end Url

end TxDispatch
