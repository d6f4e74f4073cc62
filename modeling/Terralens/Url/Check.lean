import Terralens.Url.Host

/-!
# Web addresses

Whether a text is an address, and the scheme of one that is. Control characters and blanks
around an address do not count, nor do tabs and line breaks inside it.
-/

namespace Terralens.Url

/-- The kinds of schemes: those of the web, that of files, and all others. -/
inductive SchemeKind where
  | web
  | file
  | other
deriving DecidableEq

def SchemeKind.of (scheme : String) : SchemeKind :=
  if scheme == "file" then .file
  else if ["http", "https", "ws", "wss", "ftp"].contains scheme then .web
  else .other

def stripControls (s : List Char) : List Char :=
  let left := s.dropWhile (·.toNat ≤ 32)
  (left.reverse.dropWhile (·.toNat ≤ 32)).reverse

def continuesScheme (c : Char) : Bool := c.isAlphanum || c == '+' || c == '-' || c == '.'

def splitScheme (s : List Char) : Option (String × List Char) :=
  let name := s.takeWhile continuesScheme
  match name, s.drop name.length with
  | c :: _, ':' :: rest =>
      if c.isAlpha then some (String.ofList (name.map Char.toLower), rest) else none
  | _, _ => none

def isSlash (kind : SchemeKind) (c : Char) : Bool := c == '/' || (kind != .other && c == '\\')

/-- Whether a character ends the part of an address that names the server. -/
def endsAuthority (kind : SchemeKind) (c : Char) : Bool :=
  isSlash kind c || c == '?' || c == '#'

/-- What follows the last `@` of a text. -/
def afterLastAt (s : List Char) : Option (List Char) :=
  let after := s.reverse.takeWhile (· != '@')
  if after.length < s.length then some after.reverse else none

/-- The host at the start of a text: up to a colon outside brackets. -/
def hostPart (inside : Bool) : List Char → List Char
  | [] => []
  | c :: rest =>
      if c == ':' && !inside then []
      else c :: hostPart (if c == '[' then true else if c == ']' then false else inside) rest

def checkPort (s : List Char) : Except Problem Unit :=
  let s := s.takeWhile (· != '\\')
  if s.all Char.isDigit && numberOf 10 (s.filterMap hexDigit?) ≤ 65535 then .ok ()
  else .error .invalidPort

def checkAuthority (kind : SchemeKind) (s : List Char) : Except Problem Unit := do
  let authority := s.takeWhile fun c => !endsAuthority kind c
  let bare := authority.head? == some '@' && afterLastAt authority == some (authority.drop 1)
  let server := (afterLastAt authority).getD authority
  if bare && server.isEmpty && authority.length < s.length then throw .emptyHost
  let host := hostPart false server
  let rest := server.drop host.length
  if host.isEmpty && (kind == .web || !rest.isEmpty) then throw .emptyHost
  if kind == .web then checkHost host else checkOpaqueHost host
  match rest with
  | ':' :: port => checkPort port
  | _ => pure ()

def checkFile (s : List Char) : Except Problem Unit :=
  match s with
  | a :: b :: rest =>
      if isSlash .file a && isSlash .file b then
        let host := rest.takeWhile fun c => !endsAuthority .file c
        let drive := match host with
          | [c, d] => c.isAlpha && (d == ':' || d == '|')
          | _ => false
        if host.isEmpty || drive then .ok () else checkHost host
      else .ok ()
  | _ => .ok ()

def scheme (address : String) : Except Problem String :=
  let s := (stripControls address.toList).filter fun c => c != '\t' && c != '\n' && c != '\r'
  match splitScheme s with
  | none => .error .relative
  | some (scheme, rest) => do
      match SchemeKind.of scheme with
      | .web => checkAuthority .web (rest.dropWhile (isSlash .web))
      | .file => checkFile rest
      | .other =>
          match rest with
          | '/' :: '/' :: rest => checkAuthority .other rest
          | _ => pure ()
      pure scheme

end Terralens.Url
