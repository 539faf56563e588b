import FieldRules.Format.Url.Host
import FieldRules.Text.Blank

namespace FieldRules.Url

/-- What a scheme says about what follows it. -/
inductive SchemeKind where
  /-- A host follows. -/
  | network
  /-- A host may follow, and any path. -/
  | file
  /-- Anything follows. -/
  | other
  deriving DecidableEq

def kindOf (scheme : List Char) : SchemeKind :=
  let scheme := String.ofList (Text.lower scheme)
  if scheme == "file" then .file
  else if ["http", "https", "ws", "wss", "ftp"].contains scheme then .network
  else .other

def isSchemeChar (c : Char) : Bool := c.isAlphanum || c == '+' || c == '-' || c == '.'

/-- The scheme and what follows its colon. -/
def scheme? (cs : List Char) : Option (SchemeKind × List Char) :=
  match cs.dropWhile isSchemeChar with
  | ':' :: rest =>
    if cs.head?.any Char.isAlpha then some (kindOf (cs.takeWhile isSchemeChar), rest) else none
  | _ => none

/-- Spaces and controls around a URL and line breaks and tabs in it do not count. -/
def cleaned (cs : List Char) : List Char :=
  (Text.trim (fun c => c.toNat ≤ 0x20) cs).filter fun c => c != '\t' && c != '\n' && c != '\r'

def isSlash (c : Char) : Bool := c == '/' || c == '\\'

/-- What ends the part with the host. -/
def endsAuthority (kind : SchemeKind) (c : Char) : Bool :=
  c == '/' || c == '?' || c == '#' || (kind != .other && c == '\\')

/-- Parts the text at its last at sign: what stands before it, and the rest. -/
def userAndHost (cs : List Char) : Option (List Char) × List Char :=
  if cs.contains '@' then
    let host := (cs.reverse.takeWhile (· ≠ '@')).reverse
    (some (cs.take (cs.length - host.length - 1)), host)
  else (none, cs)

/-- Parts the text at the first colon that is not in brackets; the colon goes with the rest. -/
def hostAndPort (bracketed : Bool) : List Char → List Char × List Char
  | [] => ([], [])
  | c :: cs =>
    if c = ':' ∧ !bracketed then ([], c :: cs)
    else
      let (host, portPart) := hostAndPort (c == '[' || (bracketed && c != ']')) cs
      (c :: host, portPart)

/-- Digits of at most a 16-bit number, or none. A backslash ends them. -/
def isPort (cs : List Char) : Bool :=
  Text.digitsValue (cs.takeWhile Char.isDigit) < 0x10000 &&
    (cs.dropWhile Char.isDigit).head?.all (· == '\\')

/-- The authority and what follows it. -/
def isAuthority (kind : SchemeKind) (cs : List Char) : Bool :=
  let (user, hostPort) := userAndHost (cs.takeWhile fun c => !endsAuthority kind c)
  let path := cs.dropWhile fun c => !endsAuthority kind c
  let (host, portPart) := hostAndPort false hostPort
  let hasUser := user.any fun u => u != [] && u != [':']
  !(user == some [] && hostPort == [] && path != []) &&
    (portPart == [] || isPort portPart.tail) &&
    if host = [] then kind == .other && portPart == [] && !hasUser
    else if kind = .other then isOpenHost host
    else isHost host

/-- A drive letter and a colon or bar. -/
def isDrive : List Char → Bool
  | [c, d] => c.isAlpha && (d == ':' || d == '|')
  | _ => false

/-- The host of a file, if there is one. -/
def isFile (cs : List Char) : Bool :=
  match cs with
  | a :: b :: rest =>
    let host := rest.takeWhile fun c => !endsAuthority .file c
    !(isSlash a && isSlash b) || host == [] || isDrive host || isHost host
  | _ => true

/-- Whether the text is an absolute URL. -/
def isValid (cs : List Char) : Bool :=
  match scheme? (cleaned cs) with
  | none => false
  | some (.file, rest) => isFile rest
  | some (.network, rest) => isAuthority .network (rest.dropWhile isSlash)
  | some (.other, '/' :: '/' :: rest) => isAuthority .other rest
  | some (.other, _) => true

end FieldRules.Url
