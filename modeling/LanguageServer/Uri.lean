import LanguageServer.Uri.Host
import LanguageServer.Uri.Path

/-!
# URIs

Documents are known by URI. Reading brings a URI into its normal form, and two documents are the
same exactly when their normal forms are equal as text. Relative references are not supplied: a
URI starts with its scheme.
-/

namespace LanguageServer

open Text

structure Uri where
  text : String
deriving DecidableEq, Repr, Inhabited

namespace Uri

inductive SchemeKind where
  | file
  /-- Has an authority and a default port. -/
  | web (port : Nat)
  | other

/-- Special schemes have their own rules for slashes, hosts and queries. -/
def SchemeKind.isSpecial : SchemeKind → Bool
  | file | web _ => true
  | other => false

def SchemeKind.defaultPort? : SchemeKind → Option Nat
  | web port => some port
  | file | other => none

def schemeKind : String → SchemeKind
  | "file" => .file
  | "http" | "ws" => .web 80
  | "https" | "wss" => .web 443
  | "ftp" => .web 21
  | _ => .other

/-- Tabs stand for line breaks of all kinds. -/
def isBreak (c : Char) : Bool := c = '\t' || c = '\n' || c = '\r'

def plain (cs : List Char) : List Char := cs.filter (· ≠ '\t')

def takeScheme? (cs : List Char) : Option (String × List Char) := do
  let (scheme, rest) ← cutAt? ':' cs
  let scheme := plain scheme
  let first ← scheme.head?
  if first.isAlpha && scheme.all (fun c => c.isAlphanum || "+-.".toList.contains c) then
    some (.ofList (scheme.map Char.toLower), rest)
  else none

/-- The port after a colon, unless it is the default one, and what follows it. -/
def takePort (default? : Option Nat) (cs : List Char) : Except UriError (List Char × List Char) :=
  let (digits, rest) := cs.span Char.isDigit
  let port := decimalValue digits
  if 65535 < port || !rest.head?.all "/\\".toList.contains then .error .port
  else if digits.isEmpty || default? = some port then .ok ([], rest)
  else .ok (':' :: (toString port).toList, rest)

/-- Splits off a host, up to the first slash or the first colon outside brackets. -/
def cutHost (bracket : Bool) : List Char → List Char × List Char
  | [] => ([], [])
  | c :: cs =>
    if c = '/' || (c = ':' && !bracket) then ([], c :: cs)
    else
      let (host, rest) := cutHost (if c = '[' then true else if c = ']' then false else bracket) cs
      (c :: host, rest)

/-- User and password, each encoded; an empty password loses its colon. -/
def userText (cs : List Char) : List Char :=
  let (user, password) := (cutAt? ':' cs).getD (cs, [])
  let user := percentEncode inUserSet user
  let password := if password.isEmpty then [] else ':' :: percentEncode inUserSet password
  if user.isEmpty && password.isEmpty then [] else user ++ password ++ ['@']

/-- Splits off the user before the last `@` of an authority. An `@` that is all there is may stand
at the end, but not in front of anything. -/
def takeUser (followed : Bool) (cs : List Char) : Except UriError (List Char × List Char) :=
  let (authority, path) := cs.span (· ≠ '/')
  -- Reversed, because the last `@` counts.
  match cutAt? '@' authority.reverse with
  | none => .ok ([], cs)
  | some (hostPort, user) =>
    if user.isEmpty && hostPort.isEmpty && (followed || !path.isEmpty) then .error .emptyHost
    else .ok (userText user.reverse, hostPort.reverse ++ path)

/-- The host of an authority; a special scheme needs one. -/
def authorityHost (kind : SchemeKind) (host : List Char) : Except UriError (List Char) :=
  if !kind.isSpecial then otherHost host
  else if host.isEmpty then .error .emptyHost
  else specialHost host

/-- The authority in normal form and what follows it; `followed` says whether there is a query or a
fragment behind the path. Without a host there is neither user nor port. -/
def takeAuthority (kind : SchemeKind) (followed : Bool) (cs : List Char) :
    Except UriError (List Char × List Char) := do
  let (user, cs) ← takeUser followed cs
  let (host, cs) := cutHost false cs
  let host ← authorityHost kind host
  match cs with
  | ':' :: cs =>
    if host.isEmpty then .error .emptyHost
    else
      let (port, cs) ← takePort kind.defaultPort? cs
      .ok (user ++ host ++ port, cs)
  | cs => if host.isEmpty && !user.isEmpty then .error .emptyHost else .ok (user ++ host, cs)

/-- The host of a file; the local host is the same as none. -/
def fileHost (cs : List Char) : Except UriError (List Char) :=
  if cs.isEmpty then .ok []
  else (specialHost cs).map fun host => if host = "localhost".toList then [] else host

/-- The part of a file between scheme and query. A path on a drive has no host. -/
def fileHierarchy (cs : List Char) : Except UriError (List Char) :=
  let ofPath (path : Path) : List Char := '/' :: '/' :: path.text true
  match cs.dropWhile (· = '\t') with
  | '/' :: cs =>
    match cs.dropWhile (· = '\t') with
    | '/' :: cs =>
      let (host, path) := cs.span (· ≠ '/')
      if isDriveLetter true (plain host) then .ok (ofPath (.ofText true cs))
      else do
        let host ← fileHost (plain host)
        let path := Path.ofText true (if host.isEmpty then path else path.drop 1)
        .ok (if path.onDrive then ofPath path else '/' :: '/' :: host ++ path.text true)
    | _ => .ok (ofPath (.ofText true cs))
  | _ => .ok (ofPath (.ofText true cs))

def hierarchy (kind : SchemeKind) (followed : Bool) (cs : List Char) :
    Except UriError (List Char) :=
  let rooted (cs : List Char) : List Char :=
    (Path.ofText false (if cs.head? = some '/' then cs.drop 1 else cs)).text false
  match kind, cs with
  | .web _, cs => do
    let (authority, path) ← takeAuthority kind followed (cs.dropWhile (· = '/'))
    .ok ('/' :: '/' :: authority ++ rooted path)
  | _, '/' :: '/' :: cs => do
    let (authority, path) ← takeAuthority kind followed cs
    .ok ('/' :: '/' :: authority ++ if path.isEmpty then [] else rooted path)
  | _, '/' :: cs =>
    let path := (Path.ofText false cs).text false
    .ok (if path.take 2 = ['/', '/'] then '/' :: '.' :: path else path)
  | _, cs => .ok (percentEncode inControlSet cs)

def cutPart (mark : Char) (cs : List Char) : List Char × Option (List Char) :=
  match cutAt? mark cs with
  | some (before, after) => (before, some after)
  | none => (cs, none)

/-- Reads a URI. Blanks and controls around it do not count, and line breaks inside it only for the
path of a file. -/
def parse (written : String) : Except UriError Uri :=
  let cs := trim (fun c => c.toNat ≤ 0x20) written.toList
  match takeScheme? (cs.map fun c => if isBreak c then '\t' else c) with
  | none => .error .relative
  | some (scheme, rest) => do
    let kind := schemeKind scheme
    let (rest, fragment?) := cutPart '#' rest
    let (rest, query?) := cutPart '?' rest
    let rest := if kind.isSpecial then rest.map fun c => if c = '\\' then '/' else c else rest
    let hierarchy ← match kind with
      | .file => fileHierarchy rest
      | _ => hierarchy kind (query?.isSome || fragment?.isSome) (plain rest)
    let encode (mark : Char) (set : Char → Bool) (part? : Option (List Char)) : List Char :=
      (part?.map fun part => mark :: percentEncode set (plain part)).getD []
    .ok ⟨.ofList (scheme.toList ++ ':' :: hierarchy ++
      encode '?' (inQuerySet kind.isSpecial) query? ++ encode '#' inFragmentSet fragment?)⟩

end Uri

end LanguageServer
