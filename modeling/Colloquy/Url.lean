import Colloquy.Url.Host

/-! # URLs

A text is cut at its marks, and its parts are checked and brought into one form: scheme and host in
small letters, the port only where it is not the one that the scheme implies, no dots in the path
that stand for a place, and everything else escaped. `text` puts the parts together again.
-/
set_option autoImplicit false

namespace Colloquy

structure Url where
  scheme : List Char := []
  userinfo : List Char := []
  host : List Char := []
  port : Option Int := none
  path : List Char := []
  query : Option (List Char) := none
  fragment : Option (List Char) := none
deriving DecidableEq, Repr

namespace Url

def cutAt (mark : Char) (cs : List Char) : List Char × Option (List Char) :=
  match cs.span (· ≠ mark) with
  | (before, []) => (before, none)
  | (before, _ :: after) => (before, some after)

def cutAtLast (mark : Char) (cs : List Char) : Option (List Char) × List Char :=
  let (after, before) := cutAt mark cs.reverse
  (before.map List.reverse, after.reverse)

/-! ## The parts of a text -/

structure Parts where
  scheme : List Char := []
  authority : List Char := []
  path : List Char := []
  query : Option (List Char) := none
  fragment : Option (List Char) := none

namespace Parts

def isSchemeChar (c : Char) : Bool :=
  c.isAlphanum || c = '+' || c = '.' || c = '-'

def cutScheme (cs : List Char) : List Char × List Char :=
  match cs.span isSchemeChar with
  | (name, ':' :: rest) => if name.head?.all Char.isAlpha then (name, rest) else ([], cs)
  | _ => ([], cs)

def cutAuthority (cs : List Char) : List Char × List Char :=
  match cs with
  | '/' :: '/' :: rest => rest.span fun c => c ≠ '/'
  | _ => ([], cs)

def ofChars (cs : List Char) : Parts :=
  let (cs, fragment) := cutAt '#' cs
  let (cs, query) := cutAt '?' cs
  let (scheme, cs) := cutScheme cs
  let (authority, path) := cutAuthority cs
  { scheme, authority, path, query, fragment }

def sizes (p : Parts) : List (Part × Nat) := [
  (.scheme, p.scheme.length), (.authority, p.authority.length), (.path, p.path.length),
  (.query, (p.query.getD []).length), (.fragment, (p.fragment.getD []).length)]

end Parts

/-! ## The authority -/

/-- The host at the beginning of an authority, and what follows it. Between brackets a host may hold
colons. -/
def cutHost (cs : List Char) : List Char × List Char :=
  match cs, cutAtLast ']' cs with
  | '[' :: _, (some before, after) => (before ++ [']'], after)
  | _, _ => cs.span (· ≠ ':')

def impliedPorts : List (String × Int) := [
  ("ftp", 21), ("http", 80), ("https", 443), ("ws", 80), ("wss", 443)]

def readPort (scheme cs : List Char) : Except Flaw (Option Int) :=
  let digits := if cs.head? == some ':' then cs.tail else cs
  if digits.isEmpty then .ok none
  else match Whole.read? 10 digits with
    | none => .error (.badPort (String.ofList digits))
    | some port =>
      .ok (if impliedPorts.contains (String.ofList scheme, port) then none else some port)

/-! ## The path -/

/-- Goes on from the steps taken, the last first. A dot stays there, and two dots lead one step
back, but not past the root. -/
def step (taken : List (List Char)) (next : List Char) : List (List Char) :=
  if next = ['.'] then taken
  else if next = ['.', '.'] then if taken = [[]] then taken else taken.tail
  else next :: taken

def withoutDots (path : List Char) : List Char :=
  List.intercalate ['/'] ((Text.parts '/' path).foldl step []).reverse

def checkPath (hasScheme hasAuthority : Bool) (path : List Char) : Except Flaw Unit :=
  match path with
  | [] => .ok ()
  | c :: rest =>
    if hasAuthority then if c = '/' then .ok () else .error .unrooted
    else if hasScheme then .ok ()
    else if c = '/' && rest.head? == some '/' then .error .likeAuthority
    else if c = ':' then .error .likeScheme
    else .ok ()

/-! ## Reading -/

def ofParts (p : Parts) : Except Flaw Url := do
  let (userinfo, authority) := cutAtLast '@' p.authority
  let (host, port) := cutHost authority
  let userinfo := escape .userinfo (userinfo.getD [])
  let host ← normalHost host
  let port ← readPort p.scheme port
  let hasAuthority := !userinfo.isEmpty || !host.isEmpty || port.isSome
  let hasScheme := !p.scheme.isEmpty
  checkPath hasScheme hasAuthority p.path
  let path := if hasScheme || hasAuthority then withoutDots p.path else p.path
  return {
    scheme := p.scheme.map Char.toLower
    userinfo, host, port
    path := escape .path path
    query := p.query.map (escape .query)
    fragment := p.fragment.map (escape .fragment) }

def maxLength : Nat := 65536

def isControl (c : Char) : Bool :=
  c < ' ' || c = '\x7f'

def ofText (s : String) : Except Flaw Url := do
  let cs := s.toList
  if maxLength < cs.length then throw .tooLong
  match cs.findIdx? isControl with
  | some i => throw (.unprintable (cs.getD i ' ') i)
  | none => ofParts (Parts.ofChars cs)

/-! ## Writing -/

def authority (u : Url) : List Char :=
  (if u.userinfo.isEmpty then [] else u.userinfo ++ ['@']) ++ shownHost u.host ++
    (u.port.map fun port => ':' :: intChars port).getD []

def marked (mark : Char) (part : Option (List Char)) : List Char :=
  (part.map fun cs => mark :: cs).getD []

def chars (u : Url) : List Char :=
  let authority := u.authority
  (if u.scheme.isEmpty then [] else u.scheme ++ [':']) ++
    (if authority.isEmpty then [] else '/' :: '/' :: authority) ++
    u.path ++ marked '?' u.query ++ marked '#' u.fragment

def text (u : Url) : String :=
  String.ofList u.chars

/-! ## Places at one host -/

def place (u : Url) : List Char :=
  (if u.path.isEmpty then ['/'] else u.path) ++ marked '?' u.query

def withPlace (u : Url) (place : List Char) : Except Flaw Url := do
  let (path, query) := cutAt '?' place
  let parts : Parts := {
    scheme := u.scheme, authority := u.authority, path, query, fragment := u.fragment }
  match parts.sizes.find? fun (_, size) => maxLength < size with
  | some (part, _) => throw (.partTooLong part)
  | none => ofParts parts

/-- The URL as a directory: its place ends with a slash. -/
def asDirectory (u : Url) : Except Flaw Url :=
  if u.place.getLast? == some '/' then .ok u else u.withPlace (u.place ++ ['/'])

end Url
end Colloquy
