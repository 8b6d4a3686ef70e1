import RootFinder.Json.Reader
import RootFinder.Text.Quoted

/-! Targets of requests. A target may name a scheme and an authority, which do not count, nor do a
query and a fragment. Of its path the segments "." and ".." are resolved, the slashes in front of a
relative one become one, and escapes are read twice: by the client and by the server. -/
namespace RootFinder.Service

open Json.Reader (hexValue?)

/-- Why a target is not sent. -/
inductive TargetFlaw
  | control (c : Char) (position : Nat)
  | doubleSlash
  | colon
deriving DecidableEq, Repr

def TargetFlaw.message : TargetFlaw → String
  | .control c position =>
    s!"Invalid non-printable ASCII character in URL, {Text.quoted [c]} at position {position}."
  | .doubleSlash => "Relative URLs cannot have a path starting with '//'"
  | .colon => "Relative URLs cannot have a path starting with ':'"

namespace Target

def isControl (c : Char) : Bool := c.toNat < 0x20 || c.toNat == 0x7F

def inScheme (c : Char) : Bool := c.isAlphanum || c == '+' || c == '.' || c == '-'

/-- The scheme before a colon, empty if there is none, and what follows. -/
def splitScheme (cs : List Char) : List Char × List Char :=
  let name := if (cs.head?.map Char.isAlpha).getD false then cs.takeWhile inScheme else []
  match cs.drop name.length with
  | ':' :: rest => (name, rest)
  | _ => ([], cs)

def endsAuthority (c : Char) : Bool := c == '/' || c == '?' || c == '#'

/-- The authority after two slashes, empty if there is none, and what follows. -/
def splitAuthority : List Char → List Char × List Char
  | '/' :: '/' :: rest => (rest.takeWhile (!endsAuthority ·), rest.dropWhile (!endsAuthority ·))
  | cs => ([], cs)

/-- The parts between the slashes. -/
def segments (cs : List Char) : List (List Char) :=
  cs.foldr (fun c parts => if c = '/' then [] :: parts else
    match parts with
    | part :: rest => (c :: part) :: rest
    | [] => [[c]]) [[]]

/-- Adds a segment to those before it, the last first. -/
def enter (before : List (List Char)) (segment : List Char) : List (List Char) :=
  if segment = ['.'] then before
  else if segment = ['.', '.'] then if before = [[]] then before else before.tail
  else segment :: before

/-- A path without "." and ".."; the root has no parent. -/
def resolve (path : List Char) : List Char :=
  ['/'].intercalate ((segments path).foldl enter []).reverse

/-- Reads escapes of two hexadecimal digits. A byte beyond ASCII becomes the replacement
character, which no route has. -/
def unescape : List Char → List Char
  | '%' :: a :: b :: rest =>
    match hexValue? a, hexValue? b with
    | some high, some low =>
      let code := 16 * high + low
      (if code < 0x80 then Char.ofNat code else '\uFFFD') :: unescape rest
    | _, _ => '%' :: unescape (a :: b :: rest)
  | c :: rest => c :: unescape rest
  | [] => []

/-- The path that a target asks for. -/
def path (target : List Char) : Except TargetFlaw (List Char) :=
  match target.findIdx? isControl with
  | some position => .error (.control (target.getD position ' ') position)
  | none =>
    let (scheme, rest) := splitScheme target
    let (authority, rest) := splitAuthority rest
    let path := rest.takeWhile fun c => c != '?' && c != '#'
    let named := !scheme.isEmpty || !authority.isEmpty
    if !named && path.take 2 = ['/', '/'] then .error .doubleSlash
    else if !named && path.head? = some ':' then .error .colon
    else
      let path := if named then resolve path else path
      let absolute := !scheme.isEmpty && !authority.isEmpty
      let path := if absolute then path else resolve ('/' :: path.dropWhile (· == '/'))
      .ok (unescape (unescape path))

end Target

end RootFinder.Service
