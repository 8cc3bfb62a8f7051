import DocPreview.Text.Basic

/-!
# Addresses that a request can be sent to

A request goes to an absolute address `scheme://authority/path?query#fragment`. `Url.parse` reads
the parts of an address and refuses characters that stand in the wrong part; `Url.checkRequest`
refuses an address without a scheme or with a scheme that has no port of its own.

## Main definitions

* `Url`: the parts of an address.
* `Url.Problem`: why a text is no address, or no address for a request.
* `Url.parse`, `Url.checkRequest`.
-/

namespace DocPreview.Diagram

open Text

/-- The parts of an address. -/
structure Url where
  /-- What stands before `://`, if anything does. -/
  scheme : Option Text
  /-- What stands between `://` and the path. -/
  authority : Text
  /-- The path with the query, without the fragment. -/
  target : Text
  deriving Repr, DecidableEq

namespace Url

/-- Why no request can be sent to a text. -/
inductive Problem where
  /-- A character that the part of the address where it stands cannot hold. -/
  | character
  /-- An authority that is not of the form `user@host:port`. -/
  | authority
  /-- A text that is of no form of an address. -/
  | format
  /-- A scheme of more than 64 characters. -/
  | longScheme
  /-- A text of more than 65534 bytes. -/
  | tooLong
  /-- An address that is only a path. -/
  | noScheme (target : Text)
  /-- A scheme without a port of its own. -/
  | unknownScheme (scheme : Text)
  deriving Repr, DecidableEq

/-- The text of a problem. -/
def Problem.message : Problem → String
  | .character => "http: invalid uri character"
  | .authority => "http: invalid authority"
  | .format => "http: invalid format"
  | .longScheme => "http: scheme too long"
  | .tooLong => "http: uri too long"
  | .noScheme target => "bad uri: " ++ String.ofList target ++ " is missing scheme"
  | .unknownScheme scheme => "bad uri: unknown scheme: " ++ String.ofList scheme

/-- The characters of a scheme. -/
def isSchemeChar (c : Char) : Bool :=
  c.isAlphanum || c = '+' || c = '-' || c = '.' || c = '~'

/-- The lower case of an ASCII letter. -/
def lower (s : Text) : Text := s.map Char.toLower

/-- The scheme that a text starts with, and what follows `://`. -/
def scheme? (s : Text) : Except Problem (Option (Text × Text)) :=
  let name := s.takeWhile isSchemeChar
  match after? "://".toList (s.drop name.length) with
  | none => .ok none
  | some rest =>
    let known := lower name = "http".toList || lower name = "https".toList
    if name.length > 64 then .error .longScheme
    else .ok (some (if known then lower name else name, rest))

/-- The characters that end an authority. -/
def endsAuthority (c : Char) : Bool := c = '/' || c = '?' || c = '#'

/-- The characters of an authority, the percent sign apart. -/
def isAuthorityChar (c : Char) : Bool :=
  c.isAlphanum || "!$&'()*+,-.:;=@[]_~".toList.contains c

/-- What is known of an authority after some of its characters. -/
structure AuthorityState where
  colons : Nat
  opened : Bool
  closed : Bool
  percent : Bool
  /-- Whether the last character is `@`. -/
  endsAt : Bool

/-- One more character of an authority. A closing bracket and an at sign end the part in which
colons and percent signs are free. -/
def AuthorityState.step (st : AuthorityState) (c : Char) : Except Problem AuthorityState :=
  let st' := { st with endsAt := c = '@' }
  match c with
  | ':' => if st.colons ≥ 8 then .error .authority else .ok { st' with colons := st.colons + 1 }
  | '[' => if st.percent || st.opened then .error .authority else .ok { st' with opened := true }
  | ']' =>
    if !st.opened || st.closed then .error .authority
    else .ok { st' with closed := true, colons := 0, percent := false }
  | '@' => .ok { st' with colons := 0, percent := false }
  | '%' => .ok { st' with percent := true }
  | c => if isAuthorityChar c then .ok st' else .error .character

/-- Checks an authority. -/
def checkAuthority (s : Text) : Except Problem Unit := do
  let st ← s.foldlM AuthorityState.step ⟨0, false, false, false, false⟩
  if st.opened != st.closed || st.colons > 1 || st.endsAt || st.percent then
    throw .authority

/-- The characters of a path. -/
def isPathChar (c : Char) : Bool :=
  let n := c.toNat
  n = 0x21 || n = 0x22 || (0x24 ≤ n && n ≤ 0x3B) || n = 0x3D || (0x40 ≤ n && n ≤ 0x5F) ||
    (0x61 ≤ n && n ≤ 0x7E) || 0x7F ≤ n

/-- The characters of a query. -/
def isQueryChar (c : Char) : Bool :=
  let n := c.toNat
  n = 0x21 || (0x24 ≤ n && n ≤ 0x3B) || n = 0x3D || 0x3F ≤ n

/-- A path with its query, as read before the fragment. -/
def readTarget (s : Text) : Except Problem Text := do
  let path := s.takeWhile fun c => !(c = '?' || c = '#')
  if !path.all isPathChar then
    throw .character
  match s.drop path.length with
  | '?' :: rest =>
    let query := rest.takeWhile (· ≠ '#')
    if !query.all isQueryChar then
      throw .character
    return path ++ '?' :: query
  | _ => return path

/-- Reads an address of more than one character. -/
def parse (s : Text) : Except Problem Url := do
  if byteSize s > 65534 then
    throw .tooLong
  match s with
  | '/' :: _ => return ⟨none, [], ← readTarget s⟩
  | _ =>
    match ← scheme? s with
    | none =>
      let authority := s.takeWhile fun c => !endsAuthority c
      checkAuthority authority
      if authority.length < s.length then
        throw .format
      return ⟨none, authority, []⟩
    | some (scheme, rest) =>
      let authority := rest.takeWhile fun c => !endsAuthority c
      checkAuthority authority
      if authority.isEmpty then
        throw .format
      return ⟨some scheme, authority, ← readTarget (rest.drop authority.length)⟩

/-- The schemes that have a port of their own. -/
def knownSchemes : List Text :=
  ["http".toList, "https".toList, "socks4".toList, "socks4a".toList, "socks5".toList]

/-- Whether a request can be sent to an address. -/
def checkRequest (u : Url) : Except Problem Unit :=
  match u.scheme with
  | none => .error (.noScheme (u.authority ++ u.target))
  | some scheme => if knownSchemes.contains scheme then .ok () else .error (.unknownScheme scheme)

end Url

end DocPreview.Diagram
