import DocPreview.Text.Basic
import DocPreview.Text.Unicode

/-!
# Addresses in a text

Web addresses and mail addresses are links without any markup. A web address starts with a
protocol or with `www.`, has a domain without underscores in its last two parts, and does not end
in punctuation. A mail address is found by its `@`.

## Main definitions

* `protocolLink?`, `wwwLink?`: the web address that a text starts with.
* `splitMail`: a text cut at its mail addresses.
-/

namespace DocPreview.Markup.Autolink

open Text

/-- Letters of ASCII. -/
def isLetter (c : Char) : Bool := ('a' ≤ c && c ≤ 'z') || ('A' ≤ c && c ≤ 'Z')

/-- The reading of punctuation that may end an address. -/
inductive Trail where
  | plain
  /-- After `&`. -/
  | referenceStart
  | reference
  deriving Repr, DecidableEq

/-- Whether a text starts with nothing but punctuation up to where an address ends anyway. -/
def isTrail : Trail → Text → Bool
  | .plain, [] => true
  | _, [] => false
  | .plain, c :: r =>
    if ['!', '"', '\'', ')', '*', ',', '.', ':', ';', '?', '_', '~'].contains c then
      isTrail .plain r
    else if c = '&' then isTrail .referenceStart r
    else if c = '<' then true
    else if c = ']' then
      match r with
      | [] => true
      | d :: _ => ['\t', '\n', '\r', ' ', '(', '['].contains d || isTrail .plain r
    else isBlank c
  | .referenceStart, c :: r => isLetter c && isTrail .reference r
  | .reference, c :: r => if c = ';' then isTrail .plain r else isLetter c && isTrail .reference r

/-- The number of characters of the domain that a text starts with. The flags tell whether the
last part and the one before it have an underscore, and whether the domain has a letter. -/
def domainLength? (last before seen : Bool) : Text → Option Nat
  | [] => if last || before || !seen then none else some 0
  | c :: r =>
    let ends := if last || before || !seen then none else some 0
    if c = '.' || c = '_' then
      if isTrail .plain (c :: r) then ends
      else if c = '_' then (domainLength? true before seen r).map (· + 1)
      else (domainLength? false last seen r).map (· + 1)
    else if c = '-' then (domainLength? last before seen r).map (· + 1)
    else if isBlank c || Unicode.isPunctuation c then ends
    else (domainLength? last before true r).map (· + 1)

/-- The number of characters of the path that a text starts with, given the numbers of opening
and closing parentheses before. -/
def pathLength (opened closed : Nat) : Text → Nat
  | [] => 0
  | c :: r =>
    if c = '(' then pathLength (opened + 1) closed r + 1
    else if ['!', '"', '&', '\'', ')', '*', ',', '.', ':', ';', '<', '?', ']', '_', '~'].contains c
    then
      if isTrail .plain (c :: r) && !(c = ')' && closed < opened) then 0
      else pathLength opened (if c = ')' then closed + 1 else closed) r + 1
    else if isBlank c then 0
    else pathLength opened closed r + 1

/-- The number of characters of a domain and a path. -/
def addressLength? (s : Text) : Option Nat := do
  let n ← domainLength? false false false s
  return n + pathLength 0 0 (s.drop n)

/-- The number of characters of the address with a protocol that a text starts with. -/
def protocolLink? (previous : Option Char) (s : Text) : Option Nat := do
  if previous.any isLetter then none
  let lower := (s.take 8).map Char.toLower
  let n ←
    if (after? "http://".toList lower).isSome then some 7
    else if (after? "https://".toList lower).isSome then some 8
    else none
  return n + (← addressLength? (s.drop n))

/-- The characters before which `www.` can start an address. -/
def startsWww (previous : Option Char) : Bool :=
  match previous with
  | none => true
  | some c => ['\t', '\n', '\r', ' ', '(', '*', '_', '[', ']', '~'].contains c

/-- The number of characters of the address with `www.` that a text starts with. -/
def wwwLink? (previous : Option Char) (s : Text) : Option Nat := do
  if !startsWww previous then none
  let rest ← after? "www.".toList ((s.take 4).map Char.toLower)
  if !rest.isEmpty || (s.drop 4).isEmpty then none
  addressLength? s

/-- A part of a text cut at its mail addresses. -/
inductive MailPart where
  | text (s : Text)
  | link (url shown : Text)
  deriving Repr, DecidableEq

/-- The characters of the name before the `@`. -/
def isNamePart (c : Char) : Bool :=
  isLetter c || c.isDigit || c = '+' || c = '-' || c = '.' || c = '_'

/-- The number of characters of the domain that a text starts with after an `@`. `previous` is the
character before, and `dotted` tells whether there was a dot. -/
def mailDomain (slashes : Bool) (previous : Char) (dotted : Bool) : Text → Option Nat
  | [] => if dotted && isLetter previous then some 0 else none
  | c :: r =>
    if isLetter c || c.isDigit || c = '-' || c = '_' || (slashes && c = '/') then
      (mailDomain slashes c dotted r).map (· + 1)
    else if c = '.' && r.head?.any fun d => isLetter d || d.isDigit then
      (mailDomain slashes c true r).map (· + 1)
    else if dotted && isLetter previous then some 0
    else none

/-- The mail address around an `@`: what stands before it, the last character first, without the
name, the protocol and the name, and the length of the domain. -/
def mailAt? (before after : Text) : Option (Text × Text × Text × Nat) := do
  let name := before.takeWhile isNamePart
  let rest := before.drop name.length
  if name.isEmpty || rest.head? = some '/' then none
  let (protocol, start) :=
    match rest with
    | ':' :: r =>
      let word := r.takeWhile fun c => isLetter c || c.isDigit
      let lower := word.reverse.map Char.toLower
      if lower = "mailto".toList || lower = "xmpp".toList then
        (word.reverse ++ [':'], r.drop word.length)
      else ([], rest)
    | _ => ([], rest)
  let slashes := (protocol.map Char.toLower) = "xmpp:".toList
  let n ← mailDomain slashes '@' false after
  return (start, protocol, name.reverse, n)

/-- A text cut at its mail addresses; `skip` counts the characters that are parts of an address
already found, and `before` holds the text since the last address, the last character first. -/
def splitMailFrom (before : Text) : Nat → Text → List MailPart
  | _, [] => if before.isEmpty then [] else [.text before.reverse]
  | n + 1, _ :: r => splitMailFrom before n r
  | 0, c :: r =>
    if c = '@' then
      match mailAt? before r with
      | some (start, protocol, name, n) =>
        let shown := protocol ++ name ++ '@' :: r.take n
        let url := if protocol.isEmpty then "mailto:".toList ++ shown else shown
        (if start.isEmpty then [] else [.text start.reverse]) ++
          .link url shown :: splitMailFrom [] n r
      | none => splitMailFrom (c :: before) 0 r
    else splitMailFrom (c :: before) 0 r

/-- A text cut at its mail addresses. -/
def splitMail (s : Text) : List MailPart := splitMailFrom [] 0 s

end DocPreview.Markup.Autolink
