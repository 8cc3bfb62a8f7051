import DocPreview.Diagram.Substitution
import DocPreview.Diagram.Url

/-!
# Rendering servers

A rendering server takes the source of a diagram at an address made of the server's address, the
dialect's endpoint and the format `svg`, and answers with the image. How a request is sent is a
parameter, `Transport`: what is decided here is the address, whether a request can be sent to it,
and how an answer is read. An image in SVG may start with a declaration of XML, which a page must
not hold in its middle.
-/

namespace DocPreview.Diagram

open Text

/-! ### Images -/

/-- The longest start of a text that has no `>` before its last `?` and ends with that `?`, if a
`>` follows it: what is left of a declaration after `<?xml`. -/
def declarationRest? (s : Text) : Option Text := do
  let inner := s.takeWhile (· ≠ '>')
  match inner.reverse, s.drop inner.length with
  | '?' :: _, '>' :: rest => some rest
  | _, _ => none

/-- A text without the first declaration of XML in it. -/
def removeDeclaration : Text → Text
  | [] => []
  | c :: r =>
    match (after? "<?xml".toList (c :: r)).bind declarationRest? with
    | some rest => rest
    | none => c :: removeDeclaration r

/-- An image without its declaration of XML, trimmed. -/
def stripDeclaration (svg : Text) : Text := trim (removeDeclaration svg)

/-! ### Requests -/

/-- The answer to a request. -/
structure Response where
  status : Nat
  /-- The body, or why it cannot be read. -/
  body : Except String Text

/-- An answer read as an image. -/
def Response.image (r : Response) : Except Failure String :=
  if 200 ≤ r.status && r.status < 300 then
    match r.body with
    | .ok body => .ok (String.ofList (stripDeclaration body))
    | .error reason => .error (.io reason)
  else
    match r.body with
    | .ok body => .error (.status r.status (String.ofList (trim body)))
    | .error _ => .error (.status r.status "(unable to read error body)")

/-- Sends a text to an address. -/
abbrev Transport := Text → Text → Except String Response

/-- The transport of a machine without a network. -/
def Transport.offline : Transport := fun _ _ => .error "network is unreachable"

/-- A rendering server. -/
structure Server where
  /-- The address of the server, without slashes at its end. -/
  url : Text
  deriving Repr, DecidableEq

namespace Server

/-- The address of the server that is used unless another one is given. -/
def defaultUrl : Text := "https://kroki.io".toList

/-- The server at an address. -/
def ofUrl (url : Text) : Server := ⟨dropEndWhile (· = '/') url⟩

/-- The address to which the sources of a dialect are sent. -/
def endpointUrl (s : Server) (d : Dialect) : Text :=
  s.url ++ '/' :: d.endpoint.toList ++ "/svg".toList

/-- Renders through the server. -/
def render (transport : Transport) (s : Server) : Renderer := fun d source =>
  let url := s.endpointUrl d
  match Url.parse url >>= Url.checkRequest with
  | .error problem => .error (.http problem.message)
  | .ok () =>
    match transport url source with
    | .error reason => .error (.http reason)
    | .ok response => response.image

end Server

end DocPreview.Diagram
