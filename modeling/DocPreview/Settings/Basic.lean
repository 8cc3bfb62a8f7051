import DocPreview.Diagram.Server

/-!
# Settings

What can be set: the server that renders diagrams, how long to wait for it, whether diagrams are
rendered at all, and whether code is highlighted. Some of it can be given anew for one run, which
counts more than what was set before.

## Main definitions

* `Settings`, `Overrides`, `Settings.override`: settings, and what counts more than they do.
* `Violation`, `Settings.violation?`: what is wrong with settings.
-/

namespace DocPreview

open Text

/-- The settings of the library. -/
structure Settings where
  /-- The address of the server that renders diagrams. -/
  serverUrl : Text
  /-- How many seconds to wait for the server; there is no limit if it is absent. -/
  timeoutSecs : Option Nat
  /-- Whether diagrams are rendered. -/
  isRendering : Bool
  /-- Whether code is highlighted. -/
  isHighlighting : Bool
  deriving Repr, DecidableEq

/-- The parts of the settings that are given for one run. -/
structure Overrides where
  serverUrl : Option Text
  timeoutSecs : Option Nat
  isRendering : Option Bool
  isHighlighting : Option Bool
  deriving Repr, DecidableEq

/-- Nothing is given for one run. -/
def Overrides.none : Overrides := ⟨.none, .none, .none, .none⟩

/-- What is wrong with settings. -/
inductive Violation where
  | emptyUrl
  /-- The address of the server is none of the web. -/
  | urlScheme
  | zeroTimeout
  deriving Repr, DecidableEq

/-- The words for a violation. -/
def Violation.message : Violation → String
  | emptyUrl => "diagrams.server_url cannot be empty"
  | urlScheme => "diagrams.server_url must start with http:// or https://"
  | zeroTimeout => "diagrams.timeout_secs must be greater than 0"

namespace Settings

/-- What holds if nothing is set. -/
def standard : Settings := ⟨Diagram.Server.defaultUrl, none, true, true⟩

/-- Settings with those for one run in their place. -/
def override (s : Settings) (o : Overrides) : Settings where
  serverUrl := o.serverUrl.getD s.serverUrl
  timeoutSecs := o.timeoutSecs.orElse fun _ => s.timeoutSecs
  isRendering := o.isRendering.getD s.isRendering
  isHighlighting := o.isHighlighting.getD s.isHighlighting

/-- Whether an address is one of the web. -/
def isWebUrl (url : Text) : Bool :=
  (after? "http://".toList url).isSome || (after? "https://".toList url).isSome

/-- What is wrong with settings, if anything is. -/
def violation? (s : Settings) : Option Violation :=
  if s.serverUrl.isEmpty then some .emptyUrl
  else if !isWebUrl s.serverUrl then some .urlScheme
  else if s.timeoutSecs = some 0 then some .zeroTimeout
  else none

end Settings

end DocPreview
