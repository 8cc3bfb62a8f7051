import DocPreview.Settings.Basic

/-!
# Arguments of a command

The first argument names the command. The others are the path of the document and options, which
start with one minus and a letter or with two and a name. An option can stand once. One that takes a
value finds it after an equals sign, in the rest of its argument, or in the next argument if that
does not start with a minus. After two minuses alone, no argument is an option.

## Main definitions

* `Job`, `Setting`, `Setting.ofJob`: the commands, and the options of each.
* `Refusal`: why arguments are no command.
* `Invocation`, `Invocation.ofArguments`: what arguments ask for.
-/

namespace DocPreview.Command

open Text

/-- What can be asked for. -/
inductive Job where
  /-- The message for the host. -/
  | render
  /-- The code of a document. -/
  | compile
  /-- A document with its diagrams replaced. -/
  | diagrams
  deriving Repr, DecidableEq

/-- The job of a name. -/
def Job.ofName? (name : Text) : Option Job :=
  if name = "render".toList then some .render
  else if name = "compile".toList then some .compile
  else if name = "diagrams".toList then some .diagrams
  else none

/-- What an option sets. -/
inductive Setting where
  | settingsFile
  | output
  | serverUrl
  | timeoutSecs
  | noDiagrams
  | noHighlight
  | verbose
  deriving Repr, DecidableEq

namespace Setting

/-- Whether an option takes a value. -/
def takesValue : Setting → Bool
  | settingsFile | output | serverUrl | timeoutSecs => true
  | noDiagrams | noHighlight | verbose => false

/-- The long name of an option. -/
def name : Setting → String
  | settingsFile => "config"
  | output => "output"
  | serverUrl => "server-url"
  | timeoutSecs => "timeout-secs"
  | noDiagrams => "no-diagrams"
  | noHighlight => "no-highlight"
  | verbose => "verbose"

/-- The letter of an option. -/
def letter? : Setting → Option Char
  | settingsFile => some 'c'
  | output => some 'o'
  | verbose => some 'v'
  | serverUrl | timeoutSecs | noDiagrams | noHighlight => none

/-- The options of a job. -/
def ofJob : Job → List Setting
  | .render => [settingsFile, serverUrl, timeoutSecs, noDiagrams, noHighlight, output, verbose]
  | .compile => [settingsFile, noHighlight, output, verbose]
  | .diagrams => [settingsFile, serverUrl, timeoutSecs, output, verbose]

/-- The option of a job with a long name. -/
def ofName? (j : Job) (name : Text) : Option Setting :=
  (ofJob j).find? fun s => s.name.toList = name

/-- The option of a job with a letter. -/
def ofLetter? (j : Job) (c : Char) : Option Setting :=
  (ofJob j).find? fun s => s.letter? = some c

end Setting

/-- Why arguments are no command. -/
inductive Refusal where
  /-- Help is asked for. -/
  | help
  /-- The version is asked for. -/
  | version
  /-- Arguments cannot be understood. -/
  | misuse
  deriving Repr, DecidableEq

/-- The options and paths that arguments hold. -/
structure Given where
  /-- The options, each with its value, the last one first. -/
  options : List (Setting × Text)
  document : Option Text
  deriving Repr, DecidableEq

namespace Given

/-- The value of an option. -/
def value? (g : Given) (s : Setting) : Option Text := g.options.lookup s

/-- Whether an option is there. -/
def has (g : Given) (s : Setting) : Bool := (g.value? s).isSome

end Given

/-- The largest number of 64 bits. -/
def largestNumber : Nat := Nat.pow 2 64 - 1

/-- A number of 64 bits in decimal digits, which can have a plus before them. -/
def numberOf? (s : Text) : Option Nat :=
  let digits := (after? ['+'] s).getD s
  if digits.isEmpty || !digits.all Char.isDigit then none
  else
    let n := digits.foldl (fun n c => 10 * n + (c.toNat - '0'.toNat)) 0
    if n ≤ largestNumber then some n else none

/-- Whether a text can be the value of an option. -/
def Setting.accepts : Setting → Text → Bool
  | settingsFile, v | output, v => !v.isEmpty
  | timeoutSecs, v => (numberOf? v).isSome
  | _, _ => true

/-- What is given, with one more option. -/
def Given.add (g : Given) (s : Setting) (v : Text) : Except Refusal Given :=
  if g.has s || !s.accepts v then .error .misuse else .ok { g with options := (s, v) :: g.options }

/-- What is given, with a path. -/
def Given.addDocument (g : Given) (v : Text) : Except Refusal Given :=
  if g.document.isSome || v.isEmpty then .error .misuse else .ok { g with document := some v }

/-- Whether an argument stands for itself. -/
def isPlain (v : Text) : Bool := v = ['-'] || v.head? ≠ some '-'

/-- A name and what follows its equals sign. -/
def splitValue : Text → Text × Option Text
  | [] => ([], none)
  | c :: r => if c = '=' then ([], some r) else (splitValue r).map (c :: ·) id

/-- Adds an option with a long name; it can take the next argument for its value. The arguments left
are given. -/
def longOption (j : Job) (g : Given) (option : Text) (rest : List Text) :
    Except Refusal (Given × List Text) :=
  let (name, attached) := splitValue option
  match Setting.ofName? j name with
  | none =>
    if name = "help".toList && attached.isNone then .error .help else .error .misuse
  | some s =>
    match s.takesValue, attached, rest with
    | false, none, _ => (g.add s []).map (·, rest)
    | false, some _, _ => .error .misuse
    | true, some v, _ => (g.add s v).map (·, rest)
    | true, none, v :: rest => if isPlain v then (g.add s v).map (·, rest) else .error .misuse
    | true, none, [] => .error .misuse

/-- Adds options with letters; the last one can take the next argument for its value. The arguments
left are given. -/
def letterOptions (j : Job) (g : Given) : Text → List Text → Except Refusal (Given × List Text)
  | [], rest => .ok (g, rest)
  | c :: letters, rest =>
    match Setting.ofLetter? j c with
    | none => if c = 'h' then .error .help else .error .misuse
    | some s =>
      if s.takesValue then
        match letters, rest with
        | _ :: _, _ => (g.add s ((after? ['='] letters).getD letters)).map (·, rest)
        | [], v :: rest => if isPlain v then (g.add s v).map (·, rest) else .error .misuse
        | [], [] => .error .misuse
      else
        match g.add s [] with
        | .ok g => letterOptions j g letters rest
        | .error r => .error r

/-- What arguments give. Each one is an option or a path; `fuel` bounds their number. -/
def givenWithin (j : Job) : Nat → Given → List Text → Except Refusal Given
  | 0, _, _ => .error .misuse
  | _ + 1, g, [] => .ok g
  | fuel + 1, g, v :: rest =>
    if v = ['-', '-'] then rest.foldlM Given.addDocument g
    else if isPlain v then do givenWithin j fuel (← g.addDocument v) rest
    else do
      let (g, rest) ← match after? ['-', '-'] v with
        | some option => longOption j g option rest
        | none => letterOptions j g (v.drop 1) rest
      givenWithin j fuel g rest

/-- What the arguments of a job give. -/
def given (j : Job) (arguments : List Text) : Except Refusal Given :=
  givenWithin j (arguments.length + 1) ⟨[], none⟩ arguments

/-- What is asked for. -/
structure Invocation where
  job : Job
  /-- The path of the document. -/
  document : Text
  /-- The path of the file with settings. -/
  settingsFile : Option Text
  /-- The path of the file for the result. -/
  output : Option Text
  overrides : Overrides
  isVerbose : Bool
  deriving Repr, DecidableEq

/-- What is asked for by what is given. A compiled document keeps its diagrams, and a document whose
diagrams are asked for has them rendered whatever the settings say. -/
def Invocation.ofGiven (j : Job) (g : Given) (document : Text) (serverUrl : Option Text) :
    Invocation where
  job := j
  document := document
  settingsFile := g.value? .settingsFile
  output := g.value? .output
  overrides := {
    serverUrl := match j with
      | .compile => none
      | .render | .diagrams => (g.value? .serverUrl).orElse fun _ => serverUrl
    timeoutSecs := (g.value? .timeoutSecs).bind numberOf?
    isRendering := match j with
      | .render => if g.has .noDiagrams then some false else none
      | .compile => some false
      | .diagrams => some true
    isHighlighting := if g.has .noHighlight then some false else none }
  isVerbose := g.has .verbose

/-- What arguments ask for. `serverUrl` is the address of the server that is used if none is
given. -/
def Invocation.ofArguments (serverUrl : Option Text) : List Text → Except Refusal Invocation
  | [] => .error .misuse
  | name :: arguments =>
    match Job.ofName? name with
    | some j => do
      let g ← given j arguments
      match g.document with
      | some document => return .ofGiven j g document serverUrl
      | none => throw .misuse
    | none =>
      let asks (letter : Char) (word : String) : Bool :=
        name = "--".toList ++ word.toList || (after? ['-', letter] name).isSome
      if name = "help".toList || asks 'h' "help" then .error .help
      else if asks 'V' "version" then .error .version
      else .error .misuse

end DocPreview.Command
