import TypedUrls.Discovery.Endpoints
import TypedUrls.Discovery.Pages
import TypedUrls.UrlHelpers.Endpoints
import TypedUrls.UrlHelpers.Pages

/-!
# A generation run

A run discovers the endpoint family and then the page family, and emits one source for each
family that has something to expose. The warnings of a family become diagnostics of that family.
Each family's pass runs isolated (`runFamily`): a pass stopped by a failed read gives one error
diagnostic and no source, and the run goes on. The cancel flag is read before each family; a run
cancelled there keeps what it has and says it was cancelled.
-/

namespace TypedUrls

/-- The two families of URL helpers. -/
inductive Family where
  | endpoints
  | pages
deriving DecidableEq, Repr

namespace Family

/-- The identifier of the family's diagnostics. -/
def diagnosticId : Family → String
  | .endpoints => "RL0001"
  | .pages => "RL0002"

/-- The family's name in messages. -/
def name : Family → String
  | .endpoints => "controller endpoints"
  | .pages => "pages"

end Family

/-- How serious a diagnostic is. -/
inductive Severity where
  | warning
  | error
deriving DecidableEq, Repr

/-- The name of a severity. -/
def Severity.name : Severity → String
  | .warning => "warning"
  | .error => "error"

/-- A message about a run. -/
structure Diagnostic where
  family : Family
  severity : Severity
  message : String
deriving DecidableEq, Repr

/-- A generated source file: its file name and its text. -/
structure Source where
  hintName : String
  text : String
deriving DecidableEq, Repr

/-- What a run gives: the sources (endpoints first), the diagnostics, and whether the run was
cancelled before every family ran. -/
structure Output where
  sources : List Source := []
  diagnostics : List Diagnostic := []
  cancelled : Bool := false
deriving DecidableEq, Repr

namespace Output

/-- The text of the first source with that file name. -/
def source? (o : Output) (hintName : String) : Option String :=
  (o.sources.find? (·.hintName == hintName)).map (·.text)

/-- Whether some diagnostic is an error. -/
def hasErrors (o : Output) : Bool := o.diagnostics.any (·.severity == .error)

/-- The output with a family's warnings and source added. -/
def addFamily (o : Output) (family : Family) (warnings : List GenerationError)
    (source : Option Source) : Output :=
  { o with
    diagnostics := o.diagnostics ++ warnings.map fun e => ⟨family, .warning, e.message⟩
    sources := o.sources ++ source.toList }

end Output

/-- The file name of a family's source. -/
def hintName (config : Config) : Family → String
  | .endpoints => config.emitter.controllersFileName
  | .pages => config.emitter.pagesFileName

/-- The message of the error diagnostic of a family whose pass stopped. The backtrace of the
stop is left empty. -/
def failureMessage (family : Family) (p : Panic) (issueUrl : String) : String :=
  "Generating URL helpers for " ++ family.name ++ " failed: " ++ p.message ++ "\n\n" ++
    "Please report this issue at " ++ issueUrl

/-- Runs a family's pass, isolated: what it gives, its warnings and its source, is added to the
output; a pass that stopped adds one error diagnostic and no source. -/
def runFamily (o : Output) (family : Family) (config : Config)
    (pass : Except Panic (Option String × List GenerationError)) : Output :=
  match pass with
  | .ok (source, warnings) =>
    o.addFamily family warnings (source.map fun text => ⟨hintName config family, text⟩)
  | .error p =>
    { o with
      diagnostics := o.diagnostics ++ [⟨family, .error, failureMessage family p config.issueUrl⟩] }

/-- The endpoint family's pass: the helpers of the endpoint family, when some area has an
endpoint, and the warnings of endpoint discovery. -/
def endpointPass (c : Classifier) : Except Panic (Option String × List GenerationError) := do
  let report ← Discovery.endpoints? c
  pure (if report.areas.isEmpty then none
    else some (UrlHelpers.endpointSource report.areas c.config.emitter), report.warnings)

/-- The page family's pass: the helpers of the page family, when some area has a page, and the
warnings of page discovery. -/
def pagePass (c : Classifier) (templates : List Template) :
    Except Panic (Option String × List GenerationError) := do
  let report ← Discovery.pages? c templates
  pure (if report.areas.isEmpty then none
    else some (UrlHelpers.pageSource report.areas c.config.emitter), report.warnings)

/-- Runs the endpoint family and then the page family, reading the cancel flag before each:
`cancel family` is what the flag says when `family` is about to start. A run cancelled before a
family keeps what the families before it gave. -/
def generateWithCancel (model : Program) (templates : List Template) (config : Config)
    (cancel : Family → Bool) : Output :=
  let c : Classifier := ⟨model, config⟩
  if cancel .endpoints then { cancelled := true }
  else
    let o := runFamily {} .endpoints config (endpointPass c)
    if cancel .pages then { o with cancelled := true }
    else runFamily o .pages config (pagePass c templates)

/-- Runs both families, with a cancel flag that keeps its value through the run. -/
def generate (model : Program) (templates : List Template) (config : Config) (cancel : Bool) :
    Output :=
  generateWithCancel model templates config fun _ => cancel

end TypedUrls
