import Critique.CommandLine.Command
import Critique.Http.Host
import Critique.Service.Router
import Critique.Settings.Discovery

/-!
# Running commands

What a command prints and how it ends. An analysis succeeds even if files cannot be read, and fails
where the risk of some file reaches its threshold; a command that cannot be carried out at all ends
with a code of its own.
-/

namespace Critique.CommandLine

structure Surroundings where
  tree : Tree
  /-- The folder that paths are told from. -/
  folder : Text
  environment : Environment

structure Outcome where
  exit : Nat
  output : Text
  /-- What is printed beside the output. -/
  complaints : List Text
  deriving DecidableEq, Repr

namespace Outcome

def success : Nat := 0

/-- A file reaches the threshold. -/
def risk : Nat := 1

/-- The command cannot be carried out. -/
def failure : Nat := 2

def failing (complaint : Text) : Outcome := ⟨failure, [], [complaint]⟩

end Outcome

/-- Output has colours only where the environment asks for them. -/
def hasColours (environment : Environment) : Bool :=
  (environment "CLICOLOR_FORCE").any (· != ['0'])

def complaint (colours : Bool) (message : Text) : Text :=
  Style.paint colours (.strong .red) "Error" ++ ": " ++ message

namespace Surroundings

def colours (here : Surroundings) : Bool := hasColours here.environment

/-- The settings of a file that is named, or of the nearest one, and of the environment. -/
def settings (here : Surroundings) (named : Option Text) : Except Settings.Failure Settings :=
  (Settings.discover here.tree here.folder named here.folder).map
    (·.withEnvironment here.environment)

end Surroundings

/-! ## Analyses -/

/-- Whether the assessment of a file fails an analysis. One without findings never does. -/
def Threshold.fails (threshold : Threshold) (assessment : Assessment) : Bool :=
  threshold.level?.any fun level =>
    0 < assessment.risk.total && level.rank ≤ assessment.risk.level.rank

def Threshold.failsAny (threshold : Threshold) (files : List FileAssessment) : Bool :=
  files.any fun file => threshold.fails file.assessment

namespace Analysis

/-- Whether a file in a folder is analyzed. -/
def takes (language : Option Text) (path : Text) : Bool :=
  language.isSome || (Language.ofPath? path).isSome

/-- The files that a path stands for: those of a folder and of all folders in it, or else itself. -/
def filesOf (tree : Tree) (folder : Text) (language : Option Text) (path : Text) : List Text :=
  match tree.at? folder path with
  | .ok (.folder entries) => (Tree.filesIn path entries).filter (takes language)
  | _ => [path]

def files (analysis : Analysis) (here : Surroundings) : List Text :=
  analysis.paths.flatMap (filesOf here.tree here.folder analysis.language)

def assess (analysis : Analysis) (here : Surroundings) (settings : Settings) (path : Text) :
    Except FileFault FileAssessment :=
  (Catalog.all.without settings.disabledRules).assessFile analysis.kind here.tree here.folder
    analysis.language path

def assessed? : Except FileFault FileAssessment → Option FileAssessment
  | .ok file => some file
  | .error _ => none

def fault? : Except FileFault FileAssessment → Option FileFault
  | .ok _ => none
  | .error fault => some fault

/-- The files that could be assessed, in the order of their paths. -/
def sorted (results : List (Except FileFault FileAssessment)) : List FileAssessment :=
  (results.filterMap assessed?).mergeSort fun a b => Path.precedes a.path b.path

def noFiles : Text := "No source files found to analyze."

/-- What comes of the files of an analysis. -/
def conclude (analysis : Analysis) (colours : Bool)
    (results : List (Except FileFault FileAssessment)) : Outcome where
  exit := if analysis.threshold.failsAny (sorted results) then Outcome.risk else Outcome.success
  output := Listing.files colours analysis.kind analysis.format (sorted results)
  complaints := (results.filterMap fault?).map fun fault => complaint colours fault.message

def run (analysis : Analysis) (here : Surroundings) : Outcome :=
  match here.settings analysis.settingsFile with
  | .error failure => .failing (complaint here.colours failure.message)
  | .ok settings =>
    let files := analysis.files here
    if files.isEmpty then
      ⟨Outcome.success, [], [Style.paint here.colours (.plain .yellow) noFiles]⟩
    else analysis.conclude here.colours (files.map (analysis.assess here settings))

end Analysis

/-! ## Services -/

namespace Launch

/-- The settings that a service is started with. The port that is named goes before all others. -/
def settings (launch : Launch) (here : Surroundings) : Except Settings.Failure Settings := do
  let settings ← here.settings launch.settingsFile
  return { settings with
    server := { settings.server with port := launch.port.getD settings.server.port } }

def addressOf (server : Server) : Text := server.host ++ ':' :: Text.ofNat server.port

/-- A service listens nowhere: its requests are answered by `Service.answer`. -/
def run (launch : Launch) (here : Surroundings) : Outcome :=
  match launch.settings here with
  | .error failure => .failing (complaint here.colours failure.message)
  | .ok settings =>
    let address := addressOf settings.server
    let problem : Text :=
      if Http.Host.isAddress settings.server.host then "cannot listen on " else
        "invalid listen address "
    .failing (complaint here.colours (problem ++ address))

end Launch

/-! ## All commands -/

namespace Command

def programName : Text := "code-sensei"

def release : Text := "0.1.0"

def usage : List Text := [
  "Usage: " ++ programName ++ " analyze [OPTIONS] PATHS...",
  "       " ++ programName ++ " serve [--config FILE] [--port PORT]",
  "",
  "Options of analyze:",
  "  -k, --kind review|bugs|optimize",
  "  -l, --language LANGUAGE",
  "  -f, --format pretty|json|compact|markdown",
  "      --fail-on high|medium|low|never",
  "  -c, --config FILE"]

def settingsPlaces (folder : Text) : Option Text → List Text
  | some path => [path]
  | none => Settings.candidates folder

/-- The places in the tree that a command looks at. -/
def places (folder : Text) : Command → List Text
  | .analyze analysis => settingsPlaces folder analysis.settingsFile ++ analysis.paths
  | .serve launch => settingsPlaces folder launch.settingsFile
  | .version | .help => []

def run (here : Surroundings) : Command → Outcome
  | .analyze analysis => analysis.run here
  | .serve launch => launch.run here
  | .version => ⟨Outcome.success, Text.line (programName ++ ' ' :: release), []⟩
  | .help => ⟨Outcome.success, Text.unlines usage, []⟩

end Command

/-- The variables of the environment that commands look at. -/
def variableNames : List Text :=
  ["CLICOLOR_FORCE", Environment.portVariable, Environment.switchVariable]

/-- The places in the tree that the command of some words looks at. -/
def places (folder : Text) (words : List Text) : List Text :=
  match Command.parse words with
  | .ok command => command.places folder
  | .error _ => []

def run (here : Surroundings) (words : List Text) : Outcome :=
  match Command.parse words with
  | .ok command => command.run here
  | .error misuse => .failing (complaint here.colours misuse.message)

end Critique.CommandLine
