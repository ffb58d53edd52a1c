import ToolPlugins.FileTree.Path

/-!
The five artifacts of a plugin: a definition for each side, a form for the parameters, a summary of
them, and a help page.
-/

namespace ToolPlugins

/-- The kinds of artifact, in the order in which they are made. -/
inductive ArtifactKind where
  | clientDefinition
  | workerDefinition
  | paramsTemplate
  | showTemplate
  | helpTemplate
  deriving DecidableEq, Repr

namespace ArtifactKind

/-- Every kind, in order. -/
def all : List ArtifactKind :=
  [clientDefinition, workerDefinition, paramsTemplate, showTemplate, helpTemplate]

def name : ArtifactKind → String
  | clientDefinition => "client-definition"
  | workerDefinition => "worker-definition"
  | paramsTemplate => "params-template"
  | showTemplate => "show-template"
  | helpTemplate => "help-template"

/-- Where an artifact stands below the directory of a plugin with the given file name. -/
def exportPath (kind : ArtifactKind) (fileName : String) : Path :=
  match kind with
  | clientDefinition => Path.join "client" (fileName ++ ".task")
  | workerDefinition => Path.join "worker" (fileName ++ ".task")
  | paramsTemplate => Path.join "views" "_task_params.html"
  | showTemplate => Path.join "views" "_show_params.html"
  | helpTemplate => Path.join (Path.join "views" "public") "edit_params_help.html"

end ArtifactKind

/-- The views of a task. -/
inductive ViewKind where
  | taskParams
  | showParams
  | help
  deriving DecidableEq, Repr

/-- The artifact that holds the body of a view. -/
def ViewKind.artifact : ViewKind → ArtifactKind
  | taskParams => .paramsTemplate
  | showParams => .showTemplate
  | help => .helpTemplate

/-- The bodies of the five artifacts of a plugin. -/
structure Artifacts where
  client : String
  worker : String
  params : String
  summary : String
  help : String
  deriving DecidableEq, Repr

namespace Artifacts

def body (a : Artifacts) : ArtifactKind → String
  | .clientDefinition => a.client
  | .workerDefinition => a.worker
  | .paramsTemplate => a.params
  | .showTemplate => a.summary
  | .helpTemplate => a.help

/-- The artifacts with their kinds, in order. -/
def list (a : Artifacts) : List (ArtifactKind × String) :=
  ArtifactKind.all.map fun kind => (kind, a.body kind)

end Artifacts

end ToolPlugins
