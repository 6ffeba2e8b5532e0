import DeepCopy.Command.Session
import DeepCopy.Command.Usage
import DeepCopy.Project.Rendering
import DeepCopy.Schema.Config
import DeepCopy.Schema.Descriptor
import DeepCopy.Schema.Plan
import DeepCopy.Text.Blank

/-!
# Commands

What the commands do. The first argument of a command that reads descriptors is the path of the
document; an option takes the argument after its first mention.

## Main definitions

* `option?`, `input`, `configuration`: what the arguments of a command say
* `Issue`, `issues`: the types of a document that are not fit to be compiled
* `compile`, `render`, `check`, `config`, `schema`: the commands
* `run`: what is left of a session with some arguments
-/

namespace DeepCopy.Command

open Document (Tree)

variable {m : Type → Type} [Monad m]

/-! ## Arguments -/

/-- The argument after the first mention of an option, by its long name or its short one. -/
def option? (long short : String) (args : List String) : Option String :=
  (args.dropWhile fun a => a != long && a != short)[1]?

/-- The document that the first argument names. -/
def input (files : Files m) (usage : String) (args : List String) : Session m String :=
  match args with
  | path :: _ =>
    if path.toList.head? = some '-' then throw (.request usage)
    else ask do return (← files.readText path).mapError .file
  | [] => throw (.request usage)

/-- The configuration that the arguments name, or the one that counts in the working directory. -/
def configuration (files : Files m) (args : List String) : Session m Config :=
  match option? "--config" "-c" args with
  | some path => ask do return (← Config.load files path).mapError ConfigError.failure
  | none => ask do
    match ← Config.discover files "." with
    | .ok c => return .ok (c.getD {})
    | .error e => return .error e.failure

/-- The target that the arguments name. -/
def targetOption (args : List String) : Except Failure (Option Target) :=
  match option? "--lang" "-l" args with
  | none => .ok none
  | some name =>
    match Target.ofName? name with
    | some t => .ok (some t)
    | none => .error (.request ("Unknown language: " ++ name))

/-! ## Compiling -/

/-- The lines that show a plan. -/
def planLines (p : Plan) : List String :=
  (p.fqn ++ " (" ++ p.names.fast ++ " / " ++ p.names.safe ++ ")") ::
    (p.assignments .fast).map fun
      | .cloned m => "  " ++ m.name ++ ": " ++ m.accessor.display
      | .kept name => "  " ++ name ++ ": copy (ignored)"

/-- Prints the plans of a document. -/
def compile (files : Files m) (args : List String) : Session m Unit := do
  let text ← input files "Usage: cloneplan compile <types.yaml> [--json]" args
  let c ← configuration files args
  let ps ← done (plansOf c.compile text)
  if args.contains "--json" then print (Json.pretty 0 (.list (ps.map Plan.tree)))
  else (ps.flatMap planLines).forM print

/-! ## Rendering -/

/-- Puts a unit in the output directory, or prints it where there is none. -/
def deliver (files : Files m) (dir? : Option String) (u : RenderedUnit) : Session m Unit :=
  match dir? with
  | none => print u.content
  | some dir => do
    let path := Path.join dir u.fileName
    ask do return (← files.makeDirectories dir).mapError .file
    ask do return (← files.writeText path u.content).mapError .file
    note ("Written to: " ++ path)

/-- Renders the plans of a document for one target after the other. -/
def render (files : Files m) (now : String) (args : List String) : Session m Unit := do
  let usage := "Usage: cloneplan render <types.yaml> [--lang csharp|typescript] [--output DIR]"
  let text ← input files usage args
  let c ← configuration files args
  let targets := match ← done (targetOption args) with
    | some t => [t]
    | none => c.render.targets
  let ps ← done (plansOf c.compile text)
  targets.forM fun t => do
    let us ← ask (c.units files now t ps)
    us.forM (deliver files (option? "--output" "-o" args))

/-! ## Checking -/

/-- A type that is not fit to be compiled. -/
structure Issue where
  typeName : String
  flaws : List Flaw
  deriving DecidableEq

/-- The types that are not fit to be compiled. -/
def issues (ds : List Descriptor) : List Issue :=
  (ds.map fun d => ⟨d.name, d.flaws⟩).filter fun i => !i.flaws.isEmpty

/-- The tree of an issue. -/
def Issue.tree (i : Issue) : Tree :=
  .record [("errors", .list (i.flaws.map fun f => .text f.message)), ("type", .text i.typeName)]

/-- The lines that show an issue. -/
def Issue.lines (i : Issue) : List String :=
  i.flaws.map fun f => "✗ " ++ i.typeName ++ ": " ++ f.message

/-- What a check of some descriptors prints. -/
def report (json : Bool) (ds : List Descriptor) : List String :=
  let is := issues ds
  if json then
    [Json.pretty 0
      (.record
        [("issues", .list (is.map Issue.tree)), ("types", .integer ds.length),
          ("valid", .bool is.isEmpty)])]
  else if is.isEmpty then ["✓ " ++ toString ds.length ++ " type(s) valid"]
  else is.flatMap Issue.lines

/-- Prints what keeps the types of a document from being compiled. -/
def check (files : Files m) (args : List String) : Session m Unit := do
  let text ← input files "Usage: cloneplan check <types.yaml> [--json]" args
  let ds ← done ((Descriptor.readAll text).mapError .descriptors)
  (report (args.contains "--json") ds).forM print
  let is := issues ds
  if !is.isEmpty then throw (.request (toString is.length ++ " invalid type(s)"))

/-! ## Configurations and schemas -/

/-- Prints the configuration that counts. -/
def config (files : Files m) (args : List String) : Session m Unit := do
  let c ← configuration files args
  print (String.ofList (c.yaml.toList.reverse.dropWhile Text.isBlank).reverse)

/-- Prints the schema of a kind of documents, or the names of those there are. -/
def schema (args : List String) : Session m Unit :=
  match args.headD "list" with
  | "list" => print "Available schemas: descriptor, plan, config"
  | "descriptor" => print (Json.pretty 0 Schema.descriptor)
  | "plan" => print (Json.pretty 0 Schema.plan)
  | "config" => print (Json.pretty 0 Schema.config)
  | name => throw (.request ("Unknown schema: " ++ name))

/-! ## All commands -/

/-- Does what a command says. -/
def perform (files : Files m) (now name : String) (args : List String) : Session m Unit :=
  match name with
  | "compile" => compile files args
  | "render" => render files now args
  | "check" => check files args
  | "config" => config files args
  | "schema" => schema args
  | "version" | "--version" | "-v" => print version
  | "help" | "--help" | "-h" => print usage
  | name => do
    note ("Unknown command: " ++ name)
    print usage
    throw (.request "Unknown command")

/-- What is left of a session with some arguments. -/
def run (files : Files m) (now : String) : List String → m Outcome
  | [] => return { out := usage ++ "\n", status := 1 }
  | name :: args => (perform files now name args).outcome

end DeepCopy.Command
