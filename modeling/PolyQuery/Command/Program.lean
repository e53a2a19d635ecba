import PolyQuery.Command.Help
import PolyQuery.Command.Report
import PolyQuery.Document.Compile
import PolyQuery.Query.Request
import PolyQuery.Schema.Json

namespace PolyQuery

/-!
# Program

What each command does, over any way of reading and writing files. A command
answers the text to write, or the message to fail with.

The settings are those of the project, or else those of the user, or else the
defaults; a settings file that is there but cannot be read is an error.
-/

/-- The text of a file, or why there is none. -/
inductive FileText where
  | text (content : String)
  | failed (reason : String)

/-- Access to files. -/
structure FileAccess
    (m : Type → Type) where
  exists? : String → m Bool
  read : String → m FileText
  /-- Write a file; a reason is answered if that fails. -/
  write : String → String → m (Option String)

/-- Where a command runs. -/
structure Place where
  /-- The directory that is the project if no other is named. -/
  directory : String
  /-- The directory of the user's settings. -/
  userDirectory : Option String

namespace Program

variable {m : Type → Type} [Monad m]

/-- The path of a file in a directory. -/
def join
    (directory : String)
    (name : String) :
    String :=
  match directory.toList.getLast? with
  | none => name
  | some last =>
      if last = '/' then directory ++ name else directory ++ "/" ++ name

/-- The settings of a directory, if it has a settings file. -/
def loadFrom
    (files : FileAccess m)
    (directory : String) :
    ExceptT String m (Option Config) := do
  let path := join directory Config.fileName
  if !(← files.exists? path) then
    return none
  match ← files.read path with
  | .failed reason =>
      throw ("Failed to read config: " ++ reason ++ ": " ++ reason)
  | .text content =>
      match Config.ofText? content with
      | some config => return some config
      | none => throw "Invalid config format: the settings cannot be read"

/-- The settings in force for a project. -/
def loadConfig
    (files : FileAccess m)
    (place : Place)
    (project : String) :
    ExceptT String m Config := do
  match ← loadFrom files project with
  | some config => return config
  | none =>
      match place.userDirectory with
      | none => return {}
      | some directory =>
          match ← loadFrom files directory with
          | some config => return config
          | none => return {}

/-- What the text of a file describes. -/
def readFile
    {α : Type}
    (files : FileAccess m)
    (describe : String → Option α)
    (path : String) :
    ExceptT String m α := do
  match ← files.read path with
  | .failed reason => throw ("failed to read " ++ path ++ ": " ++ reason)
  | .text content =>
      match describe content with
      | some value => return value
      | none =>
          throw ("failed to parse " ++ path ++ ": the content cannot be read")

/-- The result of a step of a query, an error by its message. -/
def orMessage
    {α : Type}
    (result : Except QueryError α) :
    ExceptT String m α :=
  match result with
  | .ok value => return value
  | .error error => throw error.message

/-- What a command on a request works with. -/
structure Inputs where
  config : Config
  schema : Schema
  request : Request

/-- Read the settings, the schema and the request. -/
def loadInputs
    (files : FileAccess m)
    (place : Place)
    (project : String)
    (schemaPath : String)
    (requestPath : String) :
    ExceptT String m Inputs := do
  let config ← loadConfig files place project
  let schema ← readFile files Schema.ofText? schemaPath
  let request ← readFile files Request.ofText? requestPath
  return {
    config := config
    schema := schema
    request := request
  }

/-- The dialect that an option names, or that of the settings. -/
def chooseDialect
    (config : Config) :
    Option String →
    ExceptT String m Dialect
  | none => return config.dialect
  | some name =>
      match Dialect.parse? name with
      | some dialect => return dialect
      | none => throw ("unknown dialect: " ++ name)

/-- A statement, and perhaps its count, as text. -/
def sqlReport
    (json : Bool)
    (dialect : Dialect)
    (statement : Sql.Rendered)
    (count : Option Sql.Rendered) :
    String :=
  if json then
    Report.line (Json.object
      ([("dialect", .string dialect.name), ("statement", statement.toJson)] ++
        match count with
        | some count => [("count", count.toJson)]
        | none => [])).pretty
  else
    Report.statement ("Statement (" ++ dialect.name ++ ")") statement ++
      match count with
      | some count => Report.statement "Count" count
      | none => ""

/-- The SQL of a request. -/
def runSql
    (files : FileAccess m)
    (place : Place)
    (supply : Supply)
    (project : String)
    (json : Bool)
    (schemaPath : String)
    (requestPath : String)
    (dialectName : Option String)
    (withCount : Bool) :
    ExceptT String m String := do
  let inputs ← loadInputs files place project schemaPath requestPath
  let dialect ← chooseDialect inputs.config dialectName
  let query ←
    orMessage
      ((inputs.request.compile inputs.schema inputs.config).runFrom supply).1
  let counting := inputs.request.kind = .count
  let statement ←
    orMessage (if counting then query.countSql dialect else query.toSql dialect)
  if withCount && !counting then
    let count ← orMessage (query.countSql dialect)
    return sqlReport json dialect statement (some count)
  else
    return sqlReport json dialect statement none

/-- The document operation of a request. -/
def runDocument
    (files : FileAccess m)
    (place : Place)
    (supply : Supply)
    (project : String)
    (json : Bool)
    (schemaPath : String)
    (requestPath : String) :
    ExceptT String m String := do
  let inputs ← loadInputs files place project schemaPath requestPath
  let query ←
    orMessage
      ((inputs.request.compile inputs.schema inputs.config).runFrom supply).1
  let operation ←
    orMessage
      (if inputs.request.kind = .count then
        DocumentCompiler.compileCount ObjectId.codec query
      else
        DocumentCompiler.compile ObjectId.codec query)
  let rendered := operation.toJson.pretty
  if json then
    return Report.line rendered
  else
    return Report.heading ("Document operation on " ++ operation.collection) ++
      Report.codeBlock rendered "json"

/-- A truth value as a word. -/
def truthText
    (value : Bool) :
    String :=
  if value then "true" else "false"

/-- The settings as text. -/
def configReport
    (json : Bool)
    (config : Config) :
    String :=
  let pagination := config.pagination
  if json then
    Report.line config.toJson.pretty
  else
    Report.heading "Configuration" ++
      Report.namedValue "dialect" config.dialect.name ++
      Report.namedValue "default page size"
        (toString pagination.defaultPageSize) ++
      Report.namedValue "max page size"
        (match pagination.maxPageSize with
          | some size => toString size
          | none => "unbounded") ++
      Report.namedValue "order by identifier"
        (truthText pagination.orderByIdentifier) ++
      Report.namedValue "allow full-table mutation"
        (truthText config.allowFullTableMutation)

/-- Write a settings file with the defaults. -/
def initConfig
    (files : FileAccess m)
    (project : String)
    (json : Bool)
    (force : Bool) :
    ExceptT String m String := do
  let path := join project Config.fileName
  if !force then
    if ← files.exists? path then
      throw (path ++ " already exists (use --force to overwrite)")
  match ← files.write path ({} : Config).toJson.pretty with
  | some reason => throw ("Failed to read config: " ++ reason ++ ": " ++ reason)
  | none =>
      if json then
        return Report.line
          (Json.object [("success", .bool true), ("path", .string path)]).text
      else
        return Report.line ("✓ Created " ++ path)

/-- What a command writes, or the message that it fails with. -/
def run
    (files : FileAccess m)
    (place : Place)
    (supply : Supply)
    (arguments : Arguments) :
    ExceptT String m String := do
  let project := arguments.project.getD place.directory
  match arguments.command with
  | .sql schema request dialect count =>
      runSql files place supply project arguments.json schema request dialect
        count
  | .document schema request =>
      runDocument files place supply project arguments.json schema request
  | .showConfig =>
      let config ← loadConfig files place project
      return configReport arguments.json config
  | .initConfig force => initConfig files project arguments.json force

/-- What a run of the program leaves: its exit code and what it wrote. -/
structure Exit where
  code : Nat
  output : String := ""
  errors : String := ""

/-- The text that answers words which make no sense. -/
def misuseText : String :=
  "error: the command line is not understood\n\n" ++ Help.usage .top ++
    "\nFor more information, try '--help'.\n"

/-- What the program does with the words of a command line. -/
def answer
    (files : FileAccess m)
    (place : Place)
    (supply : Supply)
    (words : List String) :
    m Exit := do
  match Arguments.ofWords words with
  | .error .misused => return { code := 2, errors := misuseText }
  | .error (.help level) => return { code := 0, output := Help.text level }
  | .error .version => return { code := 0, output := Help.versionLine }
  | .ok arguments =>
      match ← (run files place supply arguments).run with
      | .ok output => return { code := 0, output := output }
      | .error message =>
          return { code := 1, errors := Report.line ("✗ " ++ message) }

end Program

end PolyQuery
