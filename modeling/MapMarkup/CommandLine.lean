import MapMarkup.CatalogFile
import MapMarkup.Environment
import MapMarkup.Rendering
import MapMarkup.Text.Terminal

/-!
# The command line

The program renders one query against a catalog file. Options have a long name and most of them a
letter; a value follows as the next argument or after an equals sign, and after a letter also at
once. No option may be given twice. Some can be given as variables of the environment instead.
-/

namespace MapMarkup

inductive CommandOption where
  | config
  | query
  | workspace
  | output
  | logLevel
  | jsonLogs
  | help
deriving Repr, DecidableEq

namespace CommandOption

def all : List CommandOption := [config, query, workspace, output, logLevel, jsonLogs, help]

def name : CommandOption → String
  | config => "config"
  | query => "query"
  | workspace => "workspace"
  | output => "output"
  | logLevel => "log-level"
  | jsonLogs => "json-logs"
  | help => "help"

def letter? : CommandOption → Option Char
  | config => some 'c'
  | query => some 'q'
  | workspace => some 'w'
  | output => some 'o'
  | help => some 'h'
  | logLevel | jsonLogs => none

def takesValue : CommandOption → Bool
  | jsonLogs | help => false
  | _ => true

def standIn? : CommandOption → Option String
  | config => some "MAPML_CATALOG"
  | workspace => some "MAPML_WORKSPACE"
  | logLevel => some "LOG_LEVEL"
  | _ => none

def usual? : CommandOption → Option String
  | config => some "config/catalog.yaml"
  | logLevel => some "info"
  | _ => none

def accepts (o : CommandOption) (value : String) : Bool :=
  match o with
  | config => value ≠ ""
  | output => (Form.ofWord? value).isSome
  | _ => true

end CommandOption

/-- What the program is told to render. -/
structure RenderCommand where
  config : String
  query : String
  workspace : Option String
  form : Option Form
deriving Repr, DecidableEq

/-- What the program is told to do. -/
inductive Invocation where
  | render (command : RenderCommand)
  | help (long : Bool)
  | misuse
deriving Repr, DecidableEq

/-! ### Arguments -/

/-- The options that arguments give, each with its value; an option without a value has an empty
one. -/
abbrev GivenOptions := List (CommandOption × String)

namespace GivenOptions

/-- The options with one more, if it is new and accepts its value. -/
def add (given : GivenOptions) (o : CommandOption) (value : String) :
    Except Invocation GivenOptions :=
  if given.any (·.1 = o) || !o.accepts value then .error .misuse
  else .ok (given ++ [(o, value)])

/-- An option on its way: the options so far, and the one that still waits for its value. -/
abbrev Waiting := GivenOptions × Option CommandOption

/-- Takes an option in long or short form with the value attached to it, if there is one. -/
def take (given : GivenOptions) (o : CommandOption) (attached : Option String) (long : Bool) :
    Except Invocation Waiting :=
  match o.takesValue, attached with
  | true, some value => (given.add o value).map fun given => (given, none)
  | true, none => .ok (given, some o)
  | false, some _ => .error .misuse
  | false, none =>
    if o = .help then .error (.help long) else (given.add o "").map fun given => (given, none)

def takeLong (given : GivenOptions) (text : String) : Except Invocation Waiting :=
  let (name, attached) := match Text.cut '=' text with
    | some (name, value) => (name, some value)
    | none => (text, none)
  match CommandOption.all.find? fun o => o.name = name with
  | some o => given.take o attached true
  | none => .error .misuse

/-- Takes an argument after one hyphen: the letter of an option and what is attached to it. -/
def takeShort (given : GivenOptions) (letter : Char) (rest : List Char) :
    Except Invocation Waiting :=
  match CommandOption.all.find? fun o => o.letter? = some letter with
  | none => .error .misuse
  | some o =>
    if !o.takesValue then given.take o none false
    else
      given.take o (match rest with
        | [] => none
        | '=' :: value => some (String.ofList value)
        | value => some (String.ofList value)) false

/-- The options that arguments give. What begins with a hyphen is never the value of the option
before it, and nothing may follow two hyphens alone. -/
def ofArguments : Waiting → List String → Except Invocation GivenOptions
  | (given, waiting), [] => if waiting.isSome then .error .misuse else .ok given
  | (given, waiting), argument :: rest =>
    match argument.toList, waiting with
    | ['-', '-'], _ => if waiting.isSome || rest ≠ [] then .error .misuse else .ok given
    | '-' :: '-' :: name, none => do ofArguments (← given.takeLong (String.ofList name)) rest
    | '-' :: letter :: more, none => do ofArguments (← given.takeShort letter more) rest
    | '-' :: _ :: _, some _ => .error .misuse
    | _, some o => do ofArguments (← given.add o argument, none) rest
    | _, none => .error .misuse

/-- The value of an option: as it is given, or as a variable says, or the usual one. -/
def value? (given : GivenOptions) (env : Environment) (o : CommandOption) : Option String :=
  let standIn? := o.standIn?.bind env.value?
  ((List.lookup o given).or standIn?).or o.usual?

end GivenOptions

def RenderCommand.ofOptions? (given : GivenOptions) (env : Environment) : Option RenderCommand :=
  match given.value? env .config, given.value? env .query with
  | some config, some query =>
    if CommandOption.config.accepts config then
      some {
        config
        query
        workspace := given.value? env .workspace
        form := (given.value? env .output).bind Form.ofWord? }
    else none
  | _, _ => none

def Invocation.ofArguments (env : Environment) (arguments : List String) : Invocation :=
  match GivenOptions.ofArguments ([], none) arguments with
  | .error invocation => invocation
  | .ok given =>
    match RenderCommand.ofOptions? given env with
    | some command => .render command
    | none => .misuse

/-! ### Help -/

namespace CommandOption

def purpose : CommandOption → String
  | config => "Catalog configuration file"
  | query => "GetMap query string, with or without the leading URL"
  | workspace => "Workspace the request is addressed to"
  | output => "Output encoding (default: from the FORMAT parameter)"
  | logLevel => "Log level"
  | jsonLogs => "Emit logs as JSON"
  | help => "Print help"

def placeholder? : CommandOption → Option String
  | config => some "CONFIG"
  | query => some "QUERY"
  | workspace => some "WORKSPACE"
  | output => some "OUTPUT"
  | logLevel => some "LOG_LEVEL"
  | jsonLogs | help => none

def longForm (o : CommandOption) : String :=
  Text.strong ("--" ++ o.name) ++ match o.placeholder? with
    | some word => " <" ++ word ++ ">"
    | none => ""

def listed (o : CommandOption) : String :=
  (match o.letter? with
    | some c => "  " ++ Text.strong ("-" ++ c.toString) ++ ", "
    | none => "      ") ++ o.longForm

def remarks (env : Environment) (o : CommandOption) : List String :=
  (o.standIn?.map fun v => "[env: " ++ v ++ "=" ++ (env.value? v).getD "" ++ "]").toList
    ++ (o.usual?.map fun v => "[default: " ++ v ++ "]").toList

end CommandOption

def Form.purpose : Form → String
  | markup => "MapML XML"
  | page => "HTML page embedding a mapml-viewer"
  | json => "The document model as JSON"

namespace Help

def opening : String :=
  "Render MapML documents for WMS GetMap requests\n\n"
    ++ Text.heading "Usage:" ++ " " ++ Text.strong "mapml-render" ++ " [OPTIONS] "
    ++ CommandOption.query.longForm ++ "\n\n" ++ Text.heading "Options:" ++ "\n"

def blanks (n : Nat) : String :=
  String.ofList (List.replicate n ' ')

def hanging (column : Nat) (text : String) : String :=
  String.intercalate ("\n" ++ blanks column) (Text.fields '\n' text)

def purposeColumn : Nat := 31

def briefLine (env : Environment) (o : CommandOption) : String :=
  let more := match o with
    | .output => ["[possible values: mapml, html, json]"]
    | .help => ["(see more with '--help')"]
    | _ => o.remarks env
  o.listed ++ blanks (purposeColumn - (Text.withoutControls o.listed).length)
    ++ hanging purposeColumn (String.intercalate " " (o.purpose :: more)) ++ "\n"

def paragraphColumn : Nat := 10

def formLine (f : Form) : String :=
  blanks paragraphColumn ++ "- " ++ Text.strong f.word ++ ":" ++ blanks (6 - f.word.length)
    ++ f.purpose ++ "\n"

def paragraph (env : Environment) (o : CommandOption) : String :=
  let purpose := match o with
    | .help => o.purpose ++ " (see a summary with '-h')"
    | _ => o.purpose
  let remarks := match o.remarks env with
    | [] => ""
    | rs => "\n\n" ++ String.intercalate "\n" rs
  let forms := match o with
    | .output =>
      "\n" ++ blanks paragraphColumn ++ "Possible values:\n" ++ String.join (Form.all.map formLine)
    | _ => ""
  o.listed ++ "\n" ++ blanks paragraphColumn ++ hanging paragraphColumn (purpose ++ remarks)
    ++ "\n" ++ forms

def styled (env : Environment) (long : Bool) : String :=
  opening ++
    if long then String.intercalate "\n" (CommandOption.all.map (paragraph env))
    else String.join (CommandOption.all.map (briefLine env))

def plainVariable : String := "NO_COLOR"

/-- The variable that asks for control sequences even where there is no terminal. -/
def styleVariable : String := "CLICOLOR_FORCE"

/-- The text of help. It is plain unless variables ask for control sequences; plain text has none,
and what a variable brought along is lost with them. -/
def text (env : Environment) (long : Bool) : String :=
  if env.sets styleVariable && !env.sets plainVariable then styled env long
  else Text.withoutControls (styled env long)

end Help

/-! ### Running -/

structure Outcome where
  exitCode : UInt8
  output : String
  notice : String := ""

/-- The outcome of a command, given the text of its catalog file if that can be read. -/
def RenderCommand.outcome (c : RenderCommand) (catalog : Option String) : Outcome :=
  match catalog.map Publisher.ofText with
  | none => ⟨1, "", unreadableFile c.config ++ "\n"⟩
  | some (.error _) => ⟨1, "", invalidFile c.config ++ "\n"⟩
  | some (.ok publisher) =>
    match publisher.answer c.query c.workspace c.form with
    | .ok answer => { exitCode := 0, output := answer.body ++ "\n" }
    | .error e => { exitCode := 1, output := e.report ++ "\n" }

/-- The outcome when the variables of a file cannot be held. -/
def Outcome.aborted : Outcome :=
  ⟨101, "", "error: a value holds a NUL character\n"⟩

def Invocation.catalog? : Invocation → Option String
  | render c => some c.config
  | _ => none

/-- The outcome of an invocation, given the text of the catalog file if it can be read. -/
def Invocation.outcome (env : Environment) (catalog : Option String) : Invocation → Outcome
  | render c => c.outcome catalog
  | help long => { exitCode := 0, output := Help.text env long }
  | misuse => ⟨2, "", "error: the arguments cannot be understood; see '--help'\n"⟩

end MapMarkup
