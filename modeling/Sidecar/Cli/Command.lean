import Sidecar.Config.Environment
import Sidecar.Host.Operation

/-!
# The command line

`Command.ofArguments` reads the arguments of the program: a command and its options, each given at
most once, as `--name value`, `--name=value`, `-n value`, `-nvalue` or `-n=value`.  Asking for help
or for the version is a command too (`show`).
-/

namespace Sidecar

/-- How log lines are written. -/
inductive LogFormat where
  | text
  | json
  deriving DecidableEq, Repr

/-- What the program is asked to do. -/
inductive Command where
  /-- Run the host. -/
  | serve (config level : String) (format : LogFormat)
  /-- Check a configuration. -/
  | validate (config : String)
  /-- Tell the version. -/
  | version
  /-- Write a text. -/
  | show (text : String)
  deriving DecidableEq, Repr

namespace Command

/-- The name of the program. -/
def program : String := "kidecar"

/-- The configuration that is used unless told otherwise. -/
def defaultConfig : String := "/opt/kidecar/config.yaml"

/-- The variable that names another. -/
def configVariable : String := "KIDECAR_CONFIG"

/-- An option that takes a value. -/
structure Flag where
  long : String
  short : Option Char
  deriving DecidableEq, Repr

/-- Where the configuration is. -/
def configFlag : Flag := { long := "config", short := some 'c' }

/-- Which log lines are written. -/
def levelFlag : Flag := { long := "log-level", short := some 'l' }

/-- How log lines are written. -/
def formatFlag : Flag := { long := "log-format", short := none }

/-- The value of an option that may be used. -/
def accepts (flag : Flag) (value : String) : Bool :=
  if flag = configFlag then value ≠ ""
  else if flag = formatFlag then value = "text" || value = "json"
  else true

/-- What an argument is. -/
inductive Argument where
  /-- A request for help. -/
  | help
  /-- An option, perhaps with its value. -/
  | flag (flag : Flag) (value : Option String)
  deriving DecidableEq, Repr

/-- What an argument is, given the options that there are. -/
def argument? (flags : List Flag) (arg : String) : Option Argument :=
  match arg.toList with
  | '-' :: '-' :: cs =>
    let name := String.ofList (cs.takeWhile (· != '='))
    let value := match cs.dropWhile (· != '=') with
      | '=' :: v => some (String.ofList v)
      | _ => none
    if name = "help" then if value.isNone then some .help else none
    else (flags.find? fun f => f.long = name).map fun f => .flag f value
  | '-' :: c :: cs =>
    if c = 'h' then some .help
    else
      (flags.find? fun f => f.short = some c).map fun f =>
        .flag f (match cs with
          | [] => none
          | '=' :: v => some (String.ofList v)
          | v => some (String.ofList v))
  | _ => none

/-- Whether an argument can be the value of the option before it. -/
def isValue (arg : String) : Bool :=
  match arg.toList with
  | '-' :: _ :: _ => false
  | _ => true

/-- The options of a command, or none if help is asked for. -/
def options? (flags : List Flag) :
    List String → (found : List (Flag × String)) → Option (Option (List (Flag × String)))
  | [], found => some (some found)
  | arg :: rest, found =>
    match argument? flags arg with
    | none => none
    | some .help => some none
    | some (.flag f value) =>
      if (found.lookup f).isSome then none
      else
        match value, rest with
        | some v, rest => if accepts f v then options? flags rest ((f, v) :: found) else none
        | none, v :: rest =>
          if isValue v && accepts f v then options? flags rest ((f, v) :: found) else none
        | none, [] => none

/-- The configuration to use. -/
def configOf? (env : Environment) (found : List (Flag × String)) : Option String :=
  let path := ((found.lookup configFlag).or (env configVariable)).getD defaultConfig
  if accepts configFlag path then some path else none

/-- What the program is about. -/
def about : String := "Sidecar plugin host for Kubernetes pods"

/-- Help on the program. -/
def help : String :=
  about ++ "\n\nUsage: kidecar <COMMAND>\n\nCommands:\n" ++
  "  serve     Run the plugin host\n" ++
  "  validate  Validate configuration file\n" ++
  "  version   Show version information\n" ++
  "  help      Print this message or the help of the given subcommand(s)\n\n" ++
  "Options:\n  -h, --help     Print help\n  -V, --version  Print version"

/-- The line on the configuration option. -/
def configHelp (env : Environment) : String :=
  "Path to configuration file [env: " ++ configVariable ++ "=" ++ (env configVariable).getD "" ++
    "] [default: " ++ defaultConfig ++ "]"

/-- Help on running the host. -/
def serveHelp (env : Environment) : String :=
  "Run the plugin host\n\nUsage: kidecar serve [OPTIONS]\n\nOptions:\n" ++
  "  -c, --config <CONFIG>          " ++ configHelp env ++ "\n" ++
  "  -l, --log-level <LOG_LEVEL>    " ++
  "Log level (trace, debug, info, warn, error) [default: info]\n" ++
  "      --log-format <LOG_FORMAT>  " ++
  "Log output format [default: text] [possible values: text, json]\n" ++
  "  -h, --help                     Print help"

/-- Help on checking a configuration. -/
def validateHelp (env : Environment) : String :=
  "Validate configuration file\n\nUsage: kidecar validate [OPTIONS]\n\nOptions:\n" ++
  "  -c, --config <CONFIG>  " ++ configHelp env ++ "\n  -h, --help             Print help"

/-- Help on the version. -/
def versionHelp : String :=
  "Show version information\n\nUsage: kidecar version\n\nOptions:\n  -h, --help  Print help"

/-- Help on help. -/
def helpHelp : String :=
  "Print this message or the help of the given subcommand(s)\n\nUsage: kidecar help [COMMAND]"

/-- The help that is asked for. -/
def helpOf? (env : Environment) : List String → Option String
  | [] => some help
  | ["serve"] => some (serveHelp env)
  | ["validate"] => some (validateHelp env)
  | ["version"] => some versionHelp
  | ["help"] => some helpHelp
  | _ => none

/-- The command that arguments ask for; there is none when they are wrong. -/
def ofArguments (env : Environment) : List String → Option Command
  | [] => none
  | "serve" :: args => do
    match ← options? [configFlag, levelFlag, formatFlag] args [] with
    | none => return .show (serveHelp env)
    | some found =>
      let config ← configOf? env found
      let format := if found.lookup formatFlag = some "json" then .json else .text
      return .serve config ((found.lookup levelFlag).getD "info") format
  | "validate" :: args => do
    match ← options? [configFlag] args [] with
    | none => return .show (validateHelp env)
    | some found => return .validate (← configOf? env found)
  | "version" :: args => do
    match ← options? [] args [] with
    | none => return .show versionHelp
    | some _ => return .version
  | "help" :: args => (helpOf? env args).map .show
  | "--help" :: _ => some (.show help)
  | "--version" :: _ => some (.show (program ++ " " ++ Host.version))
  | arg :: _ =>
    match arg.toList with
    | '-' :: 'h' :: _ => some (.show help)
    | '-' :: 'V' :: _ => some (.show (program ++ " " ++ Host.version))
    | _ => none

end Command

end Sidecar
