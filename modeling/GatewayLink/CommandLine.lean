/-! The command line. It names the settings file, or asks for help or the version; the first argument that
decides wins. -/

namespace GatewayLink

inductive CommandLine where
  | serve (settings : String)
  | help
  | version
  deriving DecidableEq

inductive UsageFault where
  | unexpected (argument : String)
  | missingValue
  | repeated
  deriving DecidableEq

namespace UsageFault

def usage : String := "Usage: gateway-link [OPTIONS]"

def hint : String := "For more information, try '--help'."

def message : UsageFault → String
  | unexpected argument =>
    "error: unexpected argument '" ++ argument ++ "' found\n\n" ++ usage ++ "\n\n" ++ hint
  | missingValue =>
    "error: a value is required for '--config <CONFIG>' but none was supplied\n\n" ++ hint
  | repeated =>
    "error: the argument '--config <CONFIG>' cannot be used multiple times\n\n" ++ usage ++
      "\n\n" ++ hint

end UsageFault

namespace CommandLine

def standardSettings : String := "config.toml"

def versionText : String := "gateway-link 0.1.0"

def helpText : String :=
  "UDP packet forwarder server\n\n" ++ UsageFault.usage ++ "\n\nOptions:\n" ++
  "  -c, --config <CONFIG>  Path to configuration file [default: config.toml]\n" ++
  "  -h, --help             Print help\n" ++
  "  -V, --version          Print version"

def attached? (argument : String) : Option String :=
  match argument.toList with
  | '-' :: '-' :: 'c' :: 'o' :: 'n' :: 'f' :: 'i' :: 'g' :: '=' :: value => some (String.ofList value)
  | '-' :: 'c' :: '=' :: value => some (String.ofList value)
  | '-' :: 'c' :: c :: value => some (String.ofList (c :: value))
  | _ => none

def isValue (argument : String) : Bool :=
  argument == "-" || (argument != "" && argument.toList.head? != some '-')

def read (settings : Option String) : List String → Except UsageFault CommandLine
  | [] => .ok (.serve (settings.getD standardSettings))
  | argument :: rest =>
    if argument = "-h" ∨ argument = "--help" then .ok .help
    else if argument = "-V" ∨ argument = "--version" then .ok .version
    else if argument = "-c" ∨ argument = "--config" then
      match rest with
      | value :: rest =>
        if !isValue value then .error .missingValue
        else if settings.isSome then .error .repeated
        else read (some value) rest
      | [] => .error .missingValue
    else
      match attached? argument with
      | some value =>
        if value = "" then .error .missingValue
        else if settings.isSome then .error .repeated
        else read (some value) rest
      | none => .error (.unexpected argument)

def parse (arguments : List String) : Except UsageFault CommandLine := read none arguments

end CommandLine

end GatewayLink
