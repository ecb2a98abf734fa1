import TorznabGateway.Config.Load
import TorznabGateway.Json.Writer

/-!
# Checking a configuration

Reads a configuration on standard input and checks it. A configuration that is in order is printed
in the form that may be shown; what is wrong with any other is said on standard error.
-/
namespace TorznabGateway

/-- What is printed for a configuration document, or why it cannot be used. -/
def configurationReport (document : String) : Except ConfigError String :=
  match Config.ofToml document with
  | .error e => .error e
  | .ok config =>
    match config.validate with
    | .error fault => .error (.invalid fault)
    | .ok () => .ok config.sanitized.render

end TorznabGateway

/-- Check the configuration on standard input. -/
def main : IO UInt32 := do
  let document ← (← IO.getStdin).readToEnd
  match TorznabGateway.configurationReport document with
  | .ok report =>
    IO.println report
    return 0
  | .error e =>
    IO.eprintln ("Fatal error: " ++ e.message)
    return 1
