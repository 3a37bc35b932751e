import Enrollment.CommandLine
import Enrollment.Config.Environment

/-!
# The command line of the gateway

The gateway takes the name of a file of settings, from a switch or else from the environment, and
nothing else. A name is never empty.
-/

namespace Enrollment.CommandLine.GatewayInvocation

/-- The name and version of the program. -/
def title : String := "bootstrap-gateway 0.1.0"

/-- The file of settings. -/
def fileSwitch : Switch := ⟨"config", some 'c', true⟩

/-- The name of the file of settings that a command line names, if it names one. -/
def parse (env : Config.Environment) (words : List String) :
    Except Interruption (Option String) := do
  let w ← read [fileSwitch, .help, .version] words
  let file := (w.value? fileSwitch).or (env Config.Variable.file.name)
  if !w.operands.isEmpty || file = some "" then .error .misused else .ok file

end Enrollment.CommandLine.GatewayInvocation
