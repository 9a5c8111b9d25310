/-
**Help.**

Main definitions:

* `CommandLine.version`, `CommandLine.usage` — what the program says of itself;
* `CommandLine.Halt.message` — what it says when it is not used as it should be.
-/

import Provisioning.CommandLine.Invocation

set_option autoImplicit false
set_option relaxedAutoImplicit false

namespace Provisioning.CommandLine

/-- The name and the version of the program. -/
def version : String := "workspace-provisioner 0.1.0\n"

/-- How the program is used. -/
def usage : String :=
  "Provision the clusters of a workspace: coordination service, broker and worker\n\n" ++
  "Usage: workspace-provisioner [OPTIONS] <COMMAND>\n\n" ++
  "Commands:\n" ++
  "  provision  Create the clusters and wait for each to get ready\n" ++
  "  validate   Check a request and show its plan\n" ++
  "  status     Show the state of a cluster\n" ++
  "  help       Show this help\n\n" ++
  "Options:\n" ++
  "  -v, --verbose...         Show more notices\n" ++
  "      --config <PATH>      The configuration file\n" ++
  "      --env-file <PATH>    A file with environment variables\n" ++
  "      --api-url <URL>      The base URL of the backend\n" ++
  "  -h, --help               Show this help\n" ++
  "  -V, --version            Show the version\n\n" ++
  "Options of provision and validate:\n" ++
  "      --name <NAME>        The name that the worker should get\n" ++
  "  -p, --port <PORT>        The client port\n" ++
  "  -n, --node <NODE>        A node; may be given several times\n" ++
  "      --plugin <PLUGIN>    A plugin; may be given several times\n\n" ++
  "Options of provision:\n" ++
  "      --fail-on-timeout    Fail if a cluster does not get ready\n" ++
  "      --dry-run            Show the plan, and create nothing\n" ++
  "      --json               Print the result as JSON\n"

/-- What is said when there is no invocation. -/
def Halt.message : Halt → String
  | .helpAsked | .helpNeeded => usage
  | .versionAsked => version
  | .invalidValue => "error: an option has no value\n"
  | .valueValidation => "error: a value is not a number of the right size\n"
  | .argumentConflict => "error: an option is given more than once\n"
  | .tooManyValues => "error: a value is given to an option that takes none\n"
  | .unknownArgument => "error: unexpected argument\n"
  | .invalidSubcommand => "error: unrecognized command\n"
  | .missingRequiredArgument => "error: a required argument is missing\n"
  | .missingSubcommand => "error: a command is missing\n"

end Provisioning.CommandLine
