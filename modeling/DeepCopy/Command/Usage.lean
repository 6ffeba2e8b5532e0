/-!
# Help

The text that explains the commands.
-/

namespace DeepCopy.Command

/-- The name and version of the program. -/
def version : String := "cloneplan 0.1.0"

/-- The explanation of the commands. -/
def usage : String :=
  "\n".intercalate
    ["",
      "cloneplan - Deep-clone plan compiler",
      "",
      "USAGE:",
      "    cloneplan <COMMAND> [OPTIONS]",
      "",
      "COMMANDS:",
      "    compile <types.yaml> [--json]     Compile descriptors and print their plans",
      "    render <types.yaml> [--lang]      Generate fast and cycle-safe clone operations",
      "    check <types.yaml>                Validate descriptors",
      "    config                            Show the effective project configuration",
      "    schema [name]                     Print JSON schema (descriptor, plan, config)",
      "    version                           Print version",
      "",
      "OPTIONS:",
      "    --lang <csharp|typescript>        Target language (default: config targets)",
      "    --output <dir>                    Output directory (default: stdout)",
      "    --config <file>                   Config file (default: nearest .cloneplan.yaml)",
      "    --json                            JSON output format (compile, check)",
      "",
      "ENVIRONMENT:",
      "    CLONEPLAN_LOG                     Log filter, e.g. `debug` or `cloneplan=trace`",
      "",
      "EXAMPLES:",
      "    cloneplan compile types.yaml --json",
      "    cloneplan render types.yaml --lang cs --output Generated",
      "    cloneplan render types.yaml --lang ts > clone.ts",
      ""]

end DeepCopy.Command
