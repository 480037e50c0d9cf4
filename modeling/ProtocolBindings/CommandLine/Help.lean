/-!
# Help

What the program shows about itself and its commands.
-/

namespace ProtocolBindings.CommandLine.Help

def programLines : List String :=
  ["Usage: cri [OPTIONS] COMMAND [ARGS]...",
    "",
    "  Generate a Python client API from the Chrome DevTools Protocol.",
    "",
    "  Config-driven generation:",
    "",
    "      $ cri generate",
    "",
    "  Or with explicit config:",
    "",
    "      $ cri generate --config cri.yml",
    "",
    "Options:",
    "  --version  Show the version and exit.",
    "  --help     Show this message and exit.",
    "",
    "Commands:",
    "  generate  Generate the rpc package from the Chrome DevTools Protocol schema.",
    "  validate  Validate configuration and the protocol schema.",
    "  versions  List the supported protocol versions."]

def generateLines : List String :=
  ["Usage: cri generate [OPTIONS]",
    "",
    "  Generate the rpc package from the Chrome DevTools Protocol schema.",
    "",
    "  Reads configuration from cri.yml and writes: - One module per domain (\x7bDomain\x7d.py)",
    "  with types and command functions - __init__.py with PROTOCOL_VERSION and DOMAINS -",
    "  .cri-manifest.json (unless options.manifest is false)",
    "",
    "  Examples:",
    "",
    "      # Generate using cri.yml in current directory     cri generate",
    "",
    "      # Preview without writing files     cri generate --dry-run",
    "",
    "      # Generate against a released protocol version     cri generate --protocol-version",
    "      1-3",
    "",
    "      # Show full stacktraces for debugging     cri generate --debug",
    "",
    "Options:",
    "  -c, --config PATH            Path to cri.yml config file (auto-detected if not",
    "                               specified)",
    "  -p, --protocol-version TEXT  Protocol version (1-2, 1-3, tot); overrides config and",
    "                               CRI_PROTOCOL_VERSION",
    "  --dry-run                    Preview what would be generated without writing files",
    "  -v, --verbose                Show detailed output",
    "  --debug                      Show full exception stacktraces for troubleshooting",
    "  --help                       Show this message and exit."]

/-- The help on the command that validates a configuration and its protocol. -/
def validateLines : List String :=
  ["Usage: cri validate [OPTIONS]",
    "",
    "  Validate configuration and the protocol schema.",
    "",
    "  Checks that: - cri.yml is valid - The protocol file for the selected version exists",
    "  and decodes - Every domain, type and command builds and renders",
    "",
    "  Nothing is written.",
    "",
    "  ## Examples",
    "",
    "  Validate using cri.yml in current directory:",
    "",
    "      $ cri validate",
    "",
    "  Validate before generating:",
    "",
    "      $ cri validate && cri generate",
    "",
    "Options:",
    "  -c, --config PATH            Path to cri.yml config file",
    "  -p, --protocol-version TEXT  Protocol version (1-2, 1-3, tot); overrides config and",
    "                               CRI_PROTOCOL_VERSION",
    "  --debug                      Show full exception stacktraces for troubleshooting",
    "  --help                       Show this message and exit."]

def versionsLines : List String :=
  ["Usage: cri versions [OPTIONS]",
    "",
    "  List the supported protocol versions.",
    "",
    "  The active version comes from CRI_PROTOCOL_VERSION; unknown or missing values fall",
    "  back to tot (tip-of-tree).",
    "",
    "Options:",
    "  --protocol-dir DIRECTORY  Also report which versions have a protocol.json in this",
    "                            directory",
    "  --help                    Show this message and exit."]

def text (lines : List String) : String :=
  "\n".intercalate lines ++ "\n"

end ProtocolBindings.CommandLine.Help
