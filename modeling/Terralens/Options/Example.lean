/-!
# An example of options

The text with which a file of options may start: every option with its default.
-/

namespace Terralens

/-- An options file with the defaults and remarks on them (`example_yaml`). -/
def exampleOptions : String :=
  "\n".intercalate [
    "# tfagent configuration file",
    "",
    "# Scanning options",
    "scan:",
    "  # Walk subdirectories instead of only the root module",
    "  recursive: false",
    "  # File or directory names to skip (glob patterns)",
    "  exclude_patterns:",
    "    - \"override.tf\"",
    "    - \"*_override.tf\"",
    "  max_depth: 100",
    "  # Parse files in parallel",
    "  parallel: true",
    "",
    "# Local Ollama server",
    "model:",
    "  host: \"http://localhost:11434\"",
    "  # Must be name:tag",
    "  name: \"codellama:7b-instruct\"",
    "  temperature: 0.7",
    "  max_tokens: 4096",
    "  timeout_secs: 300",
    "",
    "# Prompt construction",
    "agent:",
    "  # Upper bound on file contents sent to the model",
    "  max_context_bytes: 65536",
    "  # Terraform documentation snapshot the model is told about",
    "  docs_snapshot: \"2024-06-22\"",
    "",
    "# Output options",
    "output:",
    "  colored: true",
    "  verbose: false",
    "  pretty: true",
    ""]

end Terralens
