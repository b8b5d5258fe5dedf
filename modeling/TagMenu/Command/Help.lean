namespace TagMenu.Command.Help

def lines (texts : List String) : String := String.join (texts.map (· ++ "\n"))

def version : String := lines ["tagcomplete 0.1.0"]

def overview : String := lines [
  "Tag file completion engine with an editor-agnostic CLI",
  "",
  "Usage: tagcomplete [OPTIONS] <COMMAND>",
  "",
  "Commands:",
  "  complete  Print the candidates whose word ends with a match of PATTERN",
  "  check     Parse tag files and report their sizes",
  "  init      Initialize configuration",
  "  help      Print this message or the help of the given subcommand(s)",
  "",
  "Options:",
  "  -c, --config <CONFIG>  Configuration file path",
  "  -v, --verbose          Enable verbose output",
  "  -h, --help             Print help",
  "  -V, --version          Print version"]

def complete : String := lines [
  "Print the candidates whose word ends with a match of PATTERN",
  "",
  "Usage: tagcomplete complete [OPTIONS] <PATTERN>",
  "",
  "Arguments:",
  "  <PATTERN>  Keyword regular expression",
  "",
  "Options:",
  "  -c, --config <CONFIG>  Configuration file path",
  "  -t, --tags <FILE>      Additional tag files",
  "      --file <BUFFER>    Current buffer, passed to the tagger",
  "  -v, --verbose          Enable verbose output",
  "      --format <FORMAT>  Output format [default: text] [possible values: text, json]",
  "      --fail-on-empty    Exit with status 1 when nothing matches",
  "  -h, --help             Print help"]

def check : String := lines [
  "Parse tag files and report their sizes",
  "",
  "Usage: tagcomplete check [OPTIONS] <FILES>...",
  "",
  "Arguments:",
  "  <FILES>...  Tag files to check",
  "",
  "Options:",
  "  -c, --config <CONFIG>  Configuration file path",
  "  -v, --verbose          Enable verbose output",
  "  -h, --help             Print help"]

def init : String := lines [
  "Initialize configuration",
  "",
  "Usage: tagcomplete init [OPTIONS]",
  "",
  "Options:",
  "  -c, --config <CONFIG>  Configuration file path",
  "      --force            Force overwrite existing config",
  "  -v, --verbose          Enable verbose output",
  "  -h, --help             Print help"]

def help : String := lines [
  "Print this message or the help of the given subcommand(s)",
  "",
  "Usage: tagcomplete help [COMMAND]...",
  "",
  "Arguments:",
  "  [COMMAND]...  Print help for the subcommand(s)"]

def about? (command : String) : Option String :=
  match command with
  | "complete" => some complete
  | "check" => some check
  | "init" => some init
  | "help" => some help
  | _ => none

end TagMenu.Command.Help
