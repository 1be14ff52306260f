import AssetWatch.Cli.Arguments
import AssetWatch.Text.Terminal

/-!
# Help texts
-/

namespace AssetWatch.Cli

def versionText : String := "bundle-watch 0.1.0\n"

def linesText (lines : List String) : String := String.join (lines.map (· ++ "\n"))

/-- Lines behind the first one begin where the help of options does. -/
def indented (s : String) : String :=
  String.intercalate ("\n" ++ String.ofList (List.replicate 25 ' ')) (s.splitOn "\n")

/-- The help of the program shows the value of the variable that chooses an environment, as far
as a terminal would show it. -/
def programHelp (chosen? : Option String) : String := Text.Terminal.shown <| linesText [
  "Watch asset folders and run the configured bundler",
  "",
  "Usage: bundle-watch [OPTIONS] [COMMAND]",
  "",
  "Commands:",
  "  watch  Build everything, then rebuild on change (default)",
  "  build  Build once and exit",
  "  check  Validate the configuration and list entrypoints",
  "  plan   Print the execution plan as JSON without running it",
  "  help   Print this message or the help of the given subcommand(s)",
  "",
  "Options:",
  "  -c, --config <CONFIG>  Bundler configuration, relative to the project root [default: " ++
    Config.defaultPath.text ++ "]",
  "  -r, --root <ROOT>      Project root [default: .]",
  "  -e, --env <ENV>        Environment whose command is invoked [env: BUNDLE_WATCH_ENV=" ++
    indented (chosen?.getD "") ++ "]",
  "  -h, --help             Print help",
  "  -V, --version          Print version"]

def helpText (chosen? : Option String) : Topic → String
  | .program => programHelp chosen?
  | .watch => linesText [
    "Build everything, then rebuild on change (default)",
    "",
    "Usage: bundle-watch watch [OPTIONS]",
    "",
    "Options:",
    "      --skip-initial-build  Start watching without the initial full build",
    "  -h, --help                Print help"]
  | .build => linesText [
    "Build once and exit",
    "",
    "Usage: bundle-watch build [OPTIONS]",
    "",
    "Options:",
    "  -C, --category <CATEGORIES>  Limit the build to these categories",
    "  -h, --help                   Print help"]
  | .check => linesText [
    "Validate the configuration and list entrypoints",
    "",
    "Usage: bundle-watch check",
    "",
    "Options:",
    "  -h, --help  Print help"]
  | .plan => linesText [
    "Print the execution plan as JSON without running it",
    "",
    "Usage: bundle-watch plan [OPTIONS]",
    "",
    "Options:",
    "  -C, --category <CATEGORIES>  ",
    "  -h, --help                   Print help"]
  | .help => linesText [
    "Print this message or the help of the given subcommand(s)",
    "",
    "Usage: bundle-watch help [COMMAND]...",
    "",
    "Arguments:",
    "  [COMMAND]...  Print help for the subcommand(s)"]

end AssetWatch.Cli
