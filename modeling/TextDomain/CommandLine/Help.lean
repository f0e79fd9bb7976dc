import TextDomain.CommandLine.Word

/-!
# Help

The texts that explain the command line, laid out for eighty columns.
-/

namespace TextDomain.CommandLine

/-- Lines, each with its line break. -/
def unlines (lines : List String) : Text := lines.flatMap fun l => l.toList ++ ['\n']

/-- What the program is and does. -/
def programHelp : Text :=
  unlines [
    "usage: tdlint [-h] \x7bcheck\x7d ...",
    "",
    "tdlint: text domain enforcement for translation calls",
    "",
    "positional arguments:",
    "  \x7bcheck\x7d",
    "    check     Check Python sources for missing or invalid text domains.",
    "",
    "options:",
    "  -h, --help  show this help message and exit"]

/-- How files are checked. -/
def checkHelp : Text :=
  unlines [
    "usage: tdlint check [-h] [--config CONFIG_FILE] [--allowed-text-domain DOMAIN]",
    "                    [--allow-default] [--fix] [--format \x7bjson,text\x7d]",
    "                    [--out OUT_FILE]",
    "                    paths [paths ...]",
    "",
    "positional arguments:",
    "  paths                 Python files or directories.",
    "",
    "options:",
    "  -h, --help            show this help message and exit",
    "  --config CONFIG_FILE  YAML/JSON file with allowDefault / allowedTextDomains",
    "                        options.",
    "  --allowed-text-domain DOMAIN",
    "                        Allowed text domain (repeatable; replaces the config",
    "                        file list).",
    "  --allow-default       Accept calls that omit the text domain.",
    "  --fix                 Rewrite files with the available autofixes.",
    "  --format \x7bjson,text\x7d  Output format (default: json).",
    "  --out OUT_FILE        Write diagnostics to this file instead of stdout."]

end TextDomain.CommandLine
