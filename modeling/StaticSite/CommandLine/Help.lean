import StaticSite.CommandLine.Arguments

set_option relaxedAutoImplicit false
set_option autoImplicit false

/-!
# What the program says about itself

## Main definitions

* `StaticSite.CommandLine.help`, `StaticSite.CommandLine.shortHelp` — how to use the program.
* `StaticSite.CommandLine.version` — which version it is.
* `StaticSite.CommandLine.UsageError.message` — what is wrong with the arguments.
-/

namespace StaticSite.CommandLine

/-- Lines, each with a line feed at its end. -/
def unlines (ls : List String) : Text := ls.flatMap fun l => l.toList ++ ['\n']

/-- The long help. -/
def help : Text := unlines
  ["Static site builder: Markdown pages in one shared HTML template",
    "",
    "The source directory is copied into the build directory, then every",
    "top-level Markdown file is rendered into template.html and written next",
    "to it as HTML. Finally every top-level HTML page gets its \x7b\x7bNAV\x7d\x7d filled",
    "with links to the other pages.",
    "",
    "Build layout:",
    "",
    "  build/",
    "  ├── template.html        # Shared template (\x7b\x7bCONTENT\x7d\x7d, \x7b\x7bNAV\x7d\x7d, \x7b\x7bkey\x7d\x7d)",
    "  ├── index.md             # → index.html",
    "  ├── about.md             # → about.html",
    "  ├── links.html           # Static page, \x7b\x7bNAV\x7d\x7d resolved in place",
    "  └── notes/draft.md       # Not top level: copied, never built",
    "",
    "Macros:",
    "  \x7b\x7bCONTENT\x7d\x7d   converted Markdown body (Markdown pages)",
    "  \x7b\x7bkey\x7d\x7d       first value of frontmatter key `key` (Markdown pages)",
    "  \x7b\x7bNAV\x7d\x7d       list of links to the other HTML pages (all pages)",
    "",
    "Unknown macros are left in place and reported as warnings.",
    "Options go in mori.toml at the top of the source directory.",
    "",
    "Usage: mori <SOURCE> <BUILD>",
    "",
    "Arguments:",
    "  <SOURCE>",
    "          Source directory, copied into the build directory",
    "",
    "  <BUILD>",
    "          Build directory, must already exist",
    "",
    "Options:",
    "  -h, --help",
    "          Print help (see a summary with '-h')",
    "",
    "  -V, --version",
    "          Print version"]

/-- The short help. -/
def shortHelp : Text := unlines
  ["Static site builder: Markdown pages in one shared HTML template",
    "",
    "Usage: mori <SOURCE> <BUILD>",
    "",
    "Arguments:",
    "  <SOURCE>  Source directory, copied into the build directory",
    "  <BUILD>   Build directory, must already exist",
    "",
    "Options:",
    "  -h, --help     Print help (see more with '--help')",
    "  -V, --version  Print version"]

/-- The version of the program. -/
def version : Text := unlines ["mori 0.1.0"]

/-- How the program is called. -/
def Usage.text (usage : Usage) : Text :=
  let paths := if usage.choice then ["<SOURCE|BUILD>".toList] else parameters
  "Usage: ".toList ++ Text.joinWith [' '] (["mori".toList] ++ usage.options ++ paths)

/-- A text between single quotes. -/
def quoted (t : Text) : Text := '\'' :: t ++ ['\'']

/-- What is wrong, in one line or with a list. -/
def UsageError.description : UsageError → Text
  | .unexpected argument _ _ =>
    "unexpected argument ".toList ++ quoted argument ++ " found".toList
  | .unexpectedValue option value _ =>
    "unexpected value ".toList ++ quoted value ++ " for ".toList ++ quoted option ++
      " found; no more were expected".toList
  | .emptyValue parameter =>
    "a value is required for ".toList ++ quoted parameter ++ " but none was supplied".toList
  | .missing names =>
    "the following required arguments were not provided:".toList ++
      names.flatMap fun name => "\n  ".toList ++ name

/-- The advice on what is wrong. -/
def UsageError.tip : UsageError → Option Text
  | .unexpected argument .escape _ =>
    some ("to pass ".toList ++ quoted argument ++ " as a value, use ".toList ++
      quoted ("-- ".toList ++ argument))
  | .unexpected _ (.similar option) _ =>
    some ("a similar argument exists: ".toList ++ quoted option)
  | _ => none

/-- How the program should have been called. -/
def UsageError.usage : UsageError → Option Text
  | .emptyValue _ => none
  | .unexpected _ _ usage => some usage.text
  | .unexpectedValue _ _ usage => some usage.text
  | .missing _ => some (Usage.text {})

/-- The message about arguments that make no request. -/
def UsageError.message (e : UsageError) : Text :=
  let tip := e.tip.map fun t => "  tip: ".toList ++ t
  let parts := [some ("error: ".toList ++ e.description), tip, e.usage,
    some "For more information, try '--help'.".toList]
  Text.joinWith ['\n', '\n'] (parts.filterMap id) ++ ['\n']

end StaticSite.CommandLine
