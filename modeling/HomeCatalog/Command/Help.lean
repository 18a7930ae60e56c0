/-!
# Help

What the program says about its use.
-/

namespace HomeCatalog.Command

/-- How the program is called. -/
def usage : String :=
  "usage: habconf [-h] COMMAND ...\n" ++
    "       habconf init [-h] [directory]\n" ++
    "       habconf convert [-h] [--config FILE] [--input FOLDER] [--output FOLDER]\n" ++
    "                       [--filter EXPRESSION] [--include-default-endpoints] [--verbose]\n" ++
    "                       [directory]\n"

/-- What the program does and what its switches mean, without the last line end. -/
def help : String :=
  usage ++
    "\nhabconf: convert a home-automation JSON database into configuration files\n" ++
    "\ncommands:\n" ++
    "  init       Write a default converter configuration to a directory\n" ++
    "  convert    Convert a JSON database into device and variable files\n" ++
    "\nswitches:\n" ++
    "  -h, --help                   Show this text\n" ++
    "  --config FILE                Configuration file (default: that of the directory)\n" ++
    "  --input FOLDER               JSON database folder\n" ++
    "  --output FOLDER              Output folder\n" ++
    "  --filter EXPRESSION          Convert records only whose name matches\n" ++
    "  --include-default-endpoints  Also write endpoints that have no properties\n" ++
    "  --verbose                    Print progress information"

end HomeCatalog.Command
