import Embedding.CommandLine.Arguments

namespace Embedding.CommandLine

def programName : String := "tether"

def programVersion : String := "0.1.0"

def Topic.summary : Topic → String
  | .all => "Run scripts and bytecode in an embedded QuickJS context"
  | .run => "Evaluate a script file and print its result as JSON"
  | .eval => "Evaluate inline source and print its result as JSON"
  | .compile => "Compile a script file to bytecode"
  | .exec => "Run a bytecode file and print its result as JSON"
  | .help => "Print this message or the help of the given subcommand(s)"

def Topic.usage : Topic → String
  | .all => "tether [OPTIONS] <COMMAND>"
  | .run => "tether run [OPTIONS] <FILE>"
  | .eval => "tether eval [OPTIONS] <CODE>"
  | .compile => "tether compile [OPTIONS] --output <OUTPUT> <FILE>"
  | .exec => "tether exec [OPTIONS] <BYTECODE>"
  | .help => "tether help [COMMAND]..."

def configHelp : String := "      --config <CONFIG>  JSON file with the embedding configuration"

def logHelp : String := "      --log <LOG>        Log filter (\x60info\x60, \x60tether_script=debug\x60, ...) [default: warn]"

def outputHelp : String := "  -o, --output <OUTPUT>  "

def helpHelp : String := "  -h, --help             Print help"

def versionHelp : String := "  -V, --version          Print version"

def commandHelp (name : String) (t : Topic) : String :=
  "  " ++ name ++ String.ofList (List.replicate (9 - name.length) ' ') ++ t.summary

def Topic.sections : Topic → List (String × List String)
  | .all =>
    [("Commands:", [commandHelp "run" .run, commandHelp "eval" .eval, commandHelp "compile" .compile,
        commandHelp "exec" .exec, commandHelp "help" .help]),
     ("Options:", [configHelp, logHelp, helpHelp, versionHelp])]
  | .run => [("Arguments:", ["  <FILE>  "]), ("Options:", [configHelp, logHelp, helpHelp])]
  | .eval => [("Arguments:", ["  <CODE>  "]), ("Options:", [configHelp, logHelp, helpHelp])]
  | .compile => [("Arguments:", ["  <FILE>  "]), ("Options:", [configHelp, outputHelp, logHelp, helpHelp])]
  | .exec => [("Arguments:", ["  <BYTECODE>  "]), ("Options:", [configHelp, logHelp, helpHelp])]
  | .help => [("Arguments:", ["  [COMMAND]...  Print help for the subcommand(s)"])]

def Topic.text (t : Topic) : String :=
  t.summary ++ "\n\nUsage: " ++ t.usage ++ "\n" ++
    String.join (t.sections.map fun (title, lines) =>
      "\n" ++ title ++ "\n" ++ String.join (lines.map fun l => l ++ "\n"))

def versionText : String := programName ++ " " ++ programVersion ++ "\n"

def Refusal.answer? : Refusal → Option String
  | .help t => some t.text
  | .version => some versionText
  | _ => none

end Embedding.CommandLine
