import Flowchart.Text.Basic

/-! # Commands and their usage

The program has five commands.  Each of them, and the program itself, has a usage line, a help
text and options of its own.
-/

namespace Flowchart.Command

/-- What the program can be asked to do. -/
inductive Task where
  | examples
  | validate
  | ast
  | code
  | simulate
deriving DecidableEq

namespace Task

/-- The name of a command. -/
def name : Task → Text
  | .examples => "examples"
  | .validate => "validate"
  | .ast => "ast"
  | .code => "code"
  | .simulate => "simulate"

/-- The commands, in the order in which they are listed. -/
def all : List Task :=
  [.examples, .validate, .ast, .code, .simulate]

/-- The command with a name. -/
def find? (s : Text) : Option Task :=
  all.find? (·.name == s)

/-- Whether a command works on a flowchart. -/
def needsChart : Task → Bool
  | .examples => false
  | .validate | .ast | .code | .simulate => true

end Task

/-- An option. -/
inductive Flag where
  | help
  | logLevel
  | example
  | labelsAsCode
  | var
deriving DecidableEq

namespace Flag

/-- The spellings of an option. -/
def names : Flag → List Text
  | .help => ["-h", "--help"]
  | .logLevel => ["--log-level"]
  | .example => ["--example"]
  | .labelsAsCode => ["--labels-as-code"]
  | .var => ["--var"]

/-- An option as reports name it. -/
def title : Flag → Text
  | .help => "-h/--help"
  | .logLevel => "--log-level"
  | .example => "--example"
  | .labelsAsCode => "--labels-as-code"
  | .var => "--var"

/-- Whether an option is followed by a value. -/
def takesValue : Flag → Bool
  | .help | .labelsAsCode => false
  | .logLevel | .example | .var => true

end Flag

/-- What a usage line is about: the program or one of its commands. -/
inductive Topic where
  | program
  | task (t : Task)
deriving DecidableEq

namespace Topic

/-- How the program is called. -/
def call : Topic → Text
  | .program => "flowchart"
  | .task t => "flowchart " ++ t.name

/-- The options of a topic, in order. -/
def flags : Topic → List Flag
  | .program => [.help, .logLevel]
  | .task .examples => [.help]
  | .task .simulate => [.help, .example, .labelsAsCode, .var]
  | .task _ => [.help, .example, .labelsAsCode]

/-- The options of a topic by their spellings. -/
def spellings (t : Topic) : List (Text × Flag) :=
  t.flags.flatMap fun f => f.names.map fun s => (s, f)

/-- The usage of a topic. -/
def usage (t : Topic) : Text :=
  "usage: " ++ t.call ++
    match t with
    | .program =>
      " [-h] [--log-level LOG_LEVEL]\n" ++
      "                 \x7bexamples,validate,ast,code,simulate\x7d ...\n"
    | .task .examples => " [-h]\n"
    | .task .simulate =>
      " [-h] [--example EXAMPLE] [--labels-as-code]\n" ++
      "                          [--var NAME=VALUE]\n" ++
      "                          [file]\n"
    | .task _ => " [-h] [--example EXAMPLE] [--labels-as-code] [file]\n"

/-- What is said about the file and the options that all commands on flowcharts have. -/
def sourceHelp : Text :=
  "positional arguments:\n" ++
  "  file               flowchart model (JSON with nodes and links)\n" ++
  "\n" ++
  "options:\n" ++
  "  -h, --help         show this help message and exit\n" ++
  "  --example EXAMPLE  use a bundled example instead of a file\n" ++
  "  --labels-as-code   take actions and conditions from node labels when missing\n"

/-- The help of a topic. -/
def help (t : Topic) : Text :=
  t.usage ++ "\n" ++
    match t with
    | .program =>
      "Flowchart validator and simulator\n" ++
      "\n" ++
      "positional arguments:\n" ++
      "  \x7bexamples,validate,ast,code,simulate\x7d\n" ++
      "    examples            list bundled examples\n" ++
      "    validate            check structural rules\n" ++
      "    ast                 print the AST with statistics\n" ++
      "    code                print the Python tree structure\n" ++
      "    simulate            run the flowchart\n" ++
      "\n" ++
      "options:\n" ++
      "  -h, --help            show this help message and exit\n" ++
      "  --log-level LOG_LEVEL\n" ++
      "                        logging level (default: $FLOWCHART_LOG_LEVEL or\n" ++
      "                        WARNING)\n"
    | .task .examples =>
      "options:\n" ++
      "  -h, --help  show this help message and exit\n"
    | .task .simulate =>
      sourceHelp ++
      "  --var NAME=VALUE   initial variable (integer or true/false), repeatable\n"
    | .task _ => sourceHelp

end Topic

end Flowchart.Command
