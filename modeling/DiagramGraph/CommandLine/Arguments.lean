/-!
# Command-line arguments

The program has four commands. Each takes one file, and the conversion takes a
context and a base as options, each of which may come from a variable of the
surroundings instead. An option is written with its long name or its letter,
with the value behind an equals sign, directly behind the letter or as the next
argument; a next argument that begins with a dash is no value. Behind `--`
everything is a file.
-/

namespace DiagramGraph.CommandLine

/-- What the program is asked to do with a file. -/
inductive Command where
  | detect (file : String)
  | parse (file : String)
  | inspect (file : String)
  | convert (file context base : String)
  deriving DecidableEq, Repr

/-- What a list of arguments asks for. -/
inductive Request where
  | run (command : Command)
  | version
  | help
  | misuse
  deriving DecidableEq, Repr

/-- The options of a conversion. -/
inductive Setting where
  | context
  | base
  deriving DecidableEq, Repr

namespace Setting

/-- The option with a long name. -/
def ofLongName? (name : List Char) : Option Setting :=
  if name = "context".toList then some .context
  else if name = "id".toList then some .base
  else none

/-- The option with a letter. -/
def ofLetter? : Char → Option Setting
  | 'c' => some .context
  | 'i' => some .base
  | _ => none

/-- The variable that stands in for an option. -/
def variableName : Setting → String
  | .context => "PUML_LD_CONTEXT"
  | .base => "PUML_LD_ID"

end Setting

/-- What has been read of the arguments of a command. -/
structure Arguments where
  file : Option String := none
  context : Option String := none
  base : Option String := none
  deriving DecidableEq, Repr

namespace Arguments

/-- Give an option its value, which must not be given twice. -/
def set? (arguments : Arguments) (setting : Setting) (value : String) : Option Arguments :=
  match setting with
  | .context =>
      if arguments.context.isSome then none else some { arguments with context := some value }
  | .base =>
      if arguments.base.isSome then none else some { arguments with base := some value }

/-- Give the file, which must not be empty and not be given twice. -/
def setFile? (arguments : Arguments) (file : String) : Option Arguments :=
  if arguments.file.isSome || file == "" then none
  else some { arguments with file := some file }

end Arguments

/-! ## Reading one argument -/

/-- What one argument is. -/
inductive Argument where
  | file (file : String)
  | endOfOptions
  | help
  | setting (setting : Setting) (value : Option String)
  | unknown
  deriving DecidableEq, Repr

/-- A long option, given the text behind its two dashes. -/
def longArgument (text : List Char) : Argument :=
  let name := text.takeWhile (· != '=')
  let value? :=
    match text.dropWhile (· != '=') with
    | _ :: value => some (String.ofList value)
    | [] => none
  match Setting.ofLongName? name with
  | some setting => .setting setting value?
  | none => if name = "help".toList && value?.isNone then .help else .unknown

/-- The value that stands directly behind the letter of an option. -/
def attachedValue : List Char → Option String
  | [] => none
  | '=' :: value => some (String.ofList value)
  | value => some (String.ofList value)

/-- A short option, given its letter and the text behind it. -/
def shortArgument (letter : Char) (rest : List Char) : Argument :=
  match Setting.ofLetter? letter with
  | some setting => .setting setting (attachedValue rest)
  | none => if letter = 'h' then .help else .unknown

/-- What an argument is by itself. A lone dash is a file. -/
def Argument.ofText (text : String) : Argument :=
  match text.toList with
  | ['-', '-'] => .endOfOptions
  | '-' :: '-' :: rest => longArgument rest
  | '-' :: letter :: rest => shortArgument letter rest
  | _ => .file text

/-- Whether an argument can be the value of the option before it. -/
def isValue (text : String) : Bool :=
  match text.toList with
  | '-' :: _ :: _ => false
  | _ => true

/-! ## Reading all arguments -/

/-- The result of reading arguments. -/
inductive Reading where
  | complete (arguments : Arguments)
  | help
  | misuse
  deriving DecidableEq, Repr

/-- Read the files behind the end of the options. -/
def readFiles (arguments : Arguments) : List String → Reading
  | [] => .complete arguments
  | file :: rest =>
      match arguments.setFile? file with
      | some arguments => readFiles arguments rest
      | none => .misuse

/-- Read the arguments of a command. Only some commands take options. -/
def readArguments (takesSettings : Bool) (arguments : Arguments) : List String → Reading
  | [] => .complete arguments
  | text :: rest =>
      match Argument.ofText text with
      | .file file =>
          match arguments.setFile? file with
          | some arguments => readArguments takesSettings arguments rest
          | none => .misuse
      | .endOfOptions => readFiles arguments rest
      | .help => .help
      | .unknown => .misuse
      | .setting setting (some value) =>
          match if takesSettings then arguments.set? setting value else none with
          | some arguments => readArguments takesSettings arguments rest
          | none => .misuse
      | .setting setting none =>
          match rest with
          | [] => .misuse
          | value :: rest =>
              match if takesSettings && isValue value then arguments.set? setting value
                else none with
              | some arguments => readArguments takesSettings arguments rest
              | none => .misuse

/-- The request for a command that takes a file only. -/
def fileRequest (command : String → Command) (texts : List String) : Request :=
  match readArguments false {} texts with
  | .help => .help
  | .misuse => .misuse
  | .complete arguments =>
      match arguments.file with
      | some file => .run (command file)
      | none => .misuse

/-- The request for a conversion. -/
def conversionRequest (lookup : String → Option String) (texts : List String) : Request :=
  match readArguments true {} texts with
  | .help => .help
  | .misuse => .misuse
  | .complete arguments =>
      match arguments.file, arguments.context <|> lookup Setting.context.variableName,
        arguments.base <|> lookup Setting.base.variableName with
      | some file, some context, some base => .run (.convert file context base)
      | _, _, _ => .misuse

/-- The names of the commands. -/
def commandNames : List String :=
  ["detect", "parse", "inspect", "convert"]

/-- The request for help about a command. -/
def helpRequest : List String → Request
  | [] => .help
  | [name] => if commandNames.contains name || name == "help" then .help else .misuse
  | _ => .misuse

/-- What a list of arguments asks for. -/
def Request.ofArguments (lookup : String → Option String) : List String → Request
  | [] => .misuse
  | first :: rest =>
      if first = "detect" then fileRequest .detect rest
      else if first = "parse" then fileRequest .parse rest
      else if first = "inspect" then fileRequest .inspect rest
      else if first = "convert" then conversionRequest lookup rest
      else if first = "help" then helpRequest rest
      else if first = "--version" then .version
      else if first = "--help" then .help
      else
        match first.toList with
        | '-' :: 'V' :: _ => .version
        | '-' :: 'h' :: _ => .help
        | _ => .misuse

end DiagramGraph.CommandLine
