import DiagramGraph.CommandLine.Run

/-!
# The command-line program

The surroundings are read here, and what was decided is carried out. All
decisions are made elsewhere.
-/

namespace DiagramGraph.CommandLine

open DiagramGraph.Storage

/-- The fault that a failed read stands for. -/
def faultOf : IO.Error → ReadFault
  | .inappropriateType _ _ details => if details = "not a directory" then .notFolder else .isFolder
  | _ => .missing

/-- The text of a file. -/
def readFileText (path : String) : IO (Except ReadFault String) := do
  try
    let bytes ← IO.FS.readBinFile path
    return textOf bytes.toList
  catch error => return .error (faultOf error)

/-- The bytes that are left in a stream, behind those read before. -/
partial def readToEnd (stream : IO.FS.Stream) (bytes : ByteArray) : IO ByteArray := do
  let more ← stream.read 65536
  if more.isEmpty then return bytes else readToEnd stream (bytes ++ more)

/-- The text of the standard input. -/
def readStandardInput : IO (Except ReadFault String) := do
  let bytes ← readToEnd (← IO.getStdin) ByteArray.empty
  return textOf bytes.toList

/-- The inputs that a request needs. -/
def readInputs : Request → IO Inputs
  | .run command => do
      let text ←
        if command.file = "-" then readStandardInput else readFileText command.file
      return { file := fun _ => text, standardInput := text }
  | _ => return { file := fun _ => .error .missing, standardInput := .error .missing }

/-- Run the program on its arguments and return its exit status. -/
def runProgram (arguments : List String) : IO UInt32 := do
  let context ← IO.getEnv Setting.context.variableName
  let base ← IO.getEnv Setting.base.variableName
  let lookup (name : String) : Option String :=
    if name = Setting.context.variableName then context
    else if name = Setting.base.variableName then base
    else none
  let request := Request.ofArguments lookup arguments
  let outcome := request.outcome (← readInputs request)
  (← IO.getStdout).putStr outcome.output
  (← IO.getStderr).putStr outcome.errors
  return UInt32.ofNat outcome.exit

end DiagramGraph.CommandLine

/-- The program. -/
def main (arguments : List String) : IO UInt32 :=
  DiagramGraph.CommandLine.runProgram arguments
