import ArithmeticCloud.Program.Controller
import ArithmeticCloud.Program.Node
import Std.Async.System

/-!
Contract: the program, whose first argument chooses the command.

Owns: the exit codes. They are 2 if the arguments cannot be read, 1 if the
command fails, and 0 otherwise.

Does not own: the arguments of the commands.
-/

namespace ArithmeticCloud.Program

/-- Runs a command whose arguments have been read. -/
def execute {α : Type} (command usage : String) (run : α → Std.Async.Async Unit) :
    CommandLine.Startup α → IO UInt32
  | .misused => do
      IO.eprintln usage
      return 2
  | .refused fault => do
      IO.eprintln (CommandLine.failureText command fault)
      return 1
  | .ready settings => do
      match ← (run settings).block.toBaseIO with
      | .ok () => return 0
      | .error error =>
          IO.eprintln (CommandLine.failureText command (faultOf error))
          return 1

end ArithmeticCloud.Program

open ArithmeticCloud Program

def main : List String → IO UInt32
  | "controller" :: arguments => do
      let processors ← Std.Async.System.getCPUInfo
      execute "controller" CommandLine.controllerUsage runController
        (CommandLine.startController processors.size arguments)
  | "node" :: arguments =>
      execute "node" CommandLine.nodeUsage runNode (CommandLine.startNode arguments)
  | _ => do
      IO.eprintln CommandLine.controllerUsage
      IO.eprintln CommandLine.nodeUsage
      return 2
