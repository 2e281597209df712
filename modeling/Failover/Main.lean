import Failover.CommandLine

/-! The program on the files and the outputs of the system. -/
namespace Failover

def attempt {α : Type} (act : IO α) : IO (Except String α) := do
  try return .ok (← act) catch e => return .error (toString e)

def FileTask.perform : FileTask → IO Printout
  | answer a => return a
  | read path next => do (next (← attempt (IO.FS.readFile path))).perform
  | write path text next => do (next (← attempt (IO.FS.writeFile path text))).perform

end Failover

def main (args : List String) : IO UInt32 := do
  let a ← (Failover.CommandLine.request args).task.perform
  IO.print a.out
  IO.eprint a.err
  return a.code.toUInt32
