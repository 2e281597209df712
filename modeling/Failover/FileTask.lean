import Failover.Folder

/-! What a command does with files, and what it answers. -/
namespace Failover

structure Printout where
  code : UInt8 := 0
  out : String := ""
  err : String := ""
  deriving DecidableEq

/-- A command answers, or reads or writes a file first and goes on with what came of it: the text
or nothing, or else why that failed. -/
inductive FileTask where
  | answer (a : Printout)
  | read (path : String) (next : Except String String → FileTask)
  | write (path text : String) (next : Except String Unit → FileTask)

def FileTask.run (f : Folder) : FileTask → Printout × Folder
  | answer a => (a, f)
  | read path next => (next ((f.read path).mapError FileFault.text)).run f
  | write path text next =>
    match f.write path text with
    | .ok f => (next (.ok ())).run f
    | .error e => (next (.error e.text)).run f

end Failover
