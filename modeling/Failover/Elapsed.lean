/-! Spans of time as people read them. -/
namespace Failover

/-- Milliseconds below one second, else the largest unit that fits and every smaller one down to
seconds. -/
def elapsedText (ms : Nat) : String :=
  let secs := ms / 1000
  if secs = 0 then toString ms ++ "ms"
  else if secs < 60 then toString secs ++ "s"
  else if secs < 3600 then toString (secs / 60) ++ "m" ++ toString (secs % 60) ++ "s"
  else toString (secs / 3600) ++ "h" ++ toString (secs % 3600 / 60) ++ "m" ++
    toString (secs % 60) ++ "s"

end Failover
