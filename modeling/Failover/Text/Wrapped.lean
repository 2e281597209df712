/-! Words laid out in lines of a given width. -/
namespace Failover.Text

/-- Fills each line with as many words as fit; a word too long for any line has one of its own. The
line that is being filled comes first. -/
def fill (width : Nat) (line : String) : List String → List String
  | [] => [line]
  | word :: words =>
    if line.length + 1 + word.length ≤ width then fill width (line ++ " " ++ word) words
    else line :: fill width word words

def wrapped (width : Nat) (text : String) : List String :=
  match text.splitOn " " with
  | [] => []
  | word :: words => fill width word words

end Failover.Text
