import Failover.Host
import Failover.Text.Blank
import Failover.Text.Numeral
import Failover.Text.Split

/-! Host lists such as `db1:3307, db2`: entries between commas, each a name and perhaps a port. -/
namespace Failover.HostList

inductive Flaw where
  | port (entry : String)
  | entry (entry : String)
  | empty
  deriving DecidableEq

def Flaw.message : Flaw → String
  | .port e => "Invalid port in host entry: " ++ e
  | .entry e => "Invalid host entry: " ++ e
  | .empty => "host list is empty"

def defaultPort : UInt16 := 3306

/-- The last colon of an entry parts the name from the port. -/
def parseEntry (entry : List Char) : Except Flaw Host :=
  let place (name : List Char) (port : UInt16) : Except Flaw Host :=
    if name.isEmpty || port == 0 then .error (.entry (String.ofList entry))
    else .ok { endpoint := ⟨String.ofList name, port⟩ }
  match Text.splitLast? ':' entry with
  | none => place entry defaultPort
  | some (name, port) =>
    match Text.port? port with
    | none => .error (.port (String.ofList entry))
    | some port => place name port

def entries (text : List Char) : List (List Char) :=
  ((Text.splitAll ',' text).map Text.trim).filter (!·.isEmpty)

def parse (text : String) : Except Flaw (List Host) :=
  match (entries text.toList).mapM parseEntry with
  | .ok [] => .error .empty
  | answer => answer

end Failover.HostList
