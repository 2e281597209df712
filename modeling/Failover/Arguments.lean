/-! The arguments of a command: values under a word such as `--mode` or a letter such as `-m`, in
any order and each at most once. -/
namespace Failover

/-- A value that a command takes. -/
structure Parameter where
  word : String
  letter : Option Char := none
  help : String
  /-- The command does not run without it. -/
  needed : Bool := false
  /-- What stands in for a value that is not given. -/
  fallback : Option String := none
  accepts : String → Bool := fun _ => true

abbrev Given := List (String × String)

namespace Arguments

inductive Stop where
  /-- Its help page was asked for. -/
  | help
  | misuse
  deriving DecidableEq

/-- What one argument says. -/
inductive Token where
  | stop (s : Stop)
  /-- The double dash, which no parameter may follow. -/
  | last
  /-- A parameter, whose value is the next argument if it is not attached. -/
  | named (p : Parameter) (attached : Option String)

def cutWord (cs : List Char) : String × Option String :=
  let word := String.ofList (cs.takeWhile (· != '='))
  match cs.dropWhile (· != '=') with
  | [] => (word, none)
  | _ :: value => (word, some (String.ofList value))

def attached? : List Char → Option String
  | [] => none
  | '=' :: value => some (String.ofList value)
  | value => some (String.ofList value)

def token (parameters : List Parameter) : List Char → Token
  | ['-', '-'] => .last
  | '-' :: '-' :: cs =>
    match cutWord cs with
    | ("help", none) => .stop .help
    | (word, value) =>
      match parameters.find? (·.word == word) with
      | some p => .named p value
      | none => .stop .misuse
  | '-' :: 'h' :: _ => .stop .help
  | '-' :: letter :: cs =>
    match parameters.find? (·.letter == some letter) with
    | some p => .named p (attached? cs)
    | none => .stop .misuse
  | _ => .stop .misuse

def give (p : Parameter) (value : String) (given : Given) : Except Stop Given :=
  if p.accepts value && !(given.lookup p.word).isSome then .ok (given ++ [(p.word, value)])
  else .error .misuse

def isValue : List Char → Bool
  | '-' :: _ :: _ => false
  | _ => true

/-- Reads the arguments from left to right up to the first one that stops the command. -/
def scan (parameters : List Parameter) : Given → List String → Except Stop Given
  | given, [] => .ok given
  | given, arg :: args =>
    match token parameters arg.toList with
    | .stop s => .error s
    | .last => if args.isEmpty then .ok given else .error .misuse
    | .named p (some value) => give p value given >>= fun given => scan parameters given args
    | .named p none =>
      match args with
      | [] => .error .misuse
      | value :: args =>
        if isValue value.toList then give p value given >>= fun given => scan parameters given args
        else .error .misuse

end Arguments
end Failover
