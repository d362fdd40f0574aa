import Callflow.Command.Path
import Callflow.Command.Run
import Std.Time.DateTime.Timestamp

/-!
The program: the command with the files, the input and the outputs of the system.
-/

namespace Callflow.Command

/-- The number of a system error, which some calls give negated. -/
def systemCode (code : UInt32) : UInt32 := if code < 0x80000000 then code else 0 - code

def FileError.ofSystem : IO.Error → FileError
  | .noFileOrDirectory .. => .notFound
  | .permissionDenied .. => .notPermitted
  | .inappropriateType _ code _ => if systemCode code = 20 then .notFolder else .isFolder
  | .invalidArgument _ code text => if systemCode code = 36 then .nameTooLong else .other text
  | .userError _ => .notText
  | e => .other (toString e)

def attempt {α : Type} (path : String) (act : IO α) : IO (Except FileError α) := do
  match Path.read path with
  | .error e => return .error e
  | .ok _ =>
    match ← act.toBaseIO with
    | .ok a => return .ok a
    | .error e => return .error (.ofSystem e)

instance : Host IO where
  readFile path := attempt path (IO.FS.readFile path)
  writeFile path text := attempt path (IO.FS.writeFile path text)
  readLine := do (← IO.getStdin).getLine
  out := IO.print
  err := IO.eprint
  now := do return (← Std.Time.Timestamp.now).toSecondsSinceUnixEpoch.val

end Callflow.Command

def main (args : List String) : IO UInt32 := do
  return UInt32.ofNat (← Callflow.Command.run args)
