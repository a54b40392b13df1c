import ProbeCampaign.CommandLine.Program
import ProbeCampaign.Store.File
import Std.Time.DateTime.Timestamp

/-!
# The executable

`main` runs the program on the files of the machine. A store is kept in the file
that `Store.render` writes.
-/

namespace ProbeCampaign

/-- What the system means by the number of an error; some come negated. -/
def FileError.ofNumber (number : UInt32) (reason : String) : FileError :=
  match (if number < 0x80000000 then number else 0 - number).toNat with
  | 2 => .notFound
  | 13 => .permissionDenied
  | 17 => .exists
  | 20 => .notADirectory
  | 21 => .isADirectory
  | 22 => .nulInName
  | 36 => .nameTooLong
  | _ => .other reason

/-- What an error of the system means. -/
def FileError.ofSystem : IO.Error → FileError
  | .alreadyExists _ number reason
  | .noFileOrDirectory _ number reason
  | .inappropriateType _ number reason
  | .permissionDenied _ number reason
  | .invalidArgument _ number reason
  | .otherError number reason => .ofNumber number reason
  | e => .other (toString e)

/-- The result of an action, with its error as a value. -/
def attempting {α : Type} (action : IO α) : IO (Except FileError α) := do
  match ← action.toBaseIO with
  | .ok a => pure (.ok a)
  | .error e => pure (.error (.ofSystem e))

/-- The store in the bytes of a file. -/
def storeOfBytes (content : ByteArray) : Except StoreError Store :=
  match Utf8.decode? content.toList >>= Store.parse? with
  | some s => .ok s
  | none => .error .notADatabase

/-- The store in a file, or an empty one if there is no such file. -/
def loadStore (path : String) : IO (Except StoreError Store) := do
  match path.toList.idxOf? '\x00' with
  | some position => pure (.error (.nulInPath position))
  | none =>
    match ← attempting (IO.FS.readBinFile path) with
    | .ok content => pure (storeOfBytes content)
    | .error .notFound => pure (.ok .empty)
    | .error _ => pure (.error (.cannotOpen path))

instance : FileSystem IO where
  read path := attempting (IO.FS.readBinFile path)
  write path text := attempting (IO.FS.writeFile path text)
  makeDirectories path := attempting (IO.FS.createDirAll path)
  fileExists path := return (← attempting (IO.FS.Handle.mk path .read)).toOption.isSome
  openStore path := do
    match ← loadStore path with
    | .error e => pure (.error (.database e))
    | .ok s =>
      match ← attempting (IO.FS.writeFile path s.opened.render) with
      | .ok () => pure s.reopen
      | .error _ => pure (.error (.database (.cannotOpen path)))
  saveStore path s := do
    let _ ← attempting (IO.FS.writeFile path s.render)
  now := do
    let time ← Std.Time.Timestamp.now
    pure time.toSecondsSinceUnixEpoch.val.toNat

end ProbeCampaign

/-- Runs the program on its arguments. -/
def main (args : List String) : IO UInt32 := do
  let home := (← IO.getEnv "HOME").getD "."
  let around : ProbeCampaign.CommandLine.Surroundings :=
    ⟨home, ← IO.getEnv "HEADERPROBE_CONFIG", ← IO.getEnv "HEADERPROBE_DB"⟩
  let ending ← ProbeCampaign.CommandLine.execute around args
  IO.print ending.output
  IO.eprint ending.diagnostics
  pure (UInt32.ofNat ending.exitCode)
