import ProbeCampaign.Error
import ProbeCampaign.Store

/-!
# Files

`FileSystem` lists what the program does with files: it reads and writes whole
files, makes directories, and opens and saves stores.
-/

namespace ProbeCampaign

/-- Access to files in a monad. -/
class FileSystem (m : Type → Type) where
  /-- The bytes of a file. -/
  read : String → m (Except FileError ByteArray)
  /-- Replaces a file by a text; its directory must exist. -/
  write : String → String → m (Except FileError Unit)
  /-- Makes a directory and all above it, as far as they are missing. -/
  makeDirectories : String → m (Except FileError Unit)
  /-- Whether there is a file or directory. -/
  fileExists : String → m Bool
  /-- The store of a file; a file that is missing or empty holds an empty one. -/
  openStore : String → m (Except Failure Store)
  /-- Replaces the store of a file. -/
  saveStore : String → Store → m Unit
  /-- The seconds since the epoch. -/
  now : m Nat

end ProbeCampaign
