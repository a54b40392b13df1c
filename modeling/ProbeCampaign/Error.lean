/-!
# Failures

`Failure` lists what can go wrong in a campaign. `message` words a failure, and
`causes` lists the messages of what led to it, the nearest first, where a
report shows the whole chain.
-/

namespace ProbeCampaign

/-- What the file system refused. -/
inductive FileError where
  | notFound
  | exists
  | notADirectory
  | isADirectory
  | nulInName
  | nameTooLong
  | permissionDenied
  | invalidText
  | other (reason : String)
  deriving DecidableEq

/-- The wording of a refusal. -/
def FileError.message : FileError → String
  | .notFound => "No such file or directory (os error 2)"
  | .exists => "File exists (os error 17)"
  | .notADirectory => "Not a directory (os error 20)"
  | .isADirectory => "Is a directory (os error 21)"
  | .nulInName => "file name contained an unexpected NUL byte"
  | .nameTooLong => "File name too long (os error 36)"
  | .permissionDenied => "Permission denied (os error 13)"
  | .invalidText => "stream did not contain valid UTF-8"
  | .other reason => reason

/-- What the store refused. -/
inductive StoreError where
  | foreignKey
  | notADatabase
  | cannotOpen (path : String)
  | nulInPath (position : Nat)
  | tooManyParameters (limit : Nat) (sql : String) (offset : Nat)
  | tooDeep (limit : Nat)
  deriving DecidableEq

/-- The wording of a refusal. -/
def StoreError.message : StoreError → String
  | .foreignKey => "FOREIGN KEY constraint failed"
  | .notADatabase => "file is not a database"
  | .cannotOpen path => "unable to open database file: " ++ path
  | .nulInPath position => "nul byte found in provided data at position: " ++ toString position
  | .tooManyParameters limit sql offset =>
    "variable number must be between ?1 and ?" ++ toString limit ++ " in " ++ sql ++
      " at offset " ++ toString offset
  | .tooDeep limit =>
    "Expression tree is too large (maximum depth " ++ toString limit ++ ")"

/-- The code and wording that the storage engine gives to a refusal; a path that
is no path does not reach it. -/
def StoreError.code : StoreError → String
  | .foreignKey => "Error code 787: Foreign key constraint failed"
  | .notADatabase => "Error code 26: File opened that is not a database file"
  | .cannotOpen _ => "Error code 14: Unable to open the database file"
  | .nulInPath position => (StoreError.nulInPath position).message
  | .tooManyParameters _ _ _ | .tooDeep _ => "Error code 1: SQL error or missing database"

/-- What can go wrong in a campaign. -/
inductive Failure where
  | io (error : FileError)
  | database (error : StoreError)
  | serialization
  | notFound (kind id : String)
  | invalidConfig (reason : String)
  | invalidUrl (url reason : String)
  | unknownRespType (name : String)
  | storeUnavailable (reason : String)
  | internal (reason : String)
  | configParse
  | configWrite
  | upsertExhausted (label : String) (attempts : Nat) (source : Failure)
  | unknownFamily (label : String)
  deriving DecidableEq

namespace Failure

/-- The wording of a failure. -/
def message : Failure → String
  | .io e => "IO error: " ++ e.message
  | .database e => "Database error: " ++ e.message
  | .serialization => "Serialization error"
  | .notFound kind id => "Resource not found: " ++ kind ++ " with id " ++ id
  | .invalidConfig reason => "Invalid configuration: " ++ reason
  | .invalidUrl url reason => "Invalid test URL " ++ url ++ ": " ++ reason
  | .unknownRespType name => "Unknown response type: " ++ name
  | .storeUnavailable reason => "Store unavailable: " ++ reason
  | .internal reason => "Internal error: " ++ reason
  | .configParse => "Config parse error"
  | .configWrite => "Config write error"
  | .upsertExhausted label attempts source =>
    "Persisting response for " ++ label ++ " failed after " ++ toString attempts ++
      " attempts: " ++ source.message
  | .unknownFamily label => "Unknown header family: " ++ label

/-- The messages of what led to a failure, the nearest first. -/
def causes : Failure → List String
  | .io e => [e.message]
  | .database e => [e.message, e.code]
  | .upsertExhausted _ _ source => source.message :: causes source
  | _ => []

end Failure

end ProbeCampaign
