import GuildRegistry.Store.Disk
import GuildRegistry.Schema.Issue
import GuildRegistry.Log

/-! The ways a store call can fail.

A failed filesystem call that the store lets through keeps its own error. The store's
own failures say which step failed: persisting, decrypting, or reading the snapshot's
contents; a bad number or an unreadable clock is a range failure.
-/

set_option autoImplicit false

namespace GuildRegistry

/-- A failure raised by a store call. -/
inductive StoreError where
  /-- A filesystem call failed and nothing wrapped its error. -/
  | io (e : IoError)
  /-- Writing or reading the snapshot file failed; the file on disk is unchanged. The cause
  is the error of the filesystem call that failed. -/
  | persistence (message : String) (cause : IoError)
  /-- The snapshot is not authentic under the key. -/
  | decryption (message : String)
  /-- The snapshot decrypted, but is not JSON or not a document; the issues are the
  document's, when it was JSON. -/
  | badSnapshot (message : String) (issues : Option (List Schema.Issue))
  /-- A number out of range, or a time that cannot be written. -/
  | range (message : String)
  /-- A text read as JSON is not JSON; the message is the reader's. -/
  | notJson (message : String)
  /-- A value that cannot be converted to a number raised a type error. -/
  | typeError (message : String)
  deriving Repr

namespace StoreError

def name : StoreError → String
  | .io _ => "Error"
  | .persistence _ _ => "PersistenceError"
  | .decryption _ => "DecryptionError"
  | .badSnapshot _ _ => "SnapshotFormatError"
  | .range _ => "RangeError"
  | .notJson _ => "SyntaxError"
  | .typeError _ => "TypeError"

def message : StoreError → String
  | .io e => e.message
  | .persistence m _ => m
  | .decryption m => m
  | .badSnapshot m _ => m
  | .range m => m
  | .notJson m => m
  | .typeError m => m

/-- The log field that shows the failure. -/
def field (e : StoreError) : String × Json := LogLine.errorField e.name e.message

/-- The failure of reading a clock that holds no time. -/
def invalidTime : StoreError := .range "Invalid time value"

end StoreError

end GuildRegistry
