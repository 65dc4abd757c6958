import StudySession.Number.Duration

/-!
# Errors of uploading

A `StoreError` is what a store answers to one call, and an `UploadError` what an upload reports. A
transient error may pass when the call is made again.
-/

namespace StudySession

/-- The error of one call on a store. -/
inductive StoreError where
  | transient (reason : String)
  | rejected (reason : String)
  deriving DecidableEq, Repr

namespace StoreError

/-- Whether the call may be made again. -/
def isTransient : StoreError → Bool
  | transient _ => true
  | rejected _ => false

def message : StoreError → String
  | transient reason => "Transient storage failure: " ++ reason
  | rejected reason => "Storage rejected request: " ++ reason

end StoreError

/-- Why a part is lost. -/
inductive PartFault where
  /-- The store refused it, or failed too often. -/
  | refused (error : StoreError)
  | neverSubmitted
  /-- Its task ended without an answer. -/
  | neverSettled
  /-- The task of the whole upload ended without an answer. -/
  | taskEnded
  deriving DecidableEq, Repr

def PartFault.message : PartFault → String
  | refused error => error.message
  | neverSubmitted => "part was never submitted"
  | neverSettled => "part upload never settled"
  | taskEnded => "upload task ended abnormally"

/-- Why an upload cannot be completed. -/
inductive CompletionFault where
  /-- There is no part to complete it from. -/
  | noData
  /-- The store refused the completion, or failed too often. -/
  | refused (error : StoreError)
  /-- A refusal passed on in its own words. -/
  | stated (reason : String)
  deriving DecidableEq, Repr

def CompletionFault.message : CompletionFault → String
  | noData => "no data was recorded"
  | refused error => error.message
  | stated reason => reason

/-- The error of an upload. -/
inductive UploadError where
  | transient (reason : String)
  /-- A part is lost after a number of attempts. -/
  | fatal (part attempts : Nat) (fault : PartFault)
  | createFailed (error : StoreError)
  | completionRejected (fault : CompletionFault)
  | abortFailed (error : StoreError)
  /-- The upload was given up. -/
  | sessionFailed
  /-- There is no open upload. -/
  | notStarted
  /-- The wait for the upload was given up. -/
  | timeout (wait : Duration)
  deriving DecidableEq, Repr

namespace UploadError

/-- A store's error as an upload's. -/
def ofStore : StoreError → UploadError
  | .transient reason => transient reason
  | .rejected reason => completionRejected (.stated reason)

/-- Whether the upload is lost; a transient error or a timeout leaves it open. -/
def isFatal : UploadError → Bool
  | transient _ => false
  | timeout _ => false
  | _ => true

def message : UploadError → String
  | transient reason => "Transient upload failure: " ++ reason
  | fatal part attempts fault =>
    "Part " ++ toString part ++ " failed after " ++ toString attempts ++ " attempt(s): " ++
      fault.message
  | createFailed error => "Could not create multipart upload: " ++ error.message
  | completionRejected fault => "Multipart completion rejected: " ++ fault.message
  | abortFailed error => "Could not abort multipart upload: " ++ error.message
  | sessionFailed => "Upload session failed; no further parts accepted"
  | notStarted => "Upload has not been created"
  | timeout wait => "Timed out after " ++ wait.text ++ " waiting for upload to complete"

end UploadError

end StudySession
