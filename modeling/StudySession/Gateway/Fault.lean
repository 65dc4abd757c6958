import StudySession.Upload.Error

/-!
# Why a gateway call fails

Connections that fail, and answers that say the gateway is busy or broken, may pass; everything else
is a refusal.
-/

namespace StudySession

/-- Why a call on a gateway fails. -/
inductive GatewayFault where
  /-- No gateway is configured. -/
  | notConfigured
  /-- The object has no web address. -/
  | badAddress
  /-- The content type cannot be sent. -/
  | badContentType
  | unreachable
  /-- The gateway answered with a status other than success. -/
  | status (code : Nat) (body : String)
  /-- A created upload came without an id. -/
  | noUploadId
  /-- A part was acknowledged without a tag. -/
  | noTag (part : Nat)
  deriving DecidableEq, Repr

namespace GatewayFault

/-- The statuses of a failure that may pass: the gateway took too long, has too many requests, or is
broken. -/
def isPassing (code : Nat) : Bool := code == 408 || code == 429 || decide (500 ≤ code ∧ code < 600)

def reason : GatewayFault → String
  | notConfigured => "upload endpoint is not configured"
  | badAddress => "the object has no web address"
  | badContentType => "the content type cannot be sent"
  | unreachable => "the gateway did not answer"
  | status code body => "HTTP " ++ toString code ++ ": " ++ body
  | noUploadId => "the answer holds no upload id"
  | noTag part => "part " ++ toString part ++ " response had no ETag"

/-- Whether the call may be made again. -/
def isTransient : GatewayFault → Bool
  | unreachable => true
  | status code _ => isPassing code
  | noTag _ => true
  | _ => false

def storeError (fault : GatewayFault) : StoreError :=
  if fault.isTransient then .transient fault.reason else .rejected fault.reason

end GatewayFault

end StudySession
