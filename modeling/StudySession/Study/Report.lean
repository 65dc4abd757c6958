import StudySession.Json.Printer
import StudySession.Study.Resolution

/-!
# Reports of resolved studies

`Resolution.report` writes a resolution with one member to a line. The frames come before the
conditions and each frame begins with its id, so unlike in other documents the fields are not in
order.
-/

namespace StudySession

def ResolvedFrame.report (frame : ResolvedFrame) : String :=
  Json.block 2 "\x7b" "\x7d"
    (("\"id\": " ++ Json.quote frame.id) :: Json.prettyFields 3 frame.properties)

def Resolution.report (r : Resolution) : String :=
  Json.block 0 "\x7b" "\x7d"
    ["\"frames\": " ++ Json.block 1 "[" "]" (r.frames.map ResolvedFrame.report),
      "\"conditions\": " ++ Json.prettyAt 1 (.obj r.conditions)]

end StudySession
