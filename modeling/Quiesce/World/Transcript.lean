import Quiesce.Json.Printer
import Quiesce.Pod.Document
import Quiesce.Program

/-!
# Transcripts

The calls of a program as text, one line each, for whoever follows what a program asks of the world.

* `Call.describe?` is the line of a call; reading the clock leaves none.
-/

namespace Quiesce.Call

def describe? : Call → Option String
  | .list scope => some ("list " ++ scope.describe)
  | .remove scope id => some ("remove " ++ scope.describe ++ " " ++ Text.intText id.toInt)
  | .get namespaceName name => some ("get " ++ namespaceName ++ "/" ++ name)
  | .patch pod more =>
    some ("patch " ++ pod.qualifiedName ++ " @" ++ pod.version.getD "-" ++ " "
      ++ (Pod.annotationsToJson more).render)
  | .delete pod => some ("delete " ++ pod.qualifiedName)
  | .now => none

end Quiesce.Call
