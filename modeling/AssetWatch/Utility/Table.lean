import AssetWatch.Shell.Main
import AssetWatch.Utility.Columns
import AssetWatch.Utility.Copying
import AssetWatch.Utility.Edit.Run
import AssetWatch.Utility.Finding
import AssetWatch.Utility.Naming
import AssetWatch.Utility.Ordering
import AssetWatch.Utility.Reading
import AssetWatch.Utility.Search
import AssetWatch.Utility.Surroundings
import AssetWatch.Utility.Translation

/-!
# The programs that are installed

Every program with the name under which its file lies.
-/

namespace AssetWatch.Utility

open Host (Program)

def tools : List (String × (List Octets → Tool Unit)) := [
  ("[", test), ("arch", arch), ("basename", basename), ("cat", cat), ("chgrp", chown),
  ("chmod", chmod), ("chown", chown), ("comm", comm), ("cp", cp), ("cut", cut), ("date", date),
  ("dirname", dirname), ("echo", echo), ("egrep", egrep), ("env", env), ("expr", expr),
  ("false", decline), ("fgrep", fgrep), ("find", find), ("fold", fold), ("grep", grep),
  ("groups", groups), ("head", head), ("hostname", hostname), ("id", id), ("install", install),
  ("kill", kill), ("link", linkFile), ("ln", ln), ("logname", whoami), ("ls", ls),
  ("mkdir", mkdir), ("mktemp", mktemp), ("mv", mv), ("nice", nice), ("nl", nl),
  ("nohup", nohup), ("nproc", nproc), ("paste", paste), ("printenv", printenv),
  ("printf", printf), ("pwd", pwd), ("readlink", readlink), ("realpath", realpath),
  ("rev", rev), ("rm", rm), ("rmdir", rmdir), ("sed", sed), ("seq", seq), ("setsid", setsid),
  ("sleep", sleep), ("sort", sort), ("stat", stat), ("stdbuf", stdbuf), ("sync", sync),
  ("tac", tac), ("tail", tail), ("tee", tee), ("test", test), ("timeout", timeout),
  ("touch", touch), ("tr", tr), ("true", succeed), ("truncate", truncate), ("tty", tty),
  ("uname", uname), ("uniq", uniq), ("unlink", unlinkFile), ("wc", wc), ("which", which),
  ("whoami", whoami), ("xargs", xargs), ("yes", yes)]

def shellNames : List String := ["sh", "dash", "bash"]

/-- The names of all programs. -/
def installed : List String := shellNames ++ tools.map (·.1)

def programs (name : String) : Option Program :=
  if shellNames.contains name then some Shell.program
  else (tools.lookup name).map Tool.program

end AssetWatch.Utility
