import AssetWatch.Shell.Engine

/-!
# Finding programs

A name without separators is looked for in the directories of a search path. What is there but
cannot be run is remembered as the reason, and the search goes on. A file that is no program of
the system is run by the shell.
-/

namespace AssetWatch.Shell

open Host (Fault)

/-- The paths at which a program may be. -/
def candidates (path name : Octets) : List Octets :=
  (path.splitOn ":").map fun dir => if dir = "" then name else s!"{dir}/{name}"

def isMissing : Fault → Bool
  | .notFound | .notDirectory => true
  | _ => false

/-- The first candidate that can be run. -/
def findAmong (fault : Fault) : List Octets → Sh (Except Fault Octets)
  | [] => pure (.error fault)
  | candidate :: rest => do
    match ← Sh.ask (.status candidate true) with
    | .error found => findAmong (if isMissing found then fault else found) rest
    | .ok st =>
      if st.kind = .file && st.mode &&& 0o111 ≠ 0 then return .ok candidate
      else findAmong .accessDenied rest

def searchPath : Sh Octets := do return (← get).get "PATH"

def findProgram (path name : Octets) : Sh (Except Fault Octets) :=
  findAmong .notFound (candidates path name)

/-- Goes on as the program at a path; an answer means that this is refused. -/
def tryExecute (path : Octets) (args : List Octets) : Sh Fault := do
  let bindings := (← get).bindings
  match ← Sh.ask (.execute path args bindings) with
  | .unknownFormat =>
    Sh.ask (.execute "/bin/sh" ("/bin/sh" :: path :: args.drop 1) bindings)
  | fault => return fault

/-- Tries candidates one after the other. -/
def executeAmong (args : List Octets) (fault : Fault) : List Octets → Sh Fault
  | [] => pure fault
  | candidate :: rest => do
    let found ← tryExecute candidate args
    executeAmong args (if isMissing found then fault else found) rest

/-- Goes on as another program, or stops the shell. -/
def executeProgram (path : Octets) (args : List Octets) : Sh Nat := do
  let name := args.headD ""
  let fault ←
    if name.toList.contains '/' then tryExecute name args
    else executeAmong args .notFound (candidates path name)
  let status := match fault with
    | .tooManyLinks | .nameTooLong | .notFound | .notDirectory => 127
    | _ => 126
  let reason := faultText "not found" fault
  Sh.warn s!"{name}: {reason}"
  throw (.exit status)

end AssetWatch.Shell
