/-!
# What the operating system refuses

The faults that a request to the system can meet, with the wording of the system.
-/

namespace AssetWatch.Host

inductive Fault
  | notPermitted
  | notFound
  | noProcess
  | interrupted
  | tooManyArguments
  | unknownFormat
  | badDescriptor
  | noChild
  | wouldBlock
  | accessDenied
  | exists
  | crossDevice
  | notDirectory
  | isDirectory
  | invalid
  | noSpace
  | badSeek
  | readOnly
  | brokenPipe
  | nameTooLong
  | notEmpty
  | tooManyLinks
  | busyText
  | notUtf8
  | nulInPath
  | nulInArgument
  deriving DecidableEq, Repr

namespace Fault

/-- The wording and number of a fault that the system itself reports. -/
def wording : Fault → Option (String × Nat)
  | .notPermitted => some ("Operation not permitted", 1)
  | .notFound => some ("No such file or directory", 2)
  | .noProcess => some ("No such process", 3)
  | .interrupted => some ("Interrupted system call", 4)
  | .tooManyArguments => some ("Argument list too long", 7)
  | .unknownFormat => some ("Exec format error", 8)
  | .badDescriptor => some ("Bad file descriptor", 9)
  | .noChild => some ("No child processes", 10)
  | .wouldBlock => some ("Resource temporarily unavailable", 11)
  | .accessDenied => some ("Permission denied", 13)
  | .exists => some ("File exists", 17)
  | .crossDevice => some ("Invalid cross-device link", 18)
  | .notDirectory => some ("Not a directory", 20)
  | .isDirectory => some ("Is a directory", 21)
  | .invalid => some ("Invalid argument", 22)
  | .busyText => some ("Text file busy", 26)
  | .noSpace => some ("No space left on device", 28)
  | .badSeek => some ("Illegal seek", 29)
  | .readOnly => some ("Read-only file system", 30)
  | .brokenPipe => some ("Broken pipe", 32)
  | .nameTooLong => some ("File name too long", 36)
  | .notEmpty => some ("Directory not empty", 39)
  | .tooManyLinks => some ("Too many levels of symbolic links", 40)
  | .notUtf8 | .nulInPath | .nulInArgument => none

/-- The wording without the number, as utilities give it. -/
def text (fault : Fault) : String := (fault.wording.map (·.1)).getD "Unknown error"

def message (fault : Fault) : String :=
  match fault.wording, fault with
  | some (text, number), _ => s!"{text} (os error {number})"
  | none, .notUtf8 => "stream did not contain valid UTF-8"
  | none, .nulInPath => "file name contained an unexpected NUL byte"
  | none, _ => "nul byte found in provided data"

end Fault

end AssetWatch.Host
