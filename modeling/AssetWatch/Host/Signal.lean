/-!
# Signals
-/

namespace AssetWatch.Host.Signal

def hangUp : Nat := 1
def interrupt : Nat := 2
def quit : Nat := 3
def kill : Nat := 9
def pipe : Nat := 13
def alarm : Nat := 14
def terminate : Nat := 15

/-- Signals with their names. -/
def table : List (Nat × String) := [
  (1, "HUP"), (2, "INT"), (3, "QUIT"), (4, "ILL"), (5, "TRAP"), (6, "ABRT"), (7, "BUS"),
  (8, "FPE"), (9, "KILL"), (10, "USR1"), (11, "SEGV"), (12, "USR2"), (13, "PIPE"), (14, "ALRM"),
  (15, "TERM"), (16, "STKFLT"), (17, "CHLD"), (18, "CONT"), (19, "STOP"), (20, "TSTP"),
  (21, "TTIN"), (22, "TTOU"), (23, "URG"), (24, "XCPU"), (25, "XFSZ"), (26, "VTALRM"),
  (27, "PROF"), (28, "WINCH"), (29, "POLL"), (30, "PWR"), (31, "SYS")]

/-- How many signals there are, real-time signals included. -/
def count : Nat := 64

def name? (number : Nat) : Option String := table.lookup number

/-- The name of a signal, or its number if it has none. -/
def name (number : Nat) : String :=
  match name? number with
  | some name => name
  | none =>
    if number = 34 then "RTMIN"
    else if 34 < number && number < 50 then
      let offset := number - 34
      s!"RTMIN+{offset}"
    else if 49 < number && number < 64 then
      let offset := 64 - number
      s!"RTMAX-{offset}"
    else if number = 64 then "RTMAX"
    else toString number

/-- The signal of a name, in letters of any case. -/
def ofName? (text : String) : Option Nat :=
  ((List.range (count + 1)).drop 1).find? fun n => text.toLower = (name n).toLower

/-- What a shell says of a process that was ended by a signal. -/
def description (number : Nat) : String :=
  match number with
  | 1 => "Hangup"
  | 2 => "Interrupt"
  | 3 => "Quit"
  | 4 => "Illegal instruction"
  | 5 => "Trace/breakpoint trap"
  | 6 => "Aborted"
  | 7 => "Bus error"
  | 8 => "Floating point exception"
  | 9 => "Killed"
  | 10 => "User defined signal 1"
  | 11 => "Segmentation fault"
  | 12 => "User defined signal 2"
  | 13 => "Broken pipe"
  | 14 => "Alarm clock"
  | 15 => "Terminated"
  | _ => s!"Signal {number}"

/-- Signals that do nothing unless they are caught. -/
def isIdle (number : Nat) : Bool := [17, 18, 23, 28].contains number

/-- Signals that halt a process for a while. -/
def isHalt (number : Nat) : Bool := [19, 20, 21, 22].contains number

end AssetWatch.Host.Signal
