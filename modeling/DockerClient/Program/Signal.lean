import DockerClient.Program.Numeral

/-
**Signals.**

* `Signal.name?`, `Signal.number?` — names by number, and numbers by number or name;
* `Signal.text` — what is said of a program that a signal ended;
* `Signal.isHarmless` — whether a program goes on after a signal that it does not care for.
-/

set_option relaxedAutoImplicit false
set_option autoImplicit false

namespace DockerClient.Signal

/-- The signals in order, beginning with number 1: name and text. -/
def table : List (String × String) :=
  [("HUP", "Hangup"), ("INT", "Interrupt"), ("QUIT", "Quit"), ("ILL", "Illegal instruction"),
   ("TRAP", "Trace/breakpoint trap"), ("ABRT", "Aborted"), ("BUS", "Bus error"),
   ("FPE", "Floating point exception"), ("KILL", "Killed"), ("USR1", "User defined signal 1"),
   ("SEGV", "Segmentation fault"), ("USR2", "User defined signal 2"), ("PIPE", "Broken pipe"),
   ("ALRM", "Alarm clock"), ("TERM", "Terminated"), ("16", "Stack fault"),
   ("CHLD", "Child exited"), ("CONT", "Continued"), ("STOP", "Stopped (signal)"),
   ("TSTP", "Stopped"), ("TTIN", "Stopped (tty input)"), ("TTOU", "Stopped (tty output)"),
   ("URG", "Urgent I/O condition"), ("XCPU", "CPU time limit exceeded"),
   ("XFSZ", "File size limit exceeded"), ("VTALRM", "Virtual timer expired"),
   ("PROF", "Profiling timer expired"), ("WINCH", "Window changed"), ("IO", "I/O possible"),
   ("PWR", "Power failure"), ("SYS", "Bad system call")]

/-- How many numbers signals may have. -/
def bound : Nat := 65

/-- The names of the numbers above those of `table`. -/
def realTime (n : Nat) : String :=
  if n = 34 then "RTMIN"
  else if n ≤ 49 ∧ 34 < n then "RTMIN+" ++ toString (n - 34)
  else if n < 64 ∧ 49 < n then "RTMAX-" ++ toString (64 - n)
  else if n = 64 then "RTMAX"
  else toString n

/-- The name of a signal; number 0 is the end of a shell. -/
def name? (n : Nat) : Option String :=
  if n = 0 then some "EXIT"
  else if h : n - 1 < table.length then some table[n - 1].1
  else if n < bound then some (realTime n)
  else none

/-- A letter in upper case. -/
def upper (c : Char) : Char := if 'a' ≤ c ∧ c ≤ 'z' then Char.ofNat (c.toNat - 32) else c

/-- The number of a signal that is numbered or named, in either case of letters. -/
def number? (s : Bytes) : Option Nat :=
  match s with
  | c :: _ =>
      if c.isDigit then (Numeral.count? s).filter (· < bound)
      else (List.range bound).find? fun n =>
        (name? n).map String.toList == some (s.map upper)
  | [] => none

/-- What is said of a program that a signal ended. -/
def text (n : Nat) : String :=
  if h : n - 1 < table.length then table[n - 1].2
  else if n < 34 then "Unknown signal " ++ toString n
  else "Real-time signal " ++ toString (n - 34)

/-- Whether a program goes on after a signal that it does not care for. -/
def isHarmless (n : Nat) : Bool := n == 0 || n == 17 || n == 18 || n == 23 || n == 28

/-- Whether a signal can not be cared for. -/
def isFinal (n : Nat) : Bool := n == 9 || n == 19

end DockerClient.Signal
