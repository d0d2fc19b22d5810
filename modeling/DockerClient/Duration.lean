/-
**Durations**, in nanoseconds.

* `Duration.text` — the text of a duration in the largest unit of which it holds one at least;
* `Duration.ticks` — the first whole millisecond at which a timer of that length has run out;
* `Duration.race` — **who is first**, work or a limit.
-/

set_option relaxedAutoImplicit false
set_option autoImplicit false

namespace DockerClient.Duration

/-- The digits of a fraction with the given number of places, without zeros at the end. -/
def fractionDigits (places n : Nat) : List Char :=
  let digits := Nat.toDigits 10 n
  let padded := List.replicate (places - digits.length) '0' ++ digits
  (padded.reverse.dropWhile (· = '0')).reverse

/-- The text of a duration of `n` in a unit of `10 ^ places` nanoseconds. -/
def inUnit (n places : Nat) (unit : String) : String :=
  let fraction := n % Nat.pow 10 places
  let whole := toString (n / Nat.pow 10 places)
  if fraction = 0 then whole ++ unit
  else whole ++ "." ++ String.ofList (fractionDigits places fraction) ++ unit

/-- The text of a duration. -/
def text (ns : Nat) : String :=
  if Nat.pow 10 9 ≤ ns then inUnit ns 9 "s"
  else if Nat.pow 10 6 ≤ ns then inUnit ns 6 "ms"
  else if Nat.pow 10 3 ≤ ns then inUnit ns 3 "µs"
  else toString ns ++ "ns"

/-- The first whole millisecond that is not before the end of a duration. -/
def ticks (ns : Nat) : Nat := (ns + 999999) / 1000000

/-- Who is first, work or a limit, and at which millisecond.  Work that is ready at once needs no
timer, and a tie goes to the work. -/
def race (limit : Nat) (work : Option Nat) : Bool × Nat :=
  match work with
  | none => (true, 0)
  | some ns => if ticks ns ≤ ticks limit then (true, ticks ns) else (false, ticks limit)

/-- What is said of an operation that did not finish in time. -/
def elapsedText (limit : Nat) : String :=
  "operation did not finish within " ++ text limit

end DockerClient.Duration
