import DockerClient.Client.Plan

/-
**Making sure that the daemon is there.**

* `HealthCheck.run` — runs a health check;
* `HealthCheck.patiently` — asks until the daemon answers, with longer and longer pauses, and gives
  up after the last;
* `ClientPlan.prepare` — **what a new client does first**: its health check, then a question for the
  version, whose answer does not matter.
-/

set_option relaxedAutoImplicit false
set_option autoImplicit false

namespace DockerClient

namespace HealthCheck

/-- How often the daemon is asked. -/
def attempts : Nat := 3

/-- The milliseconds of the pause after an attempt. -/
def pauseAfter (attempt : Nat) : Nat := 100 * attempt

/-- What is said of a daemon that never answered. -/
def givenUp : String := "daemon did not respond to " ++ toString attempts ++ " pings"

/-- Asks, and asks again so many times. -/
def patiently (listens : Route → Bool) (link : Link) (again attempt : Nat) (s : Scene) :
    Except Error Unit × Scene :=
  match s.call listens link Call.ping with
  | (.ok _, s) => (.ok (), s)
  | (.error e, s) =>
      let s := s.pause (pauseAfter attempt)
      match again with
      | 0 => (.error (e.addContext givenUp), s)
      | n + 1 => patiently listens link n (attempt + 1) s

/-- Runs a health check. -/
def run (listens : Route → Bool) (link : Link) (check : HealthCheck) (s : Scene) :
    Except Error Unit × Scene :=
  match check with
  | .patient => patiently listens link (attempts - 1) 1 s
  | .custom check => check listens link s

end HealthCheck

/-- What a new client does first. -/
def ClientPlan.prepare (listens : Route → Bool) (plan : ClientPlan) (s : Scene) :
    Except Error Unit × Scene :=
  match plan.check.run listens plan.link s with
  | (.error e, s) => (.error e, s)
  | (.ok _, s) => (.ok (), (s.call listens plan.link Call.version).2)

end DockerClient
