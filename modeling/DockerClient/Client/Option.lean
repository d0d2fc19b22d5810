import DockerClient.Daemon.Scene
import DockerClient.Labels
import DockerClient.Text.Ascii
import DockerClient.Text.Quoted

/-
**Options of a client.**

Options are read in order; a later option replaces earlier ones of its kind, and headers add up.

* `HealthCheck` — how a new client makes sure that the daemon is there; `HealthCheck.ping`,
  `HealthCheck.known` — two simple ways;
* `ClientOption`, `ClientOption.debugText` — an option and its text for programmers;
* `ClientSettings`, `ClientSettings.ofOptions` — what options amount to;
* `ClientSettings.last_of_ofOptions` — **the last option of a kind decides**;
* `ClientSettings.headerList` — the headers of a client.
-/

set_option relaxedAutoImplicit false
set_option autoImplicit false

namespace DockerClient

/-! ### Options -/

/-- How a new client makes sure that the daemon is there. -/
inductive HealthCheck where
  /-- Asks several times, with pauses. -/
  | patient
  /-- Does whatever the caller wants with the link. -/
  | custom (check : (Route → Bool) → Link → Scene → Except Error Unit × Scene)

namespace HealthCheck

/-- The health check that asks once. -/
def ping : HealthCheck := .custom fun listens link scene => scene.call listens link Call.ping

/-- The health check that asks nothing, with a given outcome. -/
def known (outcome : Except Error Unit) : HealthCheck := .custom fun _ _ scene => (outcome, scene)

end HealthCheck

/-- What a client's messages are attributed to, if to anything. -/
structure Span where
  name : Option String
deriving DecidableEq, Repr

/-- An option of a new client.  Transports that callers built are told apart by numbers. -/
inductive ClientOption where
  | host (host : String)
  | context (name : String)
  | tls (verify : Bool) (certPath : Option String)
  | headers (entries : List Header)
  | logger (span : Option Span)
  | healthCheck (check : Option HealthCheck)
  | transport (handed : Nat := 0)

/-- The text of a span for programmers. -/
def Span.debugText (span : Span) : String :=
  match span.name with
  | none => "Span \x7b none: true \x7d"
  | some name => "Span \x7b name: " ++ Text.quote name ++ ", .. \x7d"

/-- The text of a truth value for programmers. -/
def truthText (b : Bool) : String := if b then "true" else "false"

/-- The text of an option for programmers; of headers it names the names alone. -/
def ClientOption.debugText : ClientOption → String
  | .host h => "DockerHost(" ++ Text.quote h ++ ")"
  | .context name => "DockerContext(" ++ Text.quote name ++ ")"
  | .tls verify certPath =>
      "Tls \x7b verify: " ++ truthText verify
        ++ ", cert_path: " ++ Text.optional (certPath.map Text.quotePath) ++ " \x7d"
  | .headers entries => "ExtraHeaders(" ++ Text.listed (entries.map fun e => Text.quote e.1) ++ ")"
  | .logger span => "Logger(" ++ Text.optional (span.map Span.debugText) ++ ")"
  | .healthCheck check =>
      "HealthCheck(" ++ Text.optional (check.map fun _ => Text.quote "..") ++ ")"
  | .transport _ => "Transport(..)"

/-! ### Settings -/

/-- What options amount to. -/
structure ClientSettings where
  host : Option String := none
  context : Option String := none
  tls : Option (Bool × Option String) := none
  headers : List Header := []
  span : Option Span := none
  check : HealthCheck := .patient
  given : Option Nat := none

/-- Whether a header stands before another: by name, then by value. -/
def Header.precedes (a b : Header) : Bool :=
  decide (a.1 < b.1) || (a.1 == b.1 && !decide (b.2 < a.2))

namespace ClientSettings

/-- The settings with one more option. -/
def apply (s : ClientSettings) : ClientOption → Except Error ClientSettings
  | .host h => .ok { s with host := some h }
  | .context name => .ok { s with context := some name }
  | .tls verify certPath => .ok { s with tls := some (verify, certPath) }
  | .headers entries => .ok { s with headers := s.headers ++ entries.mergeSort Header.precedes }
  | .logger none => .ok s
  | .logger (some span) => .ok { s with span := some span }
  | .healthCheck (some check) => .ok { s with check := check }
  | .healthCheck none => .error (.invalidArgument .missingHealthCheck)
  | .transport handed => .ok { s with given := some handed }

/-- What options amount to. -/
def ofOptions (options : List ClientOption) : Except Error ClientSettings :=
  options.foldlM apply {}

/-- A setting that each option of its kind replaces and no other touches is that of the last such
option; without one it stays as it was. -/
theorem last_of_foldlM {β : Type} {setting : ClientSettings → Option β}
    {value? : ClientOption → Option β}
    (hstep : ∀ s o t, apply s o = .ok t → setting t = (value? o).or (setting s)) :
    ∀ {options : List ClientOption} {s t : ClientSettings}, options.foldlM apply s = .ok t →
      setting t = (options.filterMap value?).getLast?.or (setting s) := by
  intro options
  induction options with
  | nil =>
      intro s t h
      cases h
      rfl
  | cons o options ih =>
      intro s t h
      rw [List.foldlM_cons] at h
      cases hfirst : apply s o with
      | error e =>
          rw [hfirst] at h
          cases h
      | ok u =>
          rw [hfirst] at h
          rw [ih h, hstep s o u hfirst]
          cases hvalue : value? o with
          | none => simp [hvalue]
          | some v =>
              rw [List.filterMap_cons_some hvalue, List.getLast?_cons]
              cases (options.filterMap value?).getLast? <;> rfl

/-- **The last option of a kind decides**, if it is not set without options. -/
theorem last_of_ofOptions {β : Type} {setting : ClientSettings → Option β}
    {value? : ClientOption → Option β}
    (hstep : ∀ s o t, apply s o = .ok t → setting t = (value? o).or (setting s))
    (hunset : setting {} = none) {options : List ClientOption} {s : ClientSettings}
    (h : ofOptions options = .ok s) : setting s = (options.filterMap value?).getLast? := by
  rw [last_of_foldlM hstep h, hunset, Option.or_none]

/-! ### Headers -/

/-- What the library says it is. -/
def userAgent : String := "docker-rust-sdk/" ++ Labels.currentVersion

/-- Whether a header says what the client is, in any case of letters. -/
def isUserAgent (h : Header) : Bool := Text.sameIgnoringCase h.1 "user-agent"

/-- The headers of a client: those of the caller, of which none says what the client is, and the
library's own after them. -/
def headerList (s : ClientSettings) : List Header :=
  s.headers.filter (fun h => !isUserAgent h) ++ [(Header.userAgentName, userAgent)]

end ClientSettings

end DockerClient
