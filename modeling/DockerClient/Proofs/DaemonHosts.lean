import DockerClient.Proofs.Cutting
import DockerClient.Proofs.HandleSessions
import DockerClient.Proofs.TlsSelection

/-
**Where the daemon of an endpoint is.**

An endpoint over TCP names its host between the scheme and the port.  The host is cut out by four
separators, each of which may occur elsewhere in the text, so what is read is compared here with how
such an endpoint is written.  The way to the daemon is chosen by the scheme as well, in another
place; that the two agree is what keeps a client from having an endpoint about whose host nothing is
known.

* `Endpoint.IsPort`, `Endpoint.IsPath`, `Endpoint.WritesHost`, `Endpoint.NamesHost` — **how an
  endpoint over TCP is written**, and the host that it names;
* `Endpoint.authorityHost_append`, `Endpoint.schemeAndRest_append` — cutting out host and scheme;
* `DaemonHost.place?_of_namesHost`, `DaemonHost.place?_ne_none_of_establish` — the named host is
  read, and every endpoint that there is a way to has a known scheme;
* `DaemonHost.Ends`, `DaemonHost.ends_find` — how the search for a host can end;
* `Session.perform_daemonHost`, `Session.daemonHost_ne_hostUnknown` — the operation of a client;
* `Session.daemonHost_of_endpoint` — **what clients say of the hosts of their endpoints**.
-/

set_option relaxedAutoImplicit false
set_option autoImplicit false

namespace DockerClient

/-! ### How endpoints are written -/

namespace Endpoint

/-- A port, with the colon in front of it, or nothing. -/
def IsPort (port : String) : Prop :=
  port = "" ∨ ∃ text, port = ":" ++ text ∧
    ':' ∉ text.toList ∧ '/' ∉ text.toList ∧ ']' ∉ text.toList

/-- A path, which begins with a slash, or nothing. -/
def IsPath (path : String) : Prop := path = "" ∨ ∃ text, path = "/" ++ text

/-- **How a host is written** in front of a port: a name as it is, and an address with colons in
brackets. -/
inductive WritesHost : String → String → Prop
  | bare {name : String} (hcolon : ':' ∉ name.toList) (hslash : '/' ∉ name.toList)
      (hbracket : ∀ rest, name ≠ "[" ++ rest) : WritesHost name name
  | bracketed {address : String} (hbracket : ']' ∉ address.toList)
      (hslash : '/' ∉ address.toList) : WritesHost ("[" ++ address ++ "]") address

/-- **An endpoint over TCP and the host that it names.** -/
inductive NamesHost : String → String → Prop
  | over {scheme written host port path : String} (hscheme : scheme ∈ ["tcp", "http", "https"])
      (hhost : WritesHost written host) (hport : IsPort port) (hpath : IsPath path) :
      NamesHost (scheme ++ "://" ++ written ++ port ++ path) host

theorem noDirectory_ne_empty : (none : Option String) ≠ some "" := nofun

theorem noDirectory_of_off : false = true → (none : Option String).isSome = true := nofun

/-- The endpoint of a host without TLS. -/
def plain (host : String) : Endpoint :=
  ⟨host, false, none, noDirectory_ne_empty, noDirectory_of_off⟩

/-! ### Cutting out the host -/

theorem IsPort.slash_notMem {port : String} (h : IsPort port) : '/' ∉ port.toList := by
  rcases h with rfl | ⟨text, rfl, -, hslash, -⟩
  · simp
  · simpa using hslash

theorem WritesHost.slash_notMem {written host : String} (h : WritesHost written host) :
    '/' ∉ written.toList := by
  cases h with
  | bare _ hslash _ => exact hslash
  | bracketed _ hslash => simpa using hslash

/-- Neither a name nor a port begins with a bracket. -/
theorem append_ne_bracket {name port : String} (hname : ∀ rest, name ≠ "[" ++ rest)
    (hport : IsPort port) (rest : String) : name ++ port ≠ "[" ++ rest := by
  intro heq
  have hchars : name.toList ++ port.toList = '[' :: rest.toList := by
    rw [← String.toList_append, heq, String.toList_append]
    rfl
  cases hname' : name.toList with
  | nil =>
      rw [hname', List.nil_append] at hchars
      rcases hport with rfl | ⟨text, rfl, -⟩
      · cases hchars
      · simp at hchars
  | cons c chars =>
      rw [hname', List.cons_append, List.cons.injEq] at hchars
      obtain ⟨rfl, -⟩ := hchars
      refine hname (.ofList chars) ?_
      rw [← String.toList_inj, hname', String.toList_append, String.toList_ofList (l := chars)]
      rfl

/-- **The host is cut out of an authority**, with its port or without. -/
theorem authorityHost_append {written host port : String} (h : WritesHost written host)
    (hport : IsPort port) : authorityHost (written ++ port) = host := by
  unfold authorityHost
  cases h with
  | bare hcolon _ hbracket =>
      rw [Text.after?_eq_none_iff.mpr (append_ne_bracket hbracket hport)]
      dsimp only
      rcases hport with rfl | ⟨text, rfl, htext, -⟩
      · rw [String.append_empty, Text.splitLast_eq_none_iff.mpr hcolon]
      · rw [← String.append_assoc, Text.splitLast_append rfl htext]
  | bracketed hbracket _ =>
      have hafter : Text.after? "[" ("[" ++ host ++ "]" ++ port) = some (host ++ "]" ++ port) := by
        rw [String.append_assoc, String.append_assoc, Text.after?_append, ← String.append_assoc]
      rw [hafter]
      exact Text.upTo_append rfl hbracket

/-- A host is followed by its port up to the first slash. -/
theorem namedHost_append {written host port path : String} (h : WritesHost written host)
    (hport : IsPort port) (hpath : IsPath path) : namedHost (written ++ port ++ path) = host := by
  have hslash : '/' ∉ (written ++ port).toList := by
    rw [String.toList_append, List.mem_append, not_or]
    exact ⟨h.slash_notMem, hport.slash_notMem⟩
  have hupTo : Text.upTo (written ++ port ++ path) '/' = written ++ port := by
    rcases hpath with rfl | ⟨text, rfl⟩
    · rw [String.append_empty, Text.upTo_of_notMem hslash]
    · rw [← String.append_assoc]
      exact Text.upTo_append rfl hslash
  rw [namedHost, hupTo, authorityHost_append h hport]

/-- A scheme ends where the first colon is. -/
theorem schemeAndRest_append {scheme : String} (h : ':' ∉ scheme.toList) (rest : String) :
    schemeAndRest (scheme ++ "://" ++ rest) = (scheme, rest) := by
  rw [schemeAndRest, Text.splitAt_append rfl h]
  rfl

end Endpoint

/-! ### Places of daemons -/

namespace DaemonHost

/-- **The host that an endpoint over TCP names is read.** -/
theorem place?_of_namesHost {endpoint host : String} (h : Endpoint.NamesHost endpoint host) :
    place? endpoint = some (.named host) := by
  obtain ⟨hscheme, hhost, hport, hpath⟩ := h
  rename_i scheme written port path
  have hcolon : ':' ∉ scheme.toList := by
    simp only [List.mem_cons, List.not_mem_nil, or_false] at hscheme
    rcases hscheme with rfl | rfl | rfl <;> decide
  have htcp : Endpoint.tcpSchemes.contains scheme = true := List.contains_iff_mem.mpr hscheme
  have hcut := Endpoint.schemeAndRest_append hcolon (written ++ port ++ path)
  rw [← String.append_assoc, ← String.append_assoc] at hcut
  simp only [place?, hcut, htcp, if_true, Endpoint.namedHost_append hhost hport hpath]

/-- A host that is named is found at once. -/
theorem find_of_namesHost {endpoint host : String} (h : Endpoint.NamesHost endpoint host)
    (listens : Route → Bool) (inContainer : Bool) (link : Except Error Link) (s : Scene) :
    find listens inContainer endpoint link s = (.ok host, s) := by
  unfold find
  rw [place?_of_namesHost h]

/-- **Every endpoint that there is a way to has a scheme that is known here.** -/
theorem place?_ne_none_of_establish {lib : TlsLibrary} {files : Files} {endpoint : Endpoint}
    {headers : List Header} {t : Transport}
    (h : Transport.establish files endpoint headers lib = .ok t) :
    place? endpoint.host ≠ none := by
  have hroute := Transport.routeOf_of_establish h
  unfold Transport.routeOf at hroute
  split at hroute
  · cases hroute
  · rename_i scheme rest hcut
    have hscheme : Endpoint.schemeAndRest endpoint.host = (scheme, rest) := by
      rw [Endpoint.schemeAndRest, hcut]
      rfl
    simp only [place?, hscheme]
    split at hroute
    · rename_i hunix
      rw [hunix, if_neg (by decide), if_pos (by decide)]
      exact Option.some_ne_none _
    · split at hroute
      · rename_i htcp
        rw [if_pos htcp]
        exact Option.some_ne_none _
      · cases hroute

/-- How the search for a host can end: with a host, without a link, or with a daemon that does not
describe its network; and otherwise the scheme is not known. -/
inductive Ends (endpoint : String) (link : Except Error Link) : Except Error String → Prop
  | found (host : String) : Ends endpoint link (.ok host)
  | unlinked {e : Error} (h : link = .error e) : Ends endpoint link (.error e)
  | notDescribed (fault : DaemonFault) :
      Ends endpoint link (.error (.context "inspecting the bridge network" (.daemon fault)))
  | unknown (h : place? endpoint = none) :
      Ends endpoint link (.error (.invalidArgument (.hostUnknown endpoint)))

theorem ends_find (listens : Route → Bool) (inContainer : Bool) (endpoint : String)
    (link : Except Error Link) (s : Scene) :
    Ends endpoint link (find listens inContainer endpoint link s).1 := by
  unfold find
  split
  · exact .unknown ‹_›
  · exact .found _
  · split
    · split
      · exact .unlinked rfl
      · unfold fromBridge
        split
        · rename_i hcall
          obtain ⟨fault, rfl⟩ := Scene.call_error (congrArg Prod.fst hcall)
          exact .notDescribed fault
        · split <;> exact .found _
    · exact .found _

end DaemonHost

/-! ### Clients -/

namespace Session

variable {sr : Surroundings} {c : Nat} {s : Session} {held : ClientCell}

/-- The link of a client, or that it is closed. -/
def linkOf (held : ClientCell) : Except Error Link :=
  match held.state.link with
  | some l => .ok l
  | none => .error .closed

/-- The host is sought by the endpoint of a client, with its link. -/
theorem perform_daemonHost (h : s.clients[c]? = some held) :
    (daemonHost sr c).perform s =
      let found := DaemonHost.find sr.listens sr.world.inContainer held.endpoint.host
        (linkOf held) s.scene
      (found.1, { s with scene := found.2 }) := by
  rw [daemonHost, Act.perform_bind, perform_cell h]
  dsimp only
  rw [Act.perform_bind, Act.perform_outcome, perform_link h]
  rfl

/-- A host that the endpoint of a client names is known without asking anybody. -/
theorem perform_daemonHost_of_namesHost (h : s.clients[c]? = some held) {host : String}
    (hhost : Endpoint.NamesHost held.endpoint.host host) :
    (daemonHost sr c).perform s = (.ok host, s) := by
  rw [perform_daemonHost h, DaemonHost.find_of_namesHost hhost]

/-- A client whose endpoint has a known scheme does not complain about it. -/
theorem daemonHost_ne_hostUnknown (h : s.clients[c]? = some held)
    (hplace : DaemonHost.place? held.endpoint.host ≠ none) (endpoint : String) :
    ((daemonHost sr c).perform s).1 ≠ .error (.invalidArgument (.hostUnknown endpoint)) := by
  rw [perform_daemonHost h]
  intro hunknown
  have hends := DaemonHost.ends_find sr.listens sr.world.inContainer held.endpoint.host
    (linkOf held) s.scene
  dsimp only at hunknown
  rw [hunknown] at hends
  cases hends with
  | unlinked hlink =>
      unfold linkOf at hlink
      split at hlink <;> cases hlink
  | unknown hnone => exact hplace hnone

/-- **What clients say of the hosts of their endpoints**, whatever they run in and in every state
that they can be in.  The host that an endpoint over TCP names is found, without a request and also
after the client was closed; and of an endpoint that there is a way to, no client says that it does
not know how to find its host. -/
theorem daemonHost_of_endpoint (h : s.clients[c]? = some held) :
    (∀ host, Endpoint.NamesHost held.endpoint.host host →
      (daemonHost sr c).perform s = (.ok host, s) ∧
      (daemonHost sr c).perform ((close c).perform s).2 = (.ok host, ((close c).perform s).2)) ∧
    (∀ lib files headers t, Transport.establish files held.endpoint headers lib = .ok t →
      ∀ endpoint,
        ((daemonHost sr c).perform s).1 ≠ .error (.invalidArgument (.hostUnknown endpoint))) := by
  constructor
  · intro host hhost
    exact ⟨perform_daemonHost_of_namesHost h hhost,
      perform_daemonHost_of_namesHost (close_alone h).1 hhost⟩
  · intro lib files headers t ht
    exact daemonHost_ne_hostUnknown h (DaemonHost.place?_ne_none_of_establish ht)

/-- A client that was closed, whose daemon is at an address in brackets. -/
def closedCell : ClientCell :=
  ⟨.plain "tcp://[::1]:2376/v1:2", .default, [], ⟨none⟩, ⟨none, none⟩⟩

/-- A closed client in a container says where its daemon is. -/
theorem daemonHost_of_endpoint_closed :
    let world : World := { env := .ofList [], home := none, files := .none, inContainer := true }
    let sr : Surroundings := ⟨world, fun _ => true⟩
    let s : Session := { scene := { replies := [] }, clients := [closedCell] }
    (∃ t, Transport.establish .none closedCell.endpoint [] = .ok t) ∧
      Endpoint.NamesHost closedCell.endpoint.host "::1" ∧
      (daemonHost sr 0).perform s = (.ok "::1", s) ∧
      ∀ endpoint,
        ((daemonHost sr 0).perform s).1 ≠ .error (.invalidArgument (.hostUnknown endpoint)) := by
  intro world sr s
  have hnames : Endpoint.NamesHost ("tcp" ++ "://" ++ ("[" ++ "::1" ++ "]") ++ ":2376" ++ "/v1:2")
      "::1" :=
    .over (by decide) (.bracketed (by decide) (by decide))
      (.inr ⟨"2376", rfl, by decide, by decide, by decide⟩) (.inr ⟨"v1:2", rfl⟩)
  have hestablish : ∃ t, Transport.establish .none closedCell.endpoint [] = .ok t := ⟨_, rfl⟩
  obtain ⟨t, ht⟩ := hestablish
  have hheld : s.clients[0]? = some closedCell := rfl
  obtain ⟨hhosts, hknown⟩ := @daemonHost_of_endpoint sr 0 s closedCell hheld
  exact ⟨⟨t, ht⟩, hnames, (hhosts _ hnames).1, hknown _ _ _ t ht⟩

end Session

end DockerClient
