import DockerClient.Proofs.OptionKinds
import DockerClient.Proofs.SentRequests
import DockerClient.Proofs.StampedHeaders
import Mathlib.Data.List.Dedup
import Mathlib.Data.List.Forall2

/-
**The headers of a client**: from the maps that its caller gives to the requests that are sent.

Maps are gone through in no order that could be relied on.  A client puts the entries of each in
order, leaves out those that say what the client is, and names the library at the end; a transport
of the library then sets all of them on every request.  No order shows, and nothing takes the place
of the library's name.  The table of a map of headers has a largest size, and to make a client panics
if the list is longer than there can be room for.

* `Header.mergeSort_of_perm`, `ClientOption.allHeaders_of_maps` — **the order in which maps are gone
  through does not show** in the list of a client;
* `ClientSettings.composed` — the list: map after map, and the name of the library at the end;
* `Transport.Carries`, `Transport.carries_of_ofList` — **every request over a transport carries its
  headers**;
* `ClientSettings.make_eq_establish` — a client that no transport was handed to has one of the
  library;
* `ClientSettings.create_of_overfull`, `ClientSettings.create_of_fits` — **a list that is too long
  panics**, and no other does;
* `ClientSettings.HeadersFrom`, `ClientSettings.headers_from_maps` — **the headers of a client**,
  from the maps of its options to its requests;
* `ClientSettings.crowded_client_panics` — a list that is too long has a header that is not valid, and
  is not refused for it.
-/

set_option relaxedAutoImplicit false
set_option autoImplicit false

namespace DockerClient

/-! ### The order of headers -/

namespace Header

variable {a b : Header}

theorem precedes_iff : precedes a b = true ↔ a.1 < b.1 ∨ a.1 = b.1 ∧ a.2 ≤ b.2 := by
  rw [precedes, Bool.or_eq_true, decide_eq_true_iff, Bool.and_eq_true, beq_iff_eq,
    Bool.not_eq_true', decide_eq_false_iff_not, String.not_lt]

theorem precedes_trans (a b c : Header) (hab : precedes a b = true) (hbc : precedes b c = true) :
    precedes a c = true := by
  rw [precedes_iff] at hab hbc ⊢
  rcases hab with hab | ⟨hab, hab'⟩
  · rcases hbc with hbc | ⟨hbc, -⟩
    · exact .inl (String.lt_trans hab hbc)
    · exact .inl (hbc ▸ hab)
  · rcases hbc with hbc | ⟨hbc, hbc'⟩
    · exact .inl (hab ▸ hbc)
    · exact .inr ⟨hab.trans hbc, String.le_trans hab' hbc'⟩

theorem precedes_total (a b : Header) : (precedes a b || precedes b a) = true := by
  rw [Bool.or_eq_true, precedes_iff, precedes_iff]
  by_cases hname : a.1 = b.1
  · rcases String.le_total a.2 b.2 with hab | hba
    · exact .inl (.inr ⟨hname, hab⟩)
    · exact .inr (.inr ⟨hname.symm, hba⟩)
  · by_cases hlt : a.1 < b.1
    · exact .inl (.inl hlt)
    · exact .inr (.inl (Table.lt_of_not hlt hname))

theorem precedes_antisymm (hab : precedes a b = true) (hba : precedes b a = true) : a = b := by
  rw [precedes_iff] at hab hba
  rcases hab with hab | ⟨hname, hab⟩
  · rcases hba with hba | ⟨hname, -⟩
    · exact absurd (String.lt_trans hab hba) (String.lt_irrefl _)
    · rw [hname] at hab
      exact absurd hab (String.lt_irrefl _)
  · rcases hba with hba | ⟨-, hba⟩
    · rw [hname] at hba
      exact absurd hba (String.lt_irrefl _)
    · exact Prod.ext hname (String.le_antisymm hab hba)

/-- A map has its entries in order. -/
theorem pairwise_entries (map : Table String) :
    map.entries.Pairwise fun a b => precedes a b = true :=
  map.ordered.imp fun hlt => precedes_iff.mpr (.inl hlt)

/-- **The entries of a map in order**, in whatever order the map was gone through. -/
theorem mergeSort_of_perm {map : Table String} {entries : List Header}
    (h : entries.Perm map.entries) : entries.mergeSort precedes = map.entries :=
  ((List.mergeSort_perm entries precedes).trans h).eq_of_pairwise
    (fun _ _ _ _ => precedes_antisymm)
    (List.pairwise_mergeSort precedes_trans precedes_total entries) (pairwise_entries map)

/-- The names of headers, each once, in any case of its letters. -/
def names (headers : List Header) : List String := (headers.map fun h => Text.lower h.1).dedup

end Header

/-! ### The list of a client -/

namespace ClientOption

variable {options : List ClientOption} {maps : List (Table String)}

/-- The headers of an option, in the order in which their map was gone through. -/
def entries? : ClientOption → Option (List Header)
  | .headers entries => some entries
  | _ => none

/-- The maps of all options for headers; each was gone through in some order. -/
def Maps (options : List ClientOption) (maps : List (Table String)) : Prop :=
  List.Forall₂ (fun entries map => entries.Perm map.entries) (options.filterMap entries?) maps

theorem say?_headers_eq (o : ClientOption) :
    say? .headers o = (entries? o).map fun entries => entries.mergeSort Header.precedes := by
  cases o <;> rfl

/-- **The order in which maps are gone through does not show.** -/
theorem allHeaders_of_maps (h : Maps options maps) :
    allHeaders options = maps.flatMap Table.entries := by
  have hsorted : (options.filterMap entries?).map (fun entries => entries.mergeSort Header.precedes)
      = maps.map Table.entries := by
    unfold Maps at h
    generalize options.filterMap entries? = given at h ⊢
    induction h with
    | nil => rfl
    | cons horder _ ih => rw [List.map_cons, List.map_cons, Header.mergeSort_of_perm horder, ih]
  have hsay : say? .headers = fun o =>
      (entries? o).map fun entries => entries.mergeSort Header.precedes := funext say?_headers_eq
  rw [allHeaders, hsay, ← List.map_filterMap, hsorted, List.flatMap_def]

end ClientOption

namespace ClientSettings

variable {options : List ClientOption} {maps : List (Table String)} {settings : ClientSettings}

/-- **The headers of a client** that is made with some maps: map after map, the entries of each in
the order of their names, without those that say what the client is; and what the library says it
is. -/
def composed (maps : List (Table String)) : List Header :=
  (maps.flatMap Table.entries).filter (fun h => Text.lower h.1 ≠ "user-agent")
    ++ [("User-Agent", "docker-rust-sdk/" ++ Labels.currentVersion)]

/-- Options that amount to settings amount to what they say, kind by kind. -/
theorem eq_ofKinds (h : ofOptions options = .ok settings) : settings = ofKinds options := by
  by_cases hcheck : ClientOption.noCheck ∈ options
  · rw [ofOptions_eq_error hcheck] at h
    cases h
  · rw [ofOptions_eq_ok hcheck] at h
    exact (Except.ok.inj h).symm

theorem headerList_eq_composed (hmaps : ClientOption.Maps options maps)
    (h : ofOptions options = .ok settings) : settings.headerList = composed maps := by
  have hagent (header : Header) :
      (!isUserAgent header) = decide (Text.lower header.1 ≠ "user-agent") := by
    have hlower : Text.lower "user-agent" = "user-agent" := by decide
    rw [isUserAgent, Text.sameIgnoringCase, hlower, decide_not]
    rfl
  have hheaders : settings.headers = maps.flatMap Table.entries := by
    rw [eq_ofKinds h, ← ClientOption.allHeaders_of_maps hmaps]
    rfl
  simp only [headerList, composed, hheaders, hagent]
  rfl

/-- Without a transport among the options none is handed over. -/
theorem given_eq_none (hown : ∀ handed, ClientOption.transport handed ∉ options)
    (h : ofOptions options = .ok settings) : settings.given = none := by
  have hsaid : settings.given = ClientOption.last? .transport options := by
    rw [eq_ofKinds h]
    rfl
  rw [hsaid, ClientOption.last?, List.getLast?_eq_none_iff, List.filterMap_eq_nil_iff]
  rintro (_ | _ | _ | _ | _ | _ | handed) ho
  case transport => exact absurd ho (hown handed)
  all_goals rfl

end ClientSettings

/-! ### Transports -/

/-- A request that is sent with the headers of a list over its own. -/
def SentRequest.Carries (sent : SentRequest) (headers : List Header) : Prop :=
  ∃ after, sent.headers = some after ∧ RequestHeaders.Stamped headers Scene.baseHeaders after

namespace Transport

/-- **Every request over a transport carries the headers of a list.** -/
structure Carries (t : Transport) (headers : List Header) : Prop where
  /-- Whatever headers a request has, and in whatever order those of the transport are set. -/
  stamped : ∀ request order, order.Perm t.headers.entries →
    RequestHeaders.Stamped headers request (request.setAll order)
  sent : ∀ listens sent, Scene.IsOver listens (.over t) sent → sent.Carries headers
  called : ∀ listens (α : Type) (what : Call α) (s : Scene),
    Scene.Sends (·.Carries headers) s (s.call listens (.over t) what).2

/-- **A transport carries the headers it was made with.** -/
theorem carries_of_ofList {t : Transport} {headers : List Header}
    (h : t.headers = Table.ofList (headers.map Header.lowered)) : t.Carries headers := by
  have stamped (request : RequestHeaders) {order : List Header}
      (horder : order.Perm t.headers.entries) :
      RequestHeaders.Stamped headers request (request.setAll order) := by
    rw [h] at horder
    exact RequestHeaders.stamped_setAll horder request
  have sent {listens : Route → Bool} {sent : SentRequest}
      (hover : Scene.IsOver listens (.over t) sent) : sent.Carries headers := by
    obtain ⟨request, hsent⟩ := hover
    rw [Scene.asSent_over hsent]
    exact ⟨_, rfl, stamped Scene.baseHeaders (.refl _)⟩
  exact ⟨fun request _ => stamped request, fun _ _ => sent,
    fun _ _ what s => (Scene.sends_call what s).mono fun _ => sent⟩

end Transport

/-! ### Making a client -/

namespace ClientSettings

variable {w : World} {options : List ClientOption} {maps : List (Table String)}
  {settings : ClientSettings} {endpoint : Endpoint}

/-- The endpoint that settings lead to, with its TLS settings. -/
def LeadTo (settings : ClientSettings) (w : World) (endpoint : Endpoint) : Prop :=
  ∃ resolved, Endpoint.resolve w settings.host settings.context = .ok resolved ∧
    Endpoint.select w.env settings.tls resolved = .ok endpoint

/-- The plan of a client with a transport. -/
def planOver (settings : ClientSettings) (endpoint : Endpoint) (source : EndpointSource)
    (t : Transport) : ClientPlan :=
  { endpoint := endpoint, source := source, headers := settings.headerList,
    span := settings.span.getD ClientPlan.defaultSpan, link := .over t, check := settings.check }

/-- **A client without a transport of its caller** has one of the library, with its headers. -/
theorem make_eq_establish (hoptions : ofOptions options = .ok settings)
    (hown : settings.given = none) (hlead : settings.LeadTo w endpoint) :
    ∃ source, ClientPlan.make w options =
      (Transport.establish w.files endpoint settings.headerList w.tls).map
        (settings.planOver endpoint source) := by
  obtain ⟨resolved, hresolve, hselect⟩ := hlead
  refine ⟨resolved.source, ?_⟩
  simp only [ClientPlan.make, hoptions, ClientPlan.ofSettings, hresolve, hselect,
    ClientPlan.linkOf, hown]
  cases Transport.establish w.files endpoint settings.headerList w.tls <;> rfl

/-- Such a client has too many headers, or there is room for them. -/
theorem panic?_eq (hoptions : ofOptions options = .ok settings) (hown : settings.given = none)
    (hlead : settings.LeadTo w endpoint) : ClientPlan.panic? w options =
      if HeaderMap.room < settings.headerList.length then some HeaderMap.overflow else none := by
  obtain ⟨resolved, hresolve, hselect⟩ := hlead
  simp only [ClientPlan.panic?, hoptions, ClientPlan.panicOf?, hresolve, hselect, hown,
    Transport.connect_eq]
  by_cases h : HeaderMap.room < settings.headerList.length
  · simp only [if_pos h]
  · simp only [if_neg h]

/-- **A client with too many headers is not made**: that panics, and nothing happens. -/
theorem create_of_overfull (hoptions : ofOptions options = .ok settings)
    (hown : settings.given = none) (hlead : settings.LeadTo w endpoint)
    (h : HeaderMap.room < settings.headerList.length) (listens : Route → Bool) (s : Session) :
    Session.create ⟨w, listens⟩ options s = (.error HeaderMap.overflow, s) := by
  rw [Session.create, panic?_eq hoptions hown hlead, if_pos h]

/-- A client with headers that there is room for is built. -/
theorem create_of_fits (hoptions : ofOptions options = .ok settings)
    (hown : settings.given = none) (hlead : settings.LeadTo w endpoint)
    (h : settings.headerList.length ≤ HeaderMap.room) (listens : Route → Bool) (s : Session) :
    Session.create ⟨w, listens⟩ options s =
      (.ok ((Session.build ⟨w, listens⟩ options).perform s).1,
        ((Session.build ⟨w, listens⟩ options).perform s).2) := by
  rw [Session.create, panic?_eq hoptions hown hlead, if_neg (Nat.not_lt.mpr h)]

/-- A client whose transport can not be made is not made, and nothing happens. -/
theorem perform_build_of_error (hoptions : ofOptions options = .ok settings)
    (hown : settings.given = none) (hlead : settings.LeadTo w endpoint) {e : Error}
    (h : Transport.establish w.files endpoint settings.headerList w.tls = .error e)
    (listens : Route → Bool) (s : Session) :
    (Session.build ⟨w, listens⟩ options).perform s = (.error e, s) := by
  obtain ⟨source, hmake⟩ := make_eq_establish hoptions hown hlead
  rw [Session.perform_build, hmake, h]
  rfl

/-- **A client with a transport**, if its health check is passed; what is sent while it is made is
sent over its transport. -/
theorem perform_build_of_ok (hoptions : ofOptions options = .ok settings)
    (hown : settings.given = none) (hlead : settings.LeadTo w endpoint) {t : Transport}
    (h : Transport.establish w.files endpoint settings.headerList w.tls = .ok t)
    {listens : Route → Bool} {s after : Session} {made : Except Error Nat}
    (hperform : (Session.build ⟨w, listens⟩ options).perform s = (made, after)) :
    (settings.check.KeepsToLink →
        s.scene.Sends (Scene.IsOver listens (.over t)) after.scene) ∧
      ∀ c, made = .ok c → ∃ cell, after.clients[c]? = some cell ∧
        cell.headers = settings.headerList ∧ cell.state.link = some (.over t) := by
  obtain ⟨source, hmake⟩ := make_eq_establish hoptions hown hlead
  have hsends : settings.check.KeepsToLink → s.scene.Sends (Scene.IsOver listens (.over t))
      ((settings.planOver endpoint source t).prepare listens s.scene).2 :=
    fun hcheck => ClientPlan.sends_prepare hcheck listens s.scene
  rw [Session.perform_build, hmake, h, Except.map, Session.realize] at hperform
  dsimp only at hperform
  generalize (settings.planOver endpoint source t).prepare listens s.scene = prepared
    at hperform hsends
  -- the health check fails, or the client is added after all others
  obtain ⟨_ | _, scene⟩ := prepared <;> cases hperform
  · refine ⟨hsends, fun c hc => ?_⟩
    cases hc
  · refine ⟨hsends, fun c hc => ?_⟩
    cases hc
    exact ⟨_, List.getElem?_concat_length .., rfl, rfl⟩

/-! ### From maps to requests -/

/-- **The headers of a client**, from the maps of its options to the requests that it sends. -/
structure HeadersFrom (options : List ClientOption) (maps : List (Table String))
    (settings : ClientSettings) : Prop where
  list : settings.headerList = composed maps
  /-- The entries of each map stand in the order of their names and values. -/
  ordered : ∀ map ∈ maps, map.entries.Pairwise fun a b => Header.precedes a b = true
  /-- If there can be no room for the list, to make a client without a transport of its caller
  panics, and nothing happens. -/
  overfull : (∀ handed, ClientOption.transport handed ∉ options) →
    ∀ w endpoint, settings.LeadTo w endpoint → HeaderMap.room < (composed maps).length →
    ∀ listens s, Session.create ⟨w, listens⟩ options s = (.error HeaderMap.overflow, s)
  /-- Otherwise, if a header can not be sent, such a client is not made, and nothing happens; the
  error is about the first such header. -/
  refused : (∀ handed, ClientOption.transport handed ∉ options) →
    ∀ w endpoint, settings.LeadTo w endpoint → (composed maps).length ≤ HeaderMap.room →
    (¬∀ h ∈ composed maps, h.IsValid) →
    ∃ earlier h later, composed maps = earlier ++ h :: later ∧ (∀ e ∈ earlier, e.IsValid) ∧
      ¬h.IsValid ∧ ∀ listens s, Session.create ⟨w, listens⟩ options s =
        (.ok (.error (.invalidArgument h.fault)), s)
  /-- If all can be sent, they do not matter for whether there is a way to the daemon. -/
  unreached : (∀ handed, ClientOption.transport handed ∉ options) →
    ∀ w endpoint, settings.LeadTo w endpoint → (composed maps).length ≤ HeaderMap.room →
    (∀ h ∈ composed maps, h.IsValid) → ∀ e, Transport.routeOf w.tls w.files endpoint = .error e →
      ∀ listens s, Session.create ⟨w, listens⟩ options s = (.ok (.error e), s)
  /-- With a way to the daemon there is a transport on which every request carries the headers of
  the list: those that are sent while the client is made, and those that its handles send.  A request
  has a header of its own, which needs room besides theirs. -/
  carried : (∀ handed, ClientOption.transport handed ∉ options) →
    ∀ w endpoint, settings.LeadTo w endpoint → (composed maps).length ≤ HeaderMap.room →
    (Header.names (composed maps)).length < HeaderMap.room → (∀ h ∈ composed maps, h.IsValid) →
    ∀ route, Transport.routeOf w.tls w.files endpoint = .ok route →
    ∃ t : Transport, t.route = route ∧ t.Carries (composed maps) ∧
      ∀ listens s, ∃ made after, Session.create ⟨w, listens⟩ options s = (.ok made, after) ∧
        (settings.check.KeepsToLink → s.scene.Sends (·.Carries (composed maps)) after.scene) ∧
        ∀ c, made = .ok c → ∃ cell, after.clients[c]? = some cell ∧
          cell.headers = composed maps ∧ cell.state.link = some (.over t)
  /-- A request that carries them says what the library is, and nothing else, of what it is. -/
  agent : ∀ before after, RequestHeaders.Stamped (composed maps) before after →
    after.sentFor "User-Agent" = ["docker-rust-sdk/" ++ Labels.currentVersion]

/-- **Every request of a client carries its headers**, for all maps in all options, in whatever
order they are gone through. -/
theorem headers_from_maps {options : List ClientOption} {maps : List (Table String)}
    {settings : ClientSettings} (hmaps : ClientOption.Maps options maps)
    (hoptions : ofOptions options = .ok settings) : HeadersFrom options maps settings := by
  have hlist : settings.headerList = composed maps := headerList_eq_composed hmaps hoptions
  constructor
  case list => exact hlist
  case ordered => exact fun map _ => Header.pairwise_entries map
  case overfull =>
    intro hown w endpoint hlead hfull
    rw [← hlist] at hfull
    exact create_of_overfull hoptions (given_eq_none hown hoptions) hlead hfull
  case refused =>
    intro hown w endpoint hlead hfits hvalid
    obtain ⟨earlier, h, later, hsplit, hearlier, hinvalid⟩ := HeaderMap.exists_first_invalid hvalid
    refine ⟨earlier, h, later, hsplit, hearlier, hinvalid, fun listens s => ?_⟩
    have hgiven : settings.given = none := given_eq_none hown hoptions
    have hestablish : Transport.establish w.files endpoint settings.headerList w.tls =
        .error (.invalidArgument h.fault) := by
      rw [hlist, hsplit, Transport.establish, HeaderMap.ofList_of_invalid hearlier hinvalid]
      rfl
    rw [create_of_fits hoptions hgiven hlead (hlist ▸ hfits),
      perform_build_of_error hoptions hgiven hlead hestablish]
  case unreached =>
    intro hown w endpoint hlead hfits hvalid e hroute listens s
    have hgiven : settings.given = none := given_eq_none hown hoptions
    have hestablish : Transport.establish w.files endpoint settings.headerList w.tls =
        .error e := by
      rw [hlist, Transport.establish, HeaderMap.ofList_of_valid hvalid, Transport.withHeaders]
      simp only [hroute]
    rw [create_of_fits hoptions hgiven hlead (hlist ▸ hfits),
      perform_build_of_error hoptions hgiven hlead hestablish]
  case carried =>
    intro hown w endpoint hlead hfits _ hvalid route hroute
    let t : Transport := ⟨route, Table.ofList ((composed maps).map Header.lowered)⟩
    have hgiven : settings.given = none := given_eq_none hown hoptions
    have ht : Transport.establish w.files endpoint settings.headerList w.tls = .ok t := by
      rw [hlist, Transport.establish, HeaderMap.ofList_of_valid hvalid, Transport.withHeaders]
      simp only [hroute, t]
    have hcarries : t.Carries (composed maps) := Transport.carries_of_ofList rfl
    refine ⟨t, rfl, hcarries, fun listens s => ?_⟩
    obtain ⟨hsends, hmade⟩ := perform_build_of_ok hoptions hgiven hlead ht
      (rfl : (Session.build ⟨w, listens⟩ options).perform s = _)
    exact ⟨_, _, create_of_fits hoptions hgiven hlead (hlist ▸ hfits) listens s,
      fun hcheck => (hsends hcheck).mono (hcarries.sent listens), hlist ▸ hmade⟩
  case agent =>
    intro before after hstamped
    exact hstamped.last _ ("User-Agent", _) [] rfl nofun

/-- A map with one name in two cases, and with a name for the client. -/
def impostorMap : Table String :=
  .ofList [("X-Trace", "1"), ("user-agent", "impostor"), ("x-trace", "2")]

/-- Options with this map, which is not gone through in order. -/
def impostorOptions : List ClientOption :=
  [.headers [("x-trace", "2"), ("user-agent", "impostor"), ("X-Trace", "1")],
    .host "tcp://far:2375"]

/-- Surroundings that say nothing. -/
def bareWorld : World := { env := .ofList [], home := none, files := Files.none }

/-- The name in lower case comes last and is sent; the impostor is not. -/
theorem headers_from_maps_impostor :
    ∃ settings, HeadersFrom impostorOptions [impostorMap] settings ∧
      ∃ t : Transport, t.route = .tcp "far:2375" none ∧
        (∀ listens sent, Scene.IsOver listens (.over t) sent →
          ∃ after, sent.headers = some after ∧ after.sentFor "x-trace" = ["2"] ∧
            after.sentFor "User-Agent" = ["docker-rust-sdk/" ++ Labels.currentVersion] ∧
            after.sentFor "content-type" = ["application/json"]) ∧
        ∀ listens (s : Session), s.scene.Sends (·.Carries (composed [impostorMap]))
          (Session.create ⟨bareWorld, listens⟩ impostorOptions s).2.scene := by
  have hmaps : ClientOption.Maps impostorOptions [impostorMap] := by
    refine .cons ?_ .nil
    decide
  have hheaders : HeadersFrom impostorOptions [impostorMap] (ofKinds impostorOptions) :=
    headers_from_maps hmaps (ofOptions_eq_ok (by simp [impostorOptions, ClientOption.noCheck]))
  have hlead : (ofKinds impostorOptions).LeadTo bareWorld
      ⟨"tcp://far:2375", false, none, by decide, by decide⟩ := ⟨_, rfl, rfl⟩
  have hcomposed : composed [impostorMap] = [("X-Trace", "1"), ("x-trace", "2"),
      ("User-Agent", "docker-rust-sdk/" ++ Labels.currentVersion)] := by rfl
  obtain ⟨t, hroute, hcarries, hcreate⟩ := hheaders.carried (by simp [impostorOptions]) bareWorld _
    hlead (by rw [hcomposed]; decide) (by rw [hcomposed]; decide) (by rw [hcomposed]; decide)
    (.tcp "far:2375" none) (by rfl)
  refine ⟨_, hheaders, t, hroute, fun listens sent hover => ?_, fun listens s => ?_⟩
  · obtain ⟨after, hafter, hstamped⟩ := hcarries.sent listens sent hover
    refine ⟨after, hafter, ?_, hheaders.agent _ _ hstamped, ?_⟩
    · exact hstamped.last [("X-Trace", "1")] ("x-trace", "2") _ hcomposed (by decide)
    · rw [hstamped.others "content-type" (by rw [hcomposed]; decide)]
      rfl
  · obtain ⟨made, after, hmade, hsends, -⟩ := hcreate listens s
    rw [hmade]
    exact hsends HealthCheck.keepsToLink_patient

/-- A map with sixteen names. -/
def letterMap : Table String :=
  .ofList [("a", ""), ("b", ""), ("c", ""), ("d", ""), ("e", ""), ("f", ""), ("g", ""), ("h", ""),
    ("i", ""), ("j", ""), ("k", ""), ("l", ""), ("m", ""), ("n", ""), ("o", ""), ("p", "")]

/-- A map with a name that is none, and many others. -/
def crowdedMaps : List (Table String) :=
  .ofList [("a b", "")] :: List.replicate 1536 letterMap

/-- Options with these maps, for a client that no transport is handed to. -/
def crowdedOptions : List ClientOption :=
  .host "tcp://127.0.0.1:1" :: crowdedMaps.map fun map => .headers map.entries

theorem maps_crowdedOptions : ClientOption.Maps crowdedOptions crowdedMaps := by
  have hentries : crowdedOptions.filterMap ClientOption.entries? =
      crowdedMaps.map Table.entries := by
    rw [crowdedOptions, List.filterMap_cons, List.filterMap_map, ← List.filterMap_eq_map]
    rfl
  rw [ClientOption.Maps, hentries, List.forall₂_map_left_iff, List.forall₂_same]
  exact fun map _ => .refl map.entries

theorem leadTo_crowdedOptions : (ofKinds crowdedOptions).LeadTo bareWorld
    ⟨"tcp://127.0.0.1:1", false, none, by decide, by decide⟩ := by
  -- apart from the host the options say something of headers alone
  have hlast (k : ClientOption.Kind) (hk : k ≠ .headers) : ClientOption.last? k crowdedOptions =
      ClientOption.say? k (.host "tcp://127.0.0.1:1") := by
    rw [crowdedOptions, ClientOption.last?_cons, ClientOption.last?, List.filterMap_map]
    have hsilent : ClientOption.say? k ∘ (fun map : Table String =>
        ClientOption.headers map.entries) = fun _ => none :=
      funext fun map => ClientOption.say?_of_kind_ne hk.symm
    rw [hsilent, List.filterMap_none]
    rfl
  refine ⟨⟨"tcp://127.0.0.1:1", .override, none⟩, ?_, ?_⟩
  · simp only [ofKinds, hlast .host (by decide)]
    rfl
  · simp only [ofKinds, hlast .tls (by decide)]
    rfl

/-- The list is longer than there can be room for. -/
theorem length_composed_crowdedMaps : (composed crowdedMaps).length = 24578 := by
  have hbad : ((Table.ofList [("a b", "")]).entries.filter fun h =>
      Text.lower h.1 ≠ "user-agent").length = 1 := by decide
  have hletters : (letterMap.entries.filter fun h => Text.lower h.1 ≠ "user-agent").length = 16 := by
    decide
  rw [composed, crowdedMaps, List.length_append, List.filter_flatMap, List.length_flatMap,
    List.map_cons, List.map_replicate, List.sum_cons, List.sum_replicate_nat, hbad, hletters]
  rfl

/-- **A header that is not valid is not refused** if the list is too long: to make the client
panics. -/
theorem crowded_client_panics :
    ClientOption.Maps crowdedOptions crowdedMaps ∧
      (∀ handed, ClientOption.transport handed ∉ crowdedOptions) ∧
      ∃ settings endpoint, ofOptions crowdedOptions = .ok settings ∧
        settings.LeadTo bareWorld endpoint ∧ (∃ h ∈ composed crowdedMaps, ¬h.IsValid) ∧
        ∀ listens s, Session.create ⟨bareWorld, listens⟩ crowdedOptions s =
          (.error HeaderMap.overflow, s) := by
  have hown : ∀ handed, ClientOption.transport handed ∉ crowdedOptions := by
    simp [crowdedOptions]
  have hoptions : ofOptions crowdedOptions = .ok (ofKinds crowdedOptions) :=
    ofOptions_eq_ok (by simp [crowdedOptions, ClientOption.noCheck])
  have hbad : ("a b", "") ∈ composed crowdedMaps := by
    refine List.mem_append_left _ (List.mem_filter.mpr ⟨List.mem_flatMap.mpr ?_, by decide⟩)
    exact ⟨_, List.mem_cons_self, by decide⟩
  refine ⟨maps_crowdedOptions, hown, _, _, hoptions, leadTo_crowdedOptions,
    ⟨("a b", ""), hbad, by decide⟩, fun listens s => ?_⟩
  refine create_of_overfull hoptions (given_eq_none hown hoptions) leadTo_crowdedOptions ?_
    listens s
  rw [headerList_eq_composed maps_crowdedOptions hoptions, length_composed_crowdedMaps]
  decide

end ClientSettings

end DockerClient
