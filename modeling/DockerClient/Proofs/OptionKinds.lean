import DockerClient.Proofs.HandleSessions
import Mathlib.Data.List.Basic

/-
**What a client is made from**: of its options, only the last of each kind, and all headers in order.

Options are read one after the other, each changes what they amount to, and one of them stops the
reading.  What comes out does not show how it came about: two lists of options that say the same,
kind by kind, lead to the same client.

* `ClientOption.Kind`, `ClientOption.Said`, `ClientOption.say?` — the kinds of options, and what an
  option of a kind says;
* `ClientOption.last?`, `ClientOption.allHeaders`, `ClientOption.Agree` — what options say, kind by
  kind;
* `ClientSettings.ofOptions_eq_ok`, `ClientSettings.ofOptions_eq_error` — **what options amount to**;
* `ClientOption.last?_swap`, `ClientOption.last?_drop`, `ClientOption.agree_unlogged` — changes to a
  list that do not show;
* `ClientPlan.panicOf?_eq_none`, `Session.create_nil` — a panic takes more headers than a client has
  without options;
* `Session.perform_build`, `Session.construction` — making a client, and what it leads to but for the
  span;
* `ClientOption.BuiltByKind`, `ClientOption.built_by_kind` — **a client depends on what its options
  say, kind by kind**.
-/

set_option relaxedAutoImplicit false
set_option autoImplicit false

namespace DockerClient

namespace ClientOption

/-! ### Kinds -/

/-- The kinds of options. -/
inductive Kind where
  | host
  | context
  | tls
  | headers
  | logger
  | healthCheck
  | transport
deriving DecidableEq, Repr

/-- The kind of an option. -/
def kind : ClientOption → Kind
  | .host _ => .host
  | .context _ => .context
  | .tls _ _ => .tls
  | .headers _ => .headers
  | .logger _ => .logger
  | .healthCheck _ => .healthCheck
  | .transport _ => .transport

/-- What an option of a kind says. -/
@[reducible] def Said : Kind → Type
  | .host | .context => String
  | .tls => Bool × Option String
  | .headers => List Header
  | .logger => Span
  | .healthCheck => HealthCheck
  | .transport => Nat

/-- What an option says, if it is of a kind; headers are put in order. -/
def say? : (k : Kind) → ClientOption → Option (Said k)
  | .host, .host h => some h
  | .context, .context name => some name
  | .tls, .tls verify certPath => some (verify, certPath)
  | .headers, .headers entries => some (entries.mergeSort Header.precedes)
  | .logger, .logger span => span
  | .healthCheck, .healthCheck check => check
  | .transport, .transport handed => some handed
  | _, _ => none

/-- The option that takes the health check away. -/
def noCheck : ClientOption := .healthCheck none

/-- What is said of it. -/
def checkMissing : Error := .invalidArgument .missingHealthCheck

/-- An option says nothing of another kind. -/
theorem say?_of_kind_ne {k : Kind} {o : ClientOption} (h : o.kind ≠ k) : say? k o = none := by
  cases k <;> cases o <;> first | rfl | exact absurd rfl h

/-- Every option says something of its own kind, but for a logger without a span and a health check
that is taken away. -/
theorem say?_kind_ne_none {o : ClientOption} (hcheck : o ≠ noCheck) (hlogger : o ≠ .logger none) :
    say? o.kind o ≠ none := by
  rcases o with _ | _ | _ | _ | (_ | _) | (_ | _) | _ <;> simp_all [say?, kind, noCheck]

/-! ### What options say, kind by kind -/

variable {k : Kind} {before between after options : List ClientOption} {a b : ClientOption}

/-- What is said last of a kind. -/
def last? (k : Kind) (options : List ClientOption) : Option (Said k) :=
  (options.filterMap (say? k)).getLast?

/-- The headers of all options, in order. -/
def allHeaders (options : List ClientOption) : List Header :=
  (options.filterMap (say? .headers)).flatten

/-- **Options that say the same, kind by kind**, but for spans: what is said last of a kind, and all
headers in order. -/
structure Agree (first second : List ClientOption) : Prop where
  last : ∀ k, k ≠ .headers → k ≠ .logger → last? k first = last? k second
  headers : allHeaders first = allHeaders second

theorem last?_cons (k : Kind) (o : ClientOption) (options : List ClientOption) :
    last? k (o :: options) = (last? k options).or (say? k o) := by
  unfold last?
  cases h : say? k o with
  | none => simp [h]
  | some said =>
      rw [List.filterMap_cons_some h, List.getLast?_cons]
      cases (options.filterMap (say? k)).getLast? <;> rfl

theorem last?_append (k : Kind) (first second : List ClientOption) :
    last? k (first ++ second) = (last? k second).or (last? k first) := by
  unfold last?
  rw [List.filterMap_append, List.getLast?_append]

theorem allHeaders_cons (o : ClientOption) (options : List ClientOption) :
    allHeaders (o :: options) = (say? .headers o).getD [] ++ allHeaders options := by
  unfold allHeaders
  cases h : say? .headers o <;> simp [h]

theorem allHeaders_append (first second : List ClientOption) :
    allHeaders (first ++ second) = allHeaders first ++ allHeaders second := by
  simp [allHeaders]

/-! ### Changes that do not show -/

/-- **Of two options of different kinds the order does not show.** -/
theorem last?_swap (k : Kind) (h : a.kind ≠ b.kind) :
    last? k (before ++ b :: a :: after) = last? k (before ++ a :: b :: after) := by
  simp only [last?_append, last?_cons]
  -- at most one of the two says something of the kind
  by_cases ha : a.kind = k
  · have hb : say? k b = none := say?_of_kind_ne fun hb => h (ha.trans hb.symm)
    simp [hb]
  · simp [say?_of_kind_ne ha]

theorem allHeaders_swap (h : a.kind ≠ b.kind) :
    allHeaders (before ++ b :: a :: after) = allHeaders (before ++ a :: b :: after) := by
  simp only [allHeaders_append, allHeaders_cons]
  by_cases ha : a.kind = .headers
  · have hb : say? .headers b = none := say?_of_kind_ne fun hb => h (ha.trans hb.symm)
    simp [hb]
  · simp [say?_of_kind_ne ha]

/-- **An option that a later one replaces does not show.** -/
theorem last?_drop (k : Kind) (h : a.kind = k → say? k b ≠ none) :
    last? k (before ++ between ++ b :: after) = last? k (before ++ a :: between ++ b :: after) := by
  simp only [last?_append, last?_cons, List.append_assoc, List.cons_append]
  by_cases ha : a.kind = k
  · obtain ⟨said, hsaid⟩ := Option.ne_none_iff_exists'.mp (h ha)
    rw [hsaid]
    cases last? k after <;> simp
  · simp [say?_of_kind_ne ha]

theorem allHeaders_drop (h : a.kind ≠ .headers) :
    allHeaders (before ++ between ++ b :: after) =
      allHeaders (before ++ a :: between ++ b :: after) := by
  simp [allHeaders_append, allHeaders_cons, say?_of_kind_ne h]

/-- The options that are no loggers. -/
def unlogged (options : List ClientOption) : List ClientOption :=
  options.filter fun o => o.kind ≠ .logger

/-- **Loggers do not show.** -/
theorem agree_unlogged (options : List ClientOption) : Agree (unlogged options) options := by
  have heard {k : Kind} (hk : k ≠ .logger) :
      (unlogged options).filterMap (say? k) = options.filterMap (say? k) := by
    unfold unlogged
    rw [List.filterMap_filter]
    refine List.filterMap_congr fun o _ => ?_
    -- what is left out says nothing of the kind
    by_cases ho : o.kind = .logger
    · have hsilent : say? k o = none := say?_of_kind_ne fun h => hk (h.symm.trans ho)
      simp [ho, hsilent]
    · simp [ho]
  refine ⟨fun k _ hk => ?_, ?_⟩
  · rw [last?, heard hk, last?]
  · rw [allHeaders, heard (by decide), allHeaders]

end ClientOption

/-! ### What options amount to -/

namespace ClientSettings

open ClientOption

/-- Settings under what options say. -/
def under (s : ClientSettings) (options : List ClientOption) : ClientSettings where
  host := (last? .host options).or s.host
  context := (last? .context options).or s.context
  tls := (last? .tls options).or s.tls
  headers := s.headers ++ allHeaders options
  span := (last? .logger options).or s.span
  check := (last? .healthCheck options).getD s.check
  given := (last? .transport options).or s.given

/-- An option that is taken is the first of those that follow. -/
theorem exists_apply (s : ClientSettings) {o : ClientOption} (h : o ≠ noCheck) :
    ∃ t, apply s o = .ok t ∧ ∀ options, t.under options = s.under (o :: options) := by
  cases o with
  | host | context | tls | transport | headers =>
      refine ⟨_, rfl, fun options => ?_⟩
      simp [under, last?_cons, allHeaders_cons, say?]
  | logger span =>
      cases span <;> refine ⟨_, rfl, fun options => ?_⟩ <;>
        simp [under, last?_cons, allHeaders_cons, say?]
  | healthCheck check =>
      cases check with
      | none => exact absurd rfl h
      | some check =>
          refine ⟨_, rfl, fun options => ?_⟩
          simp only [under, last?_cons, allHeaders_cons, say?]
          cases last? .healthCheck options <;> simp

theorem foldlM_apply (s : ClientSettings) {options : List ClientOption} (h : noCheck ∉ options) :
    options.foldlM apply s = .ok (s.under options) := by
  -- each option changes the settings under which the others are read
  induction options generalizing s with
  | nil => simp [under, last?, allHeaders, pure, Except.pure]
  | cons o options ih =>
      rw [List.mem_cons, not_or] at h
      obtain ⟨t, hfirst, hunder⟩ := exists_apply s (Ne.symm h.1)
      rw [List.foldlM_cons, hfirst, ← hunder]
      exact ih t h.2

/-- What options amount to that take no health check away. -/
def ofKinds (options : List ClientOption) : ClientSettings where
  host := last? .host options
  context := last? .context options
  tls := last? .tls options
  headers := allHeaders options
  span := last? .logger options
  check := (last? .healthCheck options).getD .patient
  given := last? .transport options

/-- **Options amount to what they say, kind by kind.** -/
theorem ofOptions_eq_ok {options : List ClientOption} (h : noCheck ∉ options) :
    ofOptions options = .ok (ofKinds options) := by
  rw [ofOptions, foldlM_apply {} h]
  simp [under, ofKinds]

/-- **A health check that is taken away ends the reading**, whatever the other options are. -/
theorem ofOptions_eq_error {options : List ClientOption} (h : noCheck ∈ options) :
    ofOptions options = .error checkMissing := by
  suffices ∀ s, options.foldlM apply s = .error checkMissing from this {}
  induction options with
  | nil => cases h
  | cons o options ih =>
      intro s
      rw [List.foldlM_cons]
      by_cases ho : o = noCheck
      · rw [ho]
        rfl
      · obtain ⟨t, hfirst, -⟩ := exists_apply s ho
        rw [hfirst]
        exact ih ((List.mem_cons.mp h).resolve_left (Ne.symm ho)) t

/-- Options that say the same amount to the same, but for the span. -/
theorem ofKinds_of_agree {first second : List ClientOption} (h : Agree first second) :
    ofKinds first = { ofKinds second with span := last? .logger first } := by
  have last (k : Kind) (hk : k ≠ .headers ∧ k ≠ .logger) : last? k first = last? k second :=
    h.last k hk.1 hk.2
  simp only [ofKinds, h.headers, last .host (by decide), last .context (by decide),
    last .tls (by decide), last .healthCheck (by decide), last .transport (by decide)]

end ClientSettings

/-! ### Making a client -/

namespace ClientPlan

/-- A plan with its messages attributed otherwise. -/
def spanned (span : Option Span) (plan : ClientPlan) : ClientPlan :=
  { plan with span := span.getD defaultSpan }

/-- A span changes nothing else of a plan. -/
theorem ofSettings_span (w : World) (s : ClientSettings) (span : Option Span) :
    ofSettings w { s with span := span } = (ofSettings w s).map (spanned span) := by
  unfold ofSettings
  cases Endpoint.resolve w s.host s.context with
  | error e => rfl
  | ok resolved =>
      dsimp only
      cases Endpoint.select w.env s.tls resolved with
      | error e => rfl
      | ok endpoint =>
          dsimp only [ClientSettings.headerList]
          cases linkOf w s.given endpoint _ with
          | error e => rfl
          | ok link => rfl

/-- Options that say the same panic in the same surroundings. -/
theorem panic?_of_agree {first second : List ClientOption}
    (hfirst : ClientOption.noCheck ∉ first) (hsecond : ClientOption.noCheck ∉ second)
    (h : ClientOption.Agree first second) (w : World) : panic? w first = panic? w second := by
  rw [panic?, panic?, ClientSettings.ofOptions_eq_ok hfirst,
    ClientSettings.ofOptions_eq_ok hsecond, ClientSettings.ofKinds_of_agree h]
  rfl

end ClientPlan

namespace Session

/-- The session in which all messages are attributed as they are without a logger. -/
def spanless (s : Session) : Session :=
  { s with clients := s.clients.map fun cell => { cell with span := ClientPlan.defaultSpan } }

/-- What a plan leads to: its health check decides, and then the client is there. -/
def realize (sr : Surroundings) (planned : Except Error ClientPlan) (s : Session) :
    Except Error Nat × Session :=
  match planned with
  | .error e => (.error e, s)
  | .ok plan =>
      match plan.prepare sr.listens s.scene with
      | (.error e, scene) => (.error e, { s with scene := scene })
      | (.ok _, scene) =>
          (.ok s.clients.length,
            { s with scene := scene, clients := s.clients ++ [cellOf plan] })

/-- **Making a client** is to plan it and to do what the plan leads to. -/
theorem perform_build (sr : Surroundings) (options : List ClientOption) (s : Session) :
    (build sr options).perform s = realize sr (ClientPlan.make sr.world options) s := by
  rw [build, Act.perform_bind]
  cases ClientPlan.make sr.world options with
  | error e => rfl
  | ok plan =>
      change (Act.inScene (plan.prepare sr.listens) >>= fun _ => addClient (cellOf plan)).perform s
        = _
      rw [Act.perform_bind, Act.perform_inScene, realize]
      rcases plan.prepare sr.listens s.scene with ⟨result, scene⟩
      cases result <;> rfl

/-- What the construction of a client leads to, but for the span of its messages: a panic, if it has
too many headers; the client or an error; and the session with all that was sent, said and waited
for. -/
def construction (sr : Surroundings) (options : List ClientOption) (s : Session) :
    Option String × Except Error Nat × Session :=
  let (made, after) := (build sr options).perform s
  (ClientPlan.panic? sr.world options, made, after.spanless)

/-- The span of a plan does not show in what it leads to. -/
theorem spanless_realize (sr : Surroundings) (planned : Except Error ClientPlan)
    (span : Option Span) (s : Session) :
    (realize sr (planned.map (ClientPlan.spanned span)) s).map id spanless =
      (realize sr planned s).map id spanless := by
  cases planned with
  | error e => rfl
  | ok plan =>
      simp only [Except.map, realize]
      have hprepare : (plan.spanned span).prepare sr.listens s.scene =
          plan.prepare sr.listens s.scene := rfl
      rw [hprepare]
      rcases plan.prepare sr.listens s.scene with ⟨result, scene⟩
      cases result with
      | error e => rfl
      | ok _ => simp [spanless, ClientPlan.spanned, cellOf]

/-- **Options that say the same lead to the same**, but for the span. -/
theorem construction_of_agree {first second : List ClientOption}
    (hfirst : ClientOption.noCheck ∉ first) (hsecond : ClientOption.noCheck ∉ second)
    (h : ClientOption.Agree first second) (sr : Surroundings) (s : Session) :
    construction sr first s = construction sr second s := by
  have hplan : ClientPlan.make sr.world first = (ClientPlan.make sr.world second).map
      (ClientPlan.spanned (ClientOption.last? .logger first)) := by
    rw [ClientPlan.make, ClientPlan.make, ClientSettings.ofOptions_eq_ok hfirst,
      ClientSettings.ofOptions_eq_ok hsecond, ClientSettings.ofKinds_of_agree h]
    exact ClientPlan.ofSettings_span ..
  refine Prod.ext (ClientPlan.panic?_of_agree hfirst hsecond h sr.world) ?_
  change ((build sr first).perform s).map id spanless = ((build sr second).perform s).map id spanless
  rw [perform_build, perform_build, hplan, spanless_realize]

end Session

namespace ClientOption

/-- Options that can not be told apart by a client that is made from them, in any session. -/
structure Indistinct (first second : List ClientOption) : Prop where
  panics : ∀ w, ClientPlan.panic? w first = ClientPlan.panic? w second
  builds : ∀ (sr : Surroundings) s,
    (Session.build sr first).perform s = (Session.build sr second).perform s

/-- **A client depends on what its options say, kind by kind.** -/
structure BuiltByKind (options : List ClientOption) : Prop where
  /-- If the health check is taken away, nothing else matters and nothing happens: the error is the
  same in all surroundings, and the session stays as it is. -/
  refused : noCheck ∈ options → ∀ (sr : Surroundings) s,
    ClientPlan.make sr.world options = .error checkMissing ∧
      ClientPlan.panic? sr.world options = none ∧
      (Session.build sr options).perform s = (.error checkMissing, s)
  /-- Otherwise the plan is made from what is said last of each kind, and all headers in order; and
  so is the panic about too many of them. -/
  planned : noCheck ∉ options → ∀ w,
    ClientPlan.make w options = ClientPlan.ofSettings w (.ofKinds options) ∧
      ClientPlan.panic? w options = ClientPlan.panicOf? w (.ofKinds options)
  /-- Options that say the same lead to the same. -/
  agreeing : noCheck ∉ options → ∀ other, noCheck ∉ other → Agree options other → ∀ sr s,
    Session.construction sr options s = Session.construction sr other s
  /-- Neighbours of different kinds can be swapped; not even the span shows it. -/
  swapped : ∀ before a b after, options = before ++ a :: b :: after → a.kind ≠ b.kind →
    Indistinct (before ++ b :: a :: after) options
  /-- What a later option of its kind replaces can be dropped; the span shows it only if the later
  one is a logger that keeps it. -/
  dropped : noCheck ∉ options → ∀ before a between b after,
    options = before ++ a :: between ++ b :: after → a.kind = b.kind → a.kind ≠ .headers →
    ∀ sr s,
    Session.construction sr (before ++ between ++ b :: after) s =
        Session.construction sr options s ∧
      (b ≠ .logger none → Indistinct (before ++ between ++ b :: after) options)
  /-- Loggers do not matter. -/
  unlogged : ∀ sr s, Session.construction sr (unlogged options) s =
    Session.construction sr options s

/-- What cannot be told apart by any kind is the same to a new client. -/
theorem indistinct_of_last {first second : List ClientOption}
    (hcheck : noCheck ∈ first ↔ noCheck ∈ second)
    (hlast : ∀ k, k ≠ .headers → last? k first = last? k second)
    (hheaders : allHeaders first = allHeaders second) : Indistinct first second := by
  have hsettings : ClientSettings.ofOptions first = ClientSettings.ofOptions second := by
    by_cases h : noCheck ∈ first
    · rw [ClientSettings.ofOptions_eq_error h, ClientSettings.ofOptions_eq_error (hcheck.mp h)]
    · have hagree : Agree first second := ⟨fun k hk _ => hlast k hk, hheaders⟩
      rw [ClientSettings.ofOptions_eq_ok h, ClientSettings.ofOptions_eq_ok (mt hcheck.mpr h),
        ClientSettings.ofKinds_of_agree hagree, hlast .logger (by decide)]
      rfl
  constructor
  · intro w
    rw [ClientPlan.panic?, ClientPlan.panic?, hsettings]
  · intro sr s
    rw [Session.perform_build, Session.perform_build, ClientPlan.make, ClientPlan.make, hsettings]

/-- **A client depends on what its options say, kind by kind**, for all options and surroundings. -/
theorem built_by_kind (options : List ClientOption) : BuiltByKind options where
  refused h sr s := by
    have hmake : ClientPlan.make sr.world options = .error checkMissing := by
      rw [ClientPlan.make, ClientSettings.ofOptions_eq_error h]
    have hpanic : ClientPlan.panic? sr.world options = none := by
      rw [ClientPlan.panic?, ClientSettings.ofOptions_eq_error h]
    refine ⟨hmake, hpanic, ?_⟩
    rw [Session.perform_build, hmake]
    rfl
  planned h w := by
    rw [ClientPlan.make, ClientPlan.panic?, ClientSettings.ofOptions_eq_ok h]
    exact ⟨rfl, rfl⟩
  agreeing h other hother hagree := Session.construction_of_agree h hother hagree
  swapped before a b after heq hkind := by
    subst heq
    apply indistinct_of_last
    · simp [or_left_comm]
    · exact fun k _ => last?_swap k hkind
    · exact allHeaders_swap hkind
  dropped h before a between b after heq hkind hheaders sr s := by
    subst heq
    have hshort : noCheck ∉ before ++ between ++ b :: after := by
      simp only [List.mem_append, List.mem_cons, not_or] at h ⊢
      exact ⟨⟨h.1.1, h.1.2.2⟩, h.2⟩
    -- the later option says something of its kind, unless it is a logger that keeps the span
    have hlast : ∀ k, (k = .logger → b ≠ .logger none) →
        last? k (before ++ between ++ b :: after) =
          last? k (before ++ a :: between ++ b :: after) := by
      intro k hk
      refine last?_drop k fun ha => ?_
      rw [← ha, hkind]
      refine say?_kind_ne_none ?_ fun hb => ?_
      · rintro rfl
        simp at h
      · exact hk (by rw [← ha, hkind, hb]; rfl) hb
    refine ⟨Session.construction_of_agree hshort h ?_ sr s, fun hb => ?_⟩
    · exact ⟨fun k _ hk => hlast k fun hlogger => absurd hlogger hk, allHeaders_drop hheaders⟩
    · refine indistinct_of_last (iff_of_false hshort h) (fun k _ => hlast k fun _ => hb) ?_
      exact allHeaders_drop hheaders
  unlogged sr s := by
    by_cases h : noCheck ∈ options
    · have hkept : noCheck ∈ unlogged options := List.mem_filter.mpr ⟨h, rfl⟩
      have refused {os : List ClientOption} (hos : noCheck ∈ os) :
          Session.construction sr os s = (none, .error checkMissing, s.spanless) := by
        rw [Session.construction, Session.perform_build, ClientPlan.make, ClientPlan.panic?,
          ClientSettings.ofOptions_eq_error hos]
        rfl
      rw [refused hkept, refused h]
    · have hkept : noCheck ∉ unlogged options := fun hmem => h (List.mem_filter.mp hmem).1
      exact Session.construction_of_agree hkept h (agree_unlogged options) sr s

end ClientOption

end DockerClient
