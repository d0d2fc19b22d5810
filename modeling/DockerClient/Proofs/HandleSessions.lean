import DockerClient.Proofs.HandleProgress
import DockerClient.Session.Clients

/-
**What a session does with a client, one call after the other**, is what calls on its handles can
do: each operation of a session is a run of one call that nobody disturbs, from the state that the
client has before it to the one it has afterwards.

* `Session.perform_info`, `Session.perform_fetchInfo`, `Session.perform_link`,
  `Session.perform_call` — the operations, step by step;
* `Handle.Alone` — a call that runs by itself to its end;
* `Session.info_alone`, `Session.link_alone`, `Session.ping_alone`, `Session.close_alone` — **every
  operation is such a call**.
-/

set_option relaxedAutoImplicit false
set_option autoImplicit false

namespace DockerClient

/-! ### Operations step by step -/

namespace Act

variable {α β : Type}

/-- An operation is followed by another unless it fails. -/
theorem perform_bind (act : Act α) (f : α → Act β) (s : Session) :
    (act >>= f).perform s =
      match act.perform s with
      | (.ok a, s) => (f a).perform s
      | (.error e, s) => (.error e, s) := by
  simp only [perform, ExceptT.run_bind, StateT.run_bind]
  rcases StateT.run (ExceptT.run act) s with ⟨result, after⟩
  cases result <;> rfl

/-- What succeeds in two parts succeeded in each. -/
theorem ok_of_bind {act : Act α} {f : α → Act β} {s t : Session} {b : β}
    (h : (act >>= f).perform s = (.ok b, t)) :
    ∃ a u, act.perform s = (.ok a, u) ∧ (f a).perform u = (.ok b, t) := by
  rw [perform_bind] at h
  rcases hact : act.perform s with ⟨_ | a, u⟩
  · rw [hact] at h
    cases h
  · rw [hact] at h
    exact ⟨a, u, rfl, h⟩

/-- The error of an operation is met by another. -/
theorem perform_tryCatch (act : Act α) (f : Error → Act α) (s : Session) :
    (tryCatch act f).perform s =
      match act.perform s with
      | (.ok a, s) => (.ok a, s)
      | (.error e, s) => (f e).perform s := by
  simp only [perform, ExceptT.run_tryCatch, StateT.run_bind]
  rcases StateT.run (ExceptT.run act) s with ⟨result, after⟩
  cases result <;> rfl

@[simp] theorem perform_pure (a : α) (s : Session) : (pure a : Act α).perform s = (.ok a, s) := rfl

@[simp] theorem perform_throw (e : Error) (s : Session) :
    (throw e : Act α).perform s = (.error e, s) := rfl

@[simp] theorem perform_get (s : Session) : (get : Act Session).perform s = (.ok s, s) := rfl

@[simp] theorem perform_change (f : Session → Session) (s : Session) :
    (change f).perform s = (.ok (), f s) := rfl

@[simp] theorem perform_inScene (f : Scene → Except Error α × Scene) (s : Session) :
    (inScene f).perform s = ((f s.scene).1, { s with scene := (f s.scene).2 }) := rfl

/-- An operation whose failure is looked at does not fail. -/
theorem perform_outcome (act : Act α) (s : Session) :
    act.outcome.perform s = (.ok (act.perform s).1, (act.perform s).2) := rfl

end Act

/-- A call to the daemon that fails says what was wrong with the daemon. -/
theorem Scene.call_error {α : Type} {listens : Route → Bool} {l : Link} {what : Call α} {s : Scene}
    {e : Error} (h : (s.call listens l what).1 = .error e) : ∃ fault, e = .daemon fault := by
  unfold Scene.call at h
  split at h
  · cases h
    exact ⟨_, rfl⟩
  · split at h
    · cases h
      exact ⟨_, rfl⟩
    · cases h

namespace Session

variable {sr : Surroundings} {c : Nat} {s : Session} {held : ClientCell}

theorem perform_cell (h : s.clients[c]? = some held) : (cell c).perform s = (.ok held, s) := by
  rw [cell, Act.perform_bind]
  simp [h]

theorem perform_link (h : s.clients[c]? = some held) :
    (link c).perform s =
      (match held.state.link with | some l => .ok l | none => .error .closed, s) := by
  rw [link, Act.perform_bind, perform_cell h]
  cases hl : held.state.link <;> simp [hl]

/-- A request over the link of an open client. -/
theorem perform_call {α : Type} {what : Call α} {l : Link} (h : s.clients[c]? = some held)
    (hl : held.state.link = some l) :
    (call sr c what).perform s = ((s.scene.call sr.listens l what).1,
      { s with scene := (s.scene.call sr.listens l what).2 }) := by
  rw [call, Act.perform_bind, perform_link h, hl]
  rfl

/-- A closed client sends no request. -/
theorem perform_call_closed {α : Type} {what : Call α} (h : s.clients[c]? = some held)
    (hl : held.state.link = none) : (call sr c what).perform s = (.error .closed, s) := by
  rw [call, Act.perform_bind, perform_link h, hl]

/-- An account that is fetched is kept, and a failure keeps the state. -/
theorem perform_fetchInfo (l : Link) :
    (fetchInfo sr c l).perform s =
      match s.scene.call sr.listens l Call.info with
      | (.ok record, scene) =>
          (.ok ⟨s.fetches, record⟩,
            { s with
              scene := scene
              fetches := s.fetches + 1
              clients := s.clients.modify c fun cell =>
                { cell with state := cell.state.keep ⟨s.fetches, record⟩ } })
      | (.error e, scene) => (.error e, { s with scene := scene }) := by
  rw [fetchInfo, Act.perform_bind, Act.perform_inScene]
  rcases s.scene.call sr.listens l Call.info with ⟨result, scene⟩
  cases result <;> rfl

theorem perform_info (h : s.clients[c]? = some held) :
    (info sr c).perform s =
      match held.state.peek with
      | .closed => (.error .closed, s)
      | .known fetched => (.ok fetched, s)
      | .unknown _ =>
          match held.state.claim with
          | .closed => (.error .closed, s)
          | .known fetched => (.ok fetched, s)
          | .unknown l => (fetchInfo sr c l).perform s := by
  rw [info, Act.perform_bind, perform_cell h]
  dsimp only
  cases held.state.peek with
  | closed | known => rfl
  | unknown =>
      dsimp only
      rw [Act.perform_bind, perform_cell h]
      dsimp only
      cases held.state.claim <;> rfl

end Session

/-! ### Calls that nobody disturbs -/

namespace Handle

variable {L I : Type}

/-- A call runs by itself to its end: from a state of the client to a result and another state. -/
def Alone (op : Op) (before : ClientState L I) (result : Except Error (Gain L I))
    (after : ClientState L I) : Prop :=
  ∃ t : System L I, Run ⟨{ state := before }, fun _ => .fresh⟩ t ∧
    t.phase 0 = .ended op result ∧ t.shared.state = after ∧ t.shared.lock = .free

variable {state : ClientState L I}

/-- A call begins to ask, and looks at the state. -/
theorem run_looking (state : ClientState L I) (query : Query) :
    ∃ phase, Run ⟨{ state := state }, fun _ => .fresh⟩
        ⟨{ lock := .shared [0], state := state }, phase⟩ ∧ phase 0 = .looking query :=
  ⟨_, .move (.move .refl 0 rfl (.ask query)) 0 rfl (.enter rfl), rfl⟩

/-- A call that ends with its look at the state. -/
theorem alone_of_look {query : Query} {result : Except Error (Gain L I)}
    (h : Move 0 { lock := .shared [0], state := state } (.looking query)
      { lock := (Lock.shared [0]).leave 0, state := state } (.ended (.ask query) result)) :
    Alone (.ask query) state result state := by
  obtain ⟨phase, hrun, hphase⟩ := run_looking state query
  exact ⟨_, hrun.move 0 hphase h, rfl, rfl, rfl⟩

/-- A call begins to ask for an account, finds none and is alone with the state. -/
theorem run_claiming {link : L} (h : state.peek = .unknown link) :
    ∃ phase, Run ⟨{ state := state }, fun _ => .fresh⟩
        ⟨{ lock := .exclusive 0, state := state }, phase⟩ ∧ phase 0 = .claiming := by
  obtain ⟨phase, hrun, hphase⟩ := run_looking state .info
  exact ⟨_, (hrun.move 0 hphase (.peekUnknown h)).move 0 rfl (.seize rfl), rfl⟩

/-- A call that ends with its second look. -/
theorem alone_of_claim {link : L} (h : state.peek = .unknown link)
    {result : Except Error (Gain L I)}
    (hclaim : Move 0 { lock := .exclusive 0, state := state } .claiming
      { lock := (Lock.exclusive 0).leave 0, state := state } (.ended (.ask .info) result)) :
    Alone (.ask .info) state result state := by
  obtain ⟨phase, hrun, hphase⟩ := run_claiming h
  exact ⟨_, hrun.move 0 hphase hclaim, rfl, rfl, rfl⟩

end Handle

/-! ### Operations as calls -/

namespace Session

variable {sr : Surroundings} {c : Nat} {s : Session} {held : ClientCell}

/-- The link of a client is what a lone call that asks for it gives. -/
theorem link_alone (h : s.clients[c]? = some held) :
    ((link c).perform s).2 = s ∧
      Handle.Alone (.ask .link) held.state (((link c).perform s).1.map .link) held.state := by
  rw [perform_link h]
  refine ⟨rfl, ?_⟩
  have hlook : Handle.linkOf held.state = Except.map .link
      (match held.state.link with | some l => .ok l | none => .error .closed) := by
    unfold Handle.linkOf
    cases held.state.link <;> rfl
  rw [← hlook]
  exact Handle.alone_of_look .giveLink

/-- A ping is what a lone call that pings does. -/
theorem ping_alone (h : s.clients[c]? = some held) :
    ((ping sr c).perform s).2.clients[c]? = some held ∧
      Handle.Alone (.ask .ping) held.state
        (((ping sr c).perform s).1.map fun _ => .nothing) held.state := by
  cases hl : held.state.link with
  | none =>
      rw [ping, perform_call_closed h hl]
      exact ⟨h, Handle.alone_of_look (.refusePing hl)⟩
  | some l =>
      rw [ping, perform_call h hl]
      refine ⟨h, ?_⟩
      obtain ⟨phase, hrun, hphase⟩ := Handle.run_looking held.state .ping
      have pinging := (hrun.move 0 hphase (.allowPing hl)).move 0 rfl .ping
      cases hcall : (s.scene.call sr.listens l Call.ping).1 with
      | ok _ => exact ⟨_, pinging.move 0 rfl .pong, rfl, rfl, rfl⟩
      | error e =>
          obtain ⟨fault, rfl⟩ := Scene.call_error hcall
          exact ⟨_, pinging.move 0 rfl (.pingFails fault), rfl, rfl, rfl⟩

/-- The account of a client is what a lone call that asks for it gives, and is kept likewise. -/
theorem info_alone (h : s.clients[c]? = some held) :
    ∃ after, ((info sr c).perform s).2.clients[c]? = some after ∧
      Handle.Alone (.ask .info) held.state (((info sr c).perform s).1.map .info) after.state := by
  rw [perform_info h]
  cases hpeek : held.state.peek with
  | closed => exact ⟨held, h, Handle.alone_of_look (.peekClosed hpeek)⟩
  | known fetched => exact ⟨held, h, Handle.alone_of_look (.peekKnown hpeek)⟩
  | unknown l =>
      dsimp only
      cases hclaim : held.state.claim with
      | closed => exact ⟨held, h, Handle.alone_of_claim hpeek (.claimClosed hclaim)⟩
      | known fetched => exact ⟨held, h, Handle.alone_of_claim hpeek (.claimKnown hclaim)⟩
      | unknown l =>
          dsimp only
          obtain ⟨phase, hrun, hphase⟩ := Handle.run_claiming hpeek
          have fetching := hrun.move 0 hphase (.fetch hclaim)
          rw [perform_fetchInfo]
          rcases hcall : s.scene.call sr.listens l Call.info with ⟨result, scene⟩
          cases result with
          | ok record =>
              refine ⟨{ held with state := held.state.keep ⟨s.fetches, record⟩ }, ?_, _,
                fetching.move 0 rfl (.fetched ⟨s.fetches, record⟩), rfl, rfl, rfl⟩
              simp [List.getElem?_modify_eq, h]
          | error e =>
              obtain ⟨fault, rfl⟩ := Scene.call_error (congrArg Prod.fst hcall)
              exact ⟨held, h, _, fetching.move 0 rfl (.fetchFails fault), rfl, rfl, rfl⟩

/-- Closing a client is what a lone call that closes it does. -/
theorem close_alone (h : s.clients[c]? = some held) :
    ((close c).perform s).2.clients[c]? = some { held with state := held.state.close } ∧
      Handle.Alone .close held.state (((close c).perform s).1.map fun _ => .nothing)
        held.state.close := by
  refine ⟨by simp [close, updateState, List.getElem?_modify_eq, h], ?_⟩
  have start : Handle.Run (L := Link) (I := Fetched DaemonInfo)
      ⟨{ state := held.state }, fun _ => .fresh⟩ _ := .refl
  have unlinked := ((start.move 0 rfl .close).move 0 rfl (.seizeToClose rfl)).move 0 rfl .unlink
  exact ⟨_, unlinked.move 0 rfl .forget, rfl, rfl, rfl⟩

end Session

end DockerClient
