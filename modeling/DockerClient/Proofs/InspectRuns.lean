import DockerClient.Proofs.HeldResources
import DockerClient.Proofs.SentRequests

/-
**Inspections one after the other.**

A program goes through a session step by step, and some of its steps inspect one network or one
volume.  Between them it does anything else: it closes or drops the client, inspects other resources,
tears down what it made.  What an inspection answers is said here by what the earlier ones fetched,
and the account is the same for networks and volumes.

* `Session.Query`, `Session.query_fetchWeakly` — what one query for a record leads to;
* `Inspectable`, `Inspectable.network`, `Inspectable.volume` — a resource, and the steps that inspect
  it; `Inspectable.Lawful` — those steps are inspections, and no other step changes what is held;
* `Inspectable.Visit`, `Inspectable.visits`, `Inspectable.last?` — the inspections in a run, and the
  record that was fetched last;
* `Inspectable.Reuses`, `Inspectable.Queries`, `Inspectable.Follows` — **what an inspection does after
  others**;
* `Inspectable.Remembers` — what the cache knows of the run: the invariant;
* `Inspectable.follows_visit`, `Inspectable.follows_of_visits` — one inspection, and a whole run;
* `Inspectable.inspections_follow` — **every inspection of every run follows those before it**.
-/

set_option relaxedAutoImplicit false
set_option autoImplicit false

namespace DockerClient

/-! ### One query -/

/-- The events of an exchange. -/
theorem Scene.events_call {α : Type} (listens : Route → Bool) (l : Link) (what : Call α)
    (s : Scene) : ∃ requests : List SentRequest, requests.length ≤ 1 ∧
      (s.call listens l what).2.events = s.events ++ requests.map .sent := by
  have hcall : (s.call listens l what).2 = (s.exchange listens l what.request).2 := by
    unfold call
    rcases s.exchange listens l what.request with ⟨_ | response, after⟩
    · rfl
    · dsimp only
      split <;> rfl
  rw [hcall, exchange]
  cases asSent listens l what.request with
  | error fault => exact ⟨[], by simp, by simp⟩
  | ok sent =>
      refine ⟨[sent], by simp, ?_⟩
      dsimp only
      rw [events_outcomeOf, events_nextReply]
      rfl

namespace Session

/-- A client that lives and is open has a link. -/
def Reaches (s : Session) (c : Nat) (l : Link) : Prop :=
  s.isHeld c = true ∧ ∃ held, s.clients[c]? = some held ∧ held.state.link = some l

/-- **What one query for a record leads to**, and what it leaves. -/
inductive Query {α : Type} (sr : Surroundings) (c : Nat) (what : Call α) (s : Session) :
    Except Error (Fetched α) → Session → Prop
  /-- Without a client that lives and is open nothing is sent. -/
  | closed (h : ∀ l, ¬s.Reaches c l) : Query sr c what s (.error .closed) s
  /-- One call is made, and fails. -/
  | failed {l : Link} {e : Error} {scene : Scene} (h : s.Reaches c l)
      (hcall : s.scene.call sr.listens l what = (.error e, scene)) :
      Query sr c what s (.error e) { s with scene := scene }
  /-- One call is made, and its record is new. -/
  | answered {l : Link} {record : α} {scene : Scene} (h : s.Reaches c l)
      (hcall : s.scene.call sr.listens l what = (.ok record, scene)) :
      Query sr c what s (.ok ⟨s.fetches, record⟩)
        { s with scene := scene, fetches := s.fetches + 1 }

variable {α : Type} {sr : Surroundings} {c : Nat} {what : Call α} {s : Session}

/-- **A query for a record** is what is made of it. -/
theorem query_fetchWeakly (sr : Surroundings) (c : Nat) (what : Call α) (s : Session) :
    Query sr c what s ((fetchWeakly sr c what).perform s).1
      ((fetchWeakly sr c what).perform s).2 := by
  rw [fetchWeakly, callWeakly, Act.perform_bind, Act.perform_bind, upgrade, Act.perform_bind]
  simp only [Act.perform_get]
  by_cases hheld : s.isHeld c = true
  · simp only [hheld, if_true, Act.perform_pure]
    rcases hcell : s.clients[c]? with _ | held
    · have hcall : (call sr c what).perform s = (.error .closed, s) := by
        rw [call, link, cell, Act.perform_bind, Act.perform_bind, Act.perform_bind]
        simp [hcell]
      rw [hcall]
      refine .closed ?_
      rintro l ⟨-, held, hheld, -⟩
      simp [hcell] at hheld
    · rcases hlink : held.state.link with _ | l
      · rw [perform_call_closed hcell hlink]
        refine .closed ?_
        rintro l ⟨-, other, hother, hl⟩
        rw [hcell, Option.some.injEq] at hother
        rw [← hother, hlink] at hl
        cases hl
      · rw [perform_call hcell hlink]
        have hreaches : s.Reaches c l := ⟨hheld, held, hcell, hlink⟩
        rcases hcall : s.scene.call sr.listens l what with ⟨result, scene⟩
        cases result with
        | error e => exact .failed hreaches hcall
        | ok record => exact .answered hreaches hcall
  · simp only [hheld]
    exact .closed fun l hl => hheld hl.1

/-- The daemon gets one request at most. -/
theorem Query.events {result : Except Error (Fetched α)} {t : Session}
    (h : Query sr c what s result t) :
    ∃ requests : List SentRequest, requests.length ≤ 1 ∧
      t.scene.events = s.scene.events ++ requests.map .sent := by
  have hcall (l : Link) := s.scene.events_call sr.listens l what
  cases h with
  | closed => exact ⟨[], by simp, by simp⟩
  | @failed l _ scene _ h | @answered l _ scene _ h => simpa [h] using hcall l

/-- What was fetched is new, and what was not fetched is not counted. -/
theorem Query.fetches {result : Except Error (Fetched α)} {t : Session}
    (h : Query sr c what s result t) :
    t.fetches = if result.isOk then s.fetches + 1 else s.fetches := by
  cases h <;> rfl

/-! ### One inspection -/

/-- The session after an inspection warned, if it did. -/
def warnedIf (warned : Bool) (s : Session) : Session :=
  if warned then { s with scene := s.scene.note (.warned notInspected) } else s

/-- The answer to a step that asks for a record. -/
def answerOf (answer : Fetched α → Answer) : Except Error (Fetched α) → Answer
  | .ok f => answer f
  | .error e => .failed e

theorem perform_saying (cache : InspectCache (Fetched α)) (query : Act (Fetched α)) (s : Session) :
    (saying cache query).perform s = query.perform (s.warnedIf cache.needsWarning) := by
  rw [saying, warnedIf]
  cases cache.needsWarning <;> rfl

theorem ofAct_inspectWith {isNamed : α → Bool} {useCache : Bool} {cache : InspectCache (Fetched α)}
    {query : Act (Fetched α)} {putBack : InspectCache (Fetched α) → Session → Session}
    {answer : Fetched α → Answer} (s : Session) :
    ofAct (inspectWith isNamed useCache cache query putBack) answer s =
      let done := inspection isNamed useCache cache query s
      (answerOf answer done.result, putBack done.cache done.after) := by
  have hperform : (inspectWith isNamed useCache cache query putBack).perform s =
      ((inspection isNamed useCache cache query s).result,
        putBack (inspection isNamed useCache cache query s).cache
          (inspection isNamed useCache cache query s).after) := rfl
  dsimp only
  rw [ofAct, hperform]
  cases (inspection isNamed useCache cache query s).result <;> rfl

@[simp] theorem fetches_warnedIf (warned : Bool) (s : Session) :
    (s.warnedIf warned).fetches = s.fetches := by
  cases warned <;> rfl

@[simp] theorem events_warnedIf (warned : Bool) (s : Session) :
    (s.warnedIf warned).scene.events =
      s.scene.events ++ if warned then [.warned notInspected] else [] := by
  cases warned <;> simp [warnedIf, Scene.note]

theorem grows_saying (cache : InspectCache (Fetched α)) {query : Act (Fetched α)}
    (h : query.Grows) : (saying cache query).Grows := by
  intro s
  have hwarned : Grows s (s.warnedIf cache.needsWarning) := by
    rw [warnedIf]
    split
    · exact .of_eq rfl rfl
    · exact .refl s
  rw [perform_saying]
  exact hwarned.trans (h _)

theorem grows_fetchWeakly (sr : Surroundings) (c : Nat) (what : Call α) :
    (fetchWeakly sr c what).Grows :=
  .bind (.bind grows_upgrade fun _ => grows_call what) fun record => .number record

/-- What an inspection asks for leaves resources alone. -/
theorem grows_inspection {isNamed : α → Bool} {useCache : Bool} {cache : InspectCache (Fetched α)}
    {query : Act (Fetched α)} (h : query.Grows) (s : Session) :
    Grows s (inspection isNamed useCache cache query s).after := by
  have hquery := grows_saying cache h s
  rw [inspection, InspectCache.inspect]
  split
  · exact .refl s
  · split <;> rename_i heq <;> rw [heq] at hquery <;> exact hquery

/-- A step over a client names one, or no client is found. -/
theorem via_eq (client : Via) (f : Option Nat → Effect) (s : Session) :
    (∃ c, via client f s = f c s) ∨ via client f s = (.noSuchHandle, s) := by
  cases client with
  | none => exact .inl ⟨none, rfl⟩
  | some name =>
      rw [via, named]
      cases s.clientNames.get? name with
      | none => exact .inr rfl
      | some c => exact .inl ⟨some c, rfl⟩

/-- The answer of an operation is that of its success, or its error. -/
theorem ofAct_eq {β : Type} (act : Act β) (answer : β → Answer) (s : Session) :
    (∃ b t, act.perform s = (.ok b, t) ∧ ofAct act answer s = (answer b, t)) ∨
      ∃ e t, ofAct act answer s = (.failed e, t) := by
  rw [ofAct]
  rcases act.perform s with ⟨e | b, t⟩
  · exact .inr ⟨e, t, rfl⟩
  · exact .inl ⟨b, t, rfl, rfl⟩

theorem perform_network (n : Nat) (s : Session) : (network n).perform s =
    (match s.networks[n]? with | some held => .ok held | none => .error .closed, s) := by
  rw [network, Act.perform_bind, Act.perform_get]
  cases h : s.networks[n]? <;> simp [h]

theorem perform_volume (v : Nat) (s : Session) : (volume v).perform s =
    (match s.volumes[v]? with | some held => .ok held | none => .error .closed, s) := by
  rw [volume, Act.perform_bind, Act.perform_get]
  cases h : s.volumes[v]? <;> simp [h]

/-- What a step does that inspects a network. -/
theorem effect_inspectNetwork (sr : Surroundings) (name : String) (useCache verbose : Bool)
    (scope : Option String) (s : Session) :
    effect sr (.networks (.inspect name useCache verbose scope)) s =
      match s.networkNames.get? name with
      | none => (.noSuchHandle, s)
      | some n =>
          match s.networks[n]? with
          | none => (.failed .closed, s)
          | some held =>
              let done := inspection NetworkRecord.isNamed useCache held.cache
                (fetchWeakly sr held.client (Call.inspectNetwork held.receipt.id verbose scope)) s
              (answerOf .inspectedNetwork done.result,
                keepNetwork n done.cache done.after) := by
  rw [effect, onNetworks, named]
  cases s.networkNames.get? name with
  | none => rfl
  | some n =>
      dsimp only
      rw [ofAct, inspectNetwork, Act.perform_bind, perform_network]
      cases s.networks[n]? with
      | none => rfl
      | some held => exact ofAct_inspectWith ..

/-- What a step does that inspects a volume. -/
theorem effect_inspectVolume (sr : Surroundings) (name : String) (useCache : Bool) (s : Session) :
    effect sr (.volumes (.inspect name useCache)) s =
      match s.volumeNames.get? name with
      | none => (.noSuchHandle, s)
      | some v =>
          match s.volumes[v]? with
          | none => (.failed .closed, s)
          | some held =>
              let done := inspection VolumeRecord.isNamed useCache held.cache
                (fetchWeakly sr held.client (Call.inspectVolume held.receipt.name)) s
              (answerOf .inspectedVolume done.result,
                keepVolume v done.cache done.after) := by
  rw [effect, onVolumes, named]
  cases s.volumeNames.get? name with
  | none => rfl
  | some v =>
      dsimp only
      rw [ofAct, inspectVolume, Act.perform_bind, perform_volume]
      cases s.volumes[v]? with
      | none => rfl
      | some held => exact ofAct_inspectWith ..

/-- A resource that is held is held in a session that grows. -/
theorem Grows.network {s t : Session} (h : Grows s t) {n : Nat} {held : NetworkCell}
    (hheld : s.networks[n]? = some held) : t.networks[n]? = some held := by
  obtain ⟨more, hmore⟩ := h.networks
  rw [← hmore, List.getElem?_append_left (List.getElem?_eq_some_iff.mp hheld).1, hheld]

theorem Grows.volume {s t : Session} (h : Grows s t) {v : Nat} {held : VolumeCell}
    (hheld : s.volumes[v]? = some held) : t.volumes[v]? = some held := by
  obtain ⟨more, hmore⟩ := h.volumes
  rw [← hmore, List.getElem?_append_left (List.getElem?_eq_some_iff.mp hheld).1, hheld]

end Session

/-! ### Resources that are inspected -/

/-- A resource: whether a record is about it, its client and cache, and the steps that inspect it. -/
structure Inspectable (α : Type) where
  /-- Whether a record says what it is about. -/
  isNamed : α → Bool
  /-- The client and the cache that are held with the resource. -/
  held? : Session → Option (Nat × InspectCache (Fetched α))
  /-- The session with another cache. -/
  keep : InspectCache (Fetched α) → Session → Session
  /-- What a step asks that inspects the resource, and whether a kept record will do. -/
  asks? : Session → Session.Step → Option (Bool × Call α)
  answer : Fetched α → Session.Answer
  answered? : Session.Answer → Option (Fetched α)

namespace Inspectable

/-- A network of the session. -/
def network (n : Nat) : Inspectable NetworkRecord where
  isNamed := NetworkRecord.isNamed
  held? s := s.networks[n]?.map fun held => (held.client, held.cache)
  keep := Session.keepNetwork n
  asks? s
    | .networks (.inspect name useCache verbose scope) =>
        if s.networkNames.get? name = some n then
          s.networks[n]?.map fun held =>
            (useCache, Call.inspectNetwork held.receipt.id verbose scope)
        else none
    | _ => none
  answer := .inspectedNetwork
  answered?
    | .inspectedNetwork f => some f
    | _ => none

/-- A volume of the session. -/
def volume (v : Nat) : Inspectable VolumeRecord where
  isNamed := VolumeRecord.isNamed
  held? s := s.volumes[v]?.map fun held => (held.client, held.cache)
  keep := Session.keepVolume v
  asks? s
    | .volumes (.inspect name useCache) =>
        if s.volumeNames.get? name = some v then
          s.volumes[v]?.map fun held => (useCache, Call.inspectVolume held.receipt.name)
        else none
    | _ => none
  answer := .inspectedVolume
  answered?
    | .inspectedVolume f => some f
    | _ => none

variable {α : Type} {r : Inspectable α} {sr : Surroundings}

/-- What is put back as it was changes nothing. -/
theorem modify_of_getElem? {β : Type} {l : List β} {i : Nat} {b : β} (h : l[i]? = some b)
    {f : β → β} (hf : f b = b) : l.modify i f = l := by
  refine List.ext_getElem? fun j => ?_
  by_cases hj : i = j
  · subst hj
    simp [h, hf]
  · simp [hj]

/-- **The steps that inspect a resource are inspections, and no other step changes what is held of
it.** -/
structure Lawful (r : Inspectable α) : Prop where
  read : ∀ f, r.answered? (r.answer f) = some f
  unread : ∀ e, r.answered? (.failed e) = none
  asks_cleared : ∀ s, r.asks? s.cleared = r.asks? s
  grown : ∀ s t held, Session.Grows s t → r.held? s = some held → r.held? t = some held
  kept : ∀ s cache client other, r.held? s = some (client, other) →
    r.held? (r.keep cache s) = some (client, cache)
  kept_scene : ∀ s cache, (r.keep cache s).scene = s.scene
  kept_fetches : ∀ s cache, (r.keep cache s).fetches = s.fetches
  kept_same : ∀ s cache client, r.held? s = some (client, cache) → r.keep cache s = s
  inspects : ∀ sr s step useCache what client cache, r.asks? s step = some (useCache, what) →
    r.held? s = some (client, cache) →
    let done := Session.inspection r.isNamed useCache cache (Session.fetchWeakly sr client what) s
    Session.effect sr step s = (Session.answerOf r.answer done.result, r.keep done.cache done.after)
  others : ∀ sr s step held, r.asks? s step = none → r.held? s = some held →
    r.held? (Session.effect sr step s).2 = some held

/-- A step inspects a network, inspects a volume, or leaves what is held of resources alone. -/
theorem inspects_or_steady (sr : Surroundings) (step : Session.Step) :
    (∃ name useCache verbose scope, step = .networks (.inspect name useCache verbose scope)) ∨
      (∃ name useCache, step = .volumes (.inspect name useCache)) ∨
      Session.Steady (Session.effect sr step) := by
  by_cases hn : ∃ name useCache verbose scope,
      step = .networks (.inspect name useCache verbose scope)
  · exact .inl hn
  by_cases hv : ∃ name useCache, step = .volumes (.inspect name useCache)
  · exact .inr (.inl hv)
  refine .inr (.inr (Session.steady_effect ?_ ?_))
  · exact fun name useCache verbose scope h => hn ⟨name, useCache, verbose, scope, h⟩
  · exact fun name useCache h => hv ⟨name, useCache, h⟩

/-- **Networks are inspected so.** -/
theorem lawful_network (n : Nat) : (network n).Lawful where
  read _ := rfl
  unread _ := rfl
  asks_cleared _ := rfl
  grown s t held hgrows hheld := by
    obtain ⟨cell, hcell, rfl⟩ := Option.map_eq_some_iff.mp hheld
    exact Option.map_eq_some_iff.mpr ⟨cell, hgrows.network hcell, rfl⟩
  kept_scene _ _ := rfl
  kept_fetches _ _ := rfl
  kept s cache client other h := by
    obtain ⟨held, hcell, heq⟩ := Option.map_eq_some_iff.mp h
    cases heq
    simp [network, Session.keepNetwork, hcell]
  kept_same s cache client h := by
    obtain ⟨held, hcell, heq⟩ := Option.map_eq_some_iff.mp h
    cases heq
    have hsame : s.networks.modify n (fun other => { other with cache := held.cache }) =
        s.networks := modify_of_getElem? hcell rfl
    simp only [network, Session.keepNetwork, hsame]
  inspects sr s step useCache what client cache hasks hheld := by
    obtain ⟨held, hcell, heq⟩ := Option.map_eq_some_iff.mp hheld
    cases heq
    simp only [network] at hasks
    split at hasks
    · rename_i name useCache verbose scope
      split at hasks
      · rename_i hname
        rw [hcell] at hasks
        cases hasks
        simp only [Session.effect_inspectNetwork, hname, hcell, network]
      · cases hasks
    · cases hasks
  others sr s step held hasks hheld := by
    obtain ⟨held, hcell, rfl⟩ := Option.map_eq_some_iff.mp hheld
    suffices (Session.effect sr step s).2.networks[n]? = some held by simp [network, this]
    rcases inspects_or_steady sr step with ⟨name, useCache, verbose, scope, rfl⟩ |
      ⟨name, useCache, rfl⟩ | hsteady
    · -- another network is inspected
      rw [Session.effect_inspectNetwork]
      split
      · exact hcell
      · rename_i m hname
        have hne : m ≠ n := by
          rintro rfl
          simp [network, hname, hcell] at hasks
        split
        · exact hcell
        · simp only [Session.keepNetwork, List.getElem?_modify, hne, if_false, id_map']
          exact (Session.grows_inspection (Session.grows_fetchWeakly _ _ _) s).network hcell
    · rw [Session.effect_inspectVolume]
      split
      · exact hcell
      · split
        · exact hcell
        · exact (Session.grows_inspection (Session.grows_fetchWeakly _ _ _) s).network hcell
    · exact (hsteady s).network hcell

/-- **Volumes are inspected so.** -/
theorem lawful_volume (v : Nat) : (volume v).Lawful where
  read _ := rfl
  unread _ := rfl
  asks_cleared _ := rfl
  grown s t held hgrows hheld := by
    obtain ⟨cell, hcell, rfl⟩ := Option.map_eq_some_iff.mp hheld
    exact Option.map_eq_some_iff.mpr ⟨cell, hgrows.volume hcell, rfl⟩
  kept_scene _ _ := rfl
  kept_fetches _ _ := rfl
  kept s cache client other h := by
    obtain ⟨held, hcell, heq⟩ := Option.map_eq_some_iff.mp h
    cases heq
    simp [volume, Session.keepVolume, hcell]
  kept_same s cache client h := by
    obtain ⟨held, hcell, heq⟩ := Option.map_eq_some_iff.mp h
    cases heq
    have hsame : s.volumes.modify v (fun other => { other with cache := held.cache }) =
        s.volumes := modify_of_getElem? hcell rfl
    simp only [volume, Session.keepVolume, hsame]
  inspects sr s step useCache what client cache hasks hheld := by
    obtain ⟨held, hcell, heq⟩ := Option.map_eq_some_iff.mp hheld
    cases heq
    simp only [volume] at hasks
    split at hasks
    · rename_i name useCache
      split at hasks
      · rename_i hname
        rw [hcell] at hasks
        cases hasks
        simp only [Session.effect_inspectVolume, hname, hcell, volume]
      · cases hasks
    · cases hasks
  others sr s step held hasks hheld := by
    obtain ⟨held, hcell, rfl⟩ := Option.map_eq_some_iff.mp hheld
    suffices (Session.effect sr step s).2.volumes[v]? = some held by simp [volume, this]
    rcases inspects_or_steady sr step with ⟨name, useCache, verbose, scope, rfl⟩ |
      ⟨name, useCache, rfl⟩ | hsteady
    · rw [Session.effect_inspectNetwork]
      split
      · exact hcell
      · split
        · exact hcell
        · exact (Session.grows_inspection (Session.grows_fetchWeakly _ _ _) s).volume hcell
    · -- another volume is inspected
      rw [Session.effect_inspectVolume]
      split
      · exact hcell
      · rename_i w hname
        have hne : w ≠ v := by
          rintro rfl
          simp [volume, hname, hcell] at hasks
        split
        · exact hcell
        · simp only [Session.keepVolume, List.getElem?_modify, hne, if_false, id_map']
          exact (Session.grows_inspection (Session.grows_fetchWeakly _ _ _) s).volume hcell
    · exact (hsteady s).volume hcell

/-! ### Runs -/

/-- An inspection in a run: the session before it, what it asks and whether a kept record will do, and
what it leads to. -/
structure Visit (α : Type) where
  before : Session
  useCache : Bool
  what : Call α
  report : Session.Report
  after : Session

/-- The inspection that a step is. -/
def visitOf (sr : Surroundings) (s : Session) (step : Session.Step) (useCache : Bool)
    (what : Call α) : Visit α :=
  ⟨s, useCache, what, (Session.run sr step s).1, (Session.run sr step s).2⟩

/-- **The inspections of a resource in a run.** -/
def visits (r : Inspectable α) (sr : Surroundings) : List Session.Step → Session → List (Visit α)
  | [], _ => []
  | step :: rest, s =>
      let after := (Session.run sr step s).2
      match r.asks? s step with
      | some (useCache, what) => visitOf sr s step useCache what :: visits r sr rest after
      | none => visits r sr rest after

/-- The record that an inspection fetched, if it fetched one; a session counts what it fetches. -/
def fetched? (r : Inspectable α) (v : Visit α) : Option (Fetched α) :=
  if v.after.fetches = v.before.fetches then none else r.answered? v.report.answer

/-- **The record that was fetched last.** -/
def last? (r : Inspectable α) (seen : List (Visit α)) : Option (Fetched α) :=
  (seen.filterMap r.fetched?).getLast?

/-- After others an inspection can be answered with a record: it will do with a kept one, the record
was fetched last, and says what it is about. -/
def Reuses (r : Inspectable α) (seen : List (Visit α)) (v : Visit α) (record : Fetched α) : Prop :=
  v.useCache = true ∧ r.last? seen = some record ∧ r.isNamed record.record = true

/-- One query decides an inspection, after the first inspection said that it is the first. -/
structure Queries (r : Inspectable α) (sr : Surroundings) (client : Nat) (seen : List (Visit α))
    (v : Visit α) (result : Except Error (Fetched α)) : Prop where
  query : ∃ cache after, Session.Query sr client v.what
    (v.before.cleared.warnedIf seen.isEmpty) result after ∧ v.after = r.keep cache after
  answer : v.report.answer = Session.answerOf r.answer result
  /-- The daemon gets one request at most. -/
  events : ∃ requests : List SentRequest, requests.length ≤ 1 ∧ v.report.events =
    (if seen.isEmpty then [.warned Session.notInspected] else []) ++ requests.map .sent
  /-- What was fetched is the last record now; if nothing was, the last one stays. -/
  last : r.last? (seen ++ [v]) = result.toOption.or (r.last? seen)

/-- **What an inspection does after others.** -/
structure Follows (r : Inspectable α) (sr : Surroundings) (client : Nat) (seen : List (Visit α))
    (v : Visit α) : Prop where
  /-- A record is handed out and nothing happens, to neither client nor daemon nor session, if and
  only if it is the very record that was fetched last, and can be reused. -/
  reused : ∀ record, (v.report.answer = r.answer record ∧ v.report.events = [] ∧
    v.after = v.before.cleared) ↔ r.Reuses seen v record
  queried : (∀ record, ¬r.Reuses seen v record) → ∃ result, r.Queries sr client seen v result
  /-- What is kept is the record that was fetched last. -/
  kept : ∃ cache, r.held? v.after = some (client, cache) ∧ cache.record = r.last? (seen ++ [v])
  /-- The first inspection says that nothing was inspected yet, and no other does. -/
  warned : .warned Session.notInspected ∈ v.report.events ↔ seen = []

/-- What the cache knows of the inspections so far: the record that was fetched last, and whether
there were any. -/
structure Remembers (r : Inspectable α) (cache : InspectCache (Fetched α)) (seen : List (Visit α)) :
    Prop where
  record : cache.record = r.last? seen
  warns : cache.needsWarning = seen.isEmpty

theorem last?_append (r : Inspectable α) (seen : List (Visit α)) (v : Visit α) :
    r.last? (seen ++ [v]) = (r.fetched? v).or (r.last? seen) := by
  unfold last?
  rw [List.filterMap_append, List.getLast?_append]
  cases h : r.fetched? v <;> simp [h]

variable {client : Nat} {cache : InspectCache (Fetched α)} {seen : List (Visit α)} {s : Session}
  {step : Session.Step} {useCache : Bool} {what : Call α}

/-- What a step leads to that inspects. -/
theorem run_of_asks (sr : Surroundings) (hr : r.Lawful)
    (hasks : r.asks? s step = some (useCache, what))
    (hheld : r.held? s = some (client, cache)) :
    let done := Session.inspection r.isNamed useCache cache (Session.fetchWeakly sr client what)
      s.cleared
    (Session.run sr step s).1.answer = Session.answerOf r.answer done.result ∧
      (Session.run sr step s).2 = r.keep done.cache done.after := by
  have heffect := hr.inspects sr s.cleared step useCache what client cache
    ((congrFun (hr.asks_cleared s) step).trans hasks)
    (hr.grown _ _ _ s.grows_cleared hheld)
  have hrun : Session.run sr step s =
      (⟨(Session.effect sr step s.cleared).1, (Session.effect sr step s.cleared).2.scene.events,
        (Session.effect sr step s.cleared).2.scene.time - s.scene.time⟩,
        (Session.effect sr step s.cleared).2) := rfl
  rw [hrun, heffect]
  exact ⟨rfl, rfl⟩

/-- A kept record that will do is handed out, and all stays as it is. -/
theorem run_of_hit (hr : r.Lawful) (hasks : r.asks? s step = some (useCache, what))
    (hheld : r.held? s = some (client, cache)) {record : Fetched α}
    (hhit : cache.hit? (fun f => r.isNamed f.record) useCache = some record) :
    (Session.run sr step s).1.answer = r.answer record ∧ (Session.run sr step s).2 = s.cleared := by
  obtain ⟨hanswer, hafter⟩ := run_of_asks sr hr hasks hheld
  have hdone : Session.inspection r.isNamed useCache cache (Session.fetchWeakly sr client what)
      s.cleared = ⟨.ok record, cache, s.cleared⟩ := by
    rw [Session.inspection, InspectCache.inspect, hhit]
  rw [hdone] at hanswer hafter
  have hcleared : r.held? s.cleared = some (client, cache) := hr.grown _ _ _ s.grows_cleared hheld
  exact ⟨hanswer, hafter.trans (hr.kept_same _ _ _ hcleared)⟩

/-- What the cache keeps after a query. -/
def keptAfter (cache : InspectCache (Fetched α)) :
    Except Error (Fetched α) → InspectCache (Fetched α)
  | .ok record => cache.warn.keep record
  | .error _ => cache.warn

theorem needsWarning_keptAfter (cache : InspectCache (Fetched α))
    (result : Except Error (Fetched α)) : (keptAfter cache result).needsWarning = false := by
  cases result with
  | ok record => rfl
  | error e =>
      cases h : cache.record <;> simp [keptAfter, InspectCache.warn, InspectCache.needsWarning, h]

theorem record_keptAfter (cache : InspectCache (Fetched α)) (result : Except Error (Fetched α)) :
    (keptAfter cache result).record = result.toOption.or cache.record := by
  cases result <;> simp [keptAfter, Except.toOption]

/-- Without such a record there is a query, and a success is kept. -/
theorem run_of_miss (sr : Surroundings) (hr : r.Lawful)
    (hasks : r.asks? s step = some (useCache, what))
    (hheld : r.held? s = some (client, cache))
    (hmiss : cache.hit? (fun f => r.isNamed f.record) useCache = none) :
    ∃ result after,
      Session.Query sr client what (s.cleared.warnedIf cache.needsWarning) result after ∧
        s.cleared.Grows after ∧
        (Session.run sr step s).1.answer = Session.answerOf r.answer result ∧
        (Session.run sr step s).2 = r.keep (keptAfter cache result) after := by
  have hquery :=
    Session.query_fetchWeakly sr client what (s.cleared.warnedIf cache.needsWarning)
  have hgrows :=
    Session.grows_saying cache (Session.grows_fetchWeakly sr client what) s.cleared
  rw [Session.perform_saying] at hgrows
  have hdone : Session.inspection r.isNamed useCache cache (Session.fetchWeakly sr client what)
      s.cleared =
        let queried := (Session.fetchWeakly sr client what).perform
          (s.cleared.warnedIf cache.needsWarning)
        ⟨queried.1, keptAfter cache queried.1, queried.2⟩ := by
    rw [Session.inspection, InspectCache.inspect, hmiss, Session.perform_saying]
    rcases (Session.fetchWeakly sr client what).perform (s.cleared.warnedIf cache.needsWarning) with
      ⟨_ | record, after⟩ <;> rfl
  obtain ⟨hanswer, hafter⟩ := run_of_asks sr hr hasks hheld
  rw [hdone] at hanswer hafter
  exact ⟨_, _, hquery, hgrows, hanswer, hafter⟩

/-- A record can be reused if the cache hands it out. -/
theorem reuses_iff (hremembers : r.Remembers cache seen) {v : Visit α} {record : Fetched α} :
    r.Reuses seen v record ↔ cache.hit? (fun f => r.isNamed f.record) v.useCache = some record := by
  rw [InspectCache.hit?_eq_some_iff, hremembers.record]
  exact Iff.rfl

theorem answer_injective (hr : r.Lawful) {f g : Fetched α} (h : r.answer f = r.answer g) : f = g := by
  have hread := congrArg r.answered? h
  rw [hr.read, hr.read] at hread
  exact Option.some.inj hread

/-- What an inspection fetched is what its query fetched. -/
theorem fetched?_of_query (hr : r.Lawful) {v : Visit α} {warned : Bool} {after : Session}
    {result : Except Error (Fetched α)}
    (hquery : Session.Query sr client v.what (v.before.cleared.warnedIf warned) result after)
    (hanswer : v.report.answer = Session.answerOf r.answer result)
    (hafter : v.after = r.keep cache after) : r.fetched? v = result.toOption := by
  have hcounted := hquery.fetches
  rw [Session.fetches_warnedIf] at hcounted
  have hnow : v.after.fetches = after.fetches := by rw [hafter, hr.kept_fetches]
  cases result with
  | error e => exact if_pos (hnow.trans hcounted)
  | ok record =>
      have hmore : v.after.fetches ≠ v.before.fetches := by
        rw [hnow, hcounted]
        exact Nat.succ_ne_self _
      exact (if_neg hmore).trans ((congrArg r.answered? hanswer).trans (hr.read record))

/-- What is handed out of a kept record is not fetched. -/
theorem fetched?_eq_none {v : Visit α} (h : v.after = v.before.cleared) : r.fetched? v = none := by
  have hcount : v.after.fetches = v.before.fetches := congrArg (fun t => t.fetches) h
  exact if_pos hcount

/-- **A record that can be reused is handed out.** -/
theorem follows_of_hit (hr : r.Lawful) (hasks : r.asks? s step = some (useCache, what))
    (hheld : r.held? s = some (client, cache)) (hremembers : r.Remembers cache seen)
    {record : Fetched α} (hhit : cache.hit? (fun f => r.isNamed f.record) useCache = some record) :
    let v := visitOf sr s step useCache what
    r.Follows sr client seen v ∧ r.held? v.after = some (client, cache) ∧
      r.Remembers cache (seen ++ [v]) := by
  intro v
  obtain ⟨hanswer, hafter⟩ : v.report.answer = r.answer record ∧ v.after = s.cleared :=
    run_of_hit hr hasks hheld hhit
  have hreuses : r.Reuses seen v record := (reuses_iff hremembers).mpr hhit
  have hevents : v.report.events = [] := congrArg (fun t => t.scene.events) hafter
  have hseen : seen ≠ [] := by
    rintro rfl
    cases hreuses.2.1
  have hheld' : r.held? v.after = some (client, cache) := by
    rw [hafter]
    exact hr.grown _ _ _ s.grows_cleared hheld
  have hrecord : cache.record = r.last? (seen ++ [v]) := by
    rw [last?_append, fetched?_eq_none hafter, Option.none_or, hremembers.record]
  have hwarns : cache.needsWarning = (seen ++ [v]).isEmpty := by
    rw [hremembers.warns, List.isEmpty_eq_false_iff.mpr hseen]
    simp
  refine ⟨⟨fun other => ⟨?_, fun hother => ?_⟩, fun hnot => absurd hreuses (hnot record),
    ⟨cache, hheld', hrecord⟩, ?_⟩, hheld', hrecord, hwarns⟩
  · rintro ⟨hother, -, -⟩
    rwa [answer_injective hr (hother.symm.trans hanswer)]
  · rw [Option.some.inj (hother.2.1.symm.trans hreuses.2.1)]
    exact ⟨hanswer, hevents, hafter⟩
  · simp [hevents, hseen]

/-- **Otherwise one query decides**, and a success is kept. -/
theorem follows_of_miss (hr : r.Lawful) (hasks : r.asks? s step = some (useCache, what))
    (hheld : r.held? s = some (client, cache)) (hremembers : r.Remembers cache seen)
    (hmiss : cache.hit? (fun f => r.isNamed f.record) useCache = none) :
    let v := visitOf sr s step useCache what
    ∃ cache', r.Follows sr client seen v ∧ r.held? v.after = some (client, cache') ∧
      r.Remembers cache' (seen ++ [v]) := by
  intro v
  obtain ⟨result, after, hquery, hgrows, hanswer, hafter⟩ :=
    run_of_miss sr hr hasks hheld hmiss
  rw [hremembers.warns] at hquery
  have hanswer : v.report.answer = Session.answerOf r.answer result := hanswer
  have hafter : v.after = r.keep (keptAfter cache result) after := hafter
  have hfetched : r.fetched? v = result.toOption := fetched?_of_query hr hquery hanswer hafter
  have hlast : r.last? (seen ++ [v]) = result.toOption.or (r.last? seen) := by
    rw [last?_append, hfetched]
  have hheld' : r.held? v.after = some (client, keptAfter cache result) := by
    rw [hafter]
    exact hr.kept _ _ _ _ (hr.grown _ _ _ hgrows (hr.grown _ _ _ s.grows_cleared hheld))
  have hrecord : (keptAfter cache result).record = r.last? (seen ++ [v]) := by
    rw [record_keptAfter, hremembers.record, hlast]
  have hwarns : (keptAfter cache result).needsWarning = (seen ++ [v]).isEmpty := by
    rw [needsWarning_keptAfter]
    simp
  have hnone (record : Fetched α) : ¬r.Reuses seen v record := by
    rw [reuses_iff hremembers]
    change cache.hit? _ useCache ≠ some record
    simp [hmiss]
  obtain ⟨requests, hlength, hsent⟩ := hquery.events
  have hevents : v.report.events =
      (if seen.isEmpty then [.warned Session.notInspected] else []) ++ requests.map .sent := by
    have hreport : v.report.events = v.after.scene.events := rfl
    rw [hreport, hafter, hr.kept_scene, hsent, Session.events_warnedIf]
    rfl
  refine ⟨keptAfter cache result, ⟨fun record => ⟨?_, fun h => absurd h (hnone record)⟩,
    fun _ => ⟨result, ⟨_, after, hquery, hafter⟩, hanswer, ⟨requests, hlength, hevents⟩, hlast⟩,
    ⟨_, hheld', hrecord⟩, ?_⟩, hheld', hrecord, hwarns⟩
  · -- a new record is counted, and an error is no record
    rintro ⟨hother, -, hsame⟩
    rw [fetched?_eq_none hsame] at hfetched
    cases result with
    | ok => cases hfetched
    | error e =>
        have hread := congrArg r.answered? (hother.symm.trans hanswer)
        rw [hr.read record, Session.answerOf, hr.unread e] at hread
        cases hread
  · rw [hevents]
    cases seen <;> simp

/-- **One inspection.** -/
theorem follows_visit (sr : Surroundings) (hr : r.Lawful)
    (hasks : r.asks? s step = some (useCache, what))
    (hheld : r.held? s = some (client, cache)) (hremembers : r.Remembers cache seen) :
    let v := visitOf sr s step useCache what
    ∃ cache', r.Follows sr client seen v ∧ r.held? v.after = some (client, cache') ∧
      r.Remembers cache' (seen ++ [v]) := by
  cases hhit : cache.hit? (fun f => r.isNamed f.record) useCache with
  | some record => exact ⟨cache, follows_of_hit hr hasks hheld hremembers hhit⟩
  | none => exact follows_of_miss hr hasks hheld hremembers hhit

/-- A step that is no inspection leaves what is held. -/
theorem held?_run (hr : r.Lawful) (hasks : r.asks? s step = none)
    (hheld : r.held? s = some (client, cache)) :
    r.held? (Session.run sr step s).2 = some (client, cache) := by
  have hnone : r.asks? s.cleared step = none := (congrFun (hr.asks_cleared s) step).trans hasks
  exact hr.others sr s.cleared step _ hnone (hr.grown _ _ _ s.grows_cleared hheld)

/-- **A whole run**, whatever was inspected before it. -/
theorem follows_of_visits (hr : r.Lawful) (steps : List Session.Step)
    (hheld : r.held? s = some (client, cache)) (hremembers : r.Remembers cache seen)
    {earlier later : List (Visit α)} {v : Visit α}
    (hvisits : r.visits sr steps s = earlier ++ v :: later) :
    r.Follows sr client (seen ++ earlier) v := by
  -- the cache may be another one after each step, but it remembers what was seen so far
  induction steps generalizing s cache seen earlier with
  | nil => simp [visits] at hvisits
  | cons step rest ih =>
      rw [visits] at hvisits
      cases hasks : r.asks? s step with
      | none =>
          rw [hasks] at hvisits
          exact ih (held?_run hr hasks hheld) hremembers hvisits
      | some asked =>
          obtain ⟨useCache, what⟩ := asked
          rw [hasks] at hvisits
          obtain ⟨cache', hfollows, hheld', hremembers'⟩ :=
            follows_visit sr hr hasks hheld hremembers
          cases earlier with
          | nil =>
              obtain ⟨rfl, -⟩ := List.cons.inj hvisits
              simpa using hfollows
          | cons first earlier =>
              obtain ⟨rfl, hrest⟩ := List.cons.inj hvisits
              simpa using ih hheld' hremembers' hrest

/-! ### Resources that are made -/

/-- A new network has an empty cache. -/
theorem fresh_createNetwork {client : Option Nat} {draft : NetworkDraft} {s t : Session} {n : Nat}
    (h : (Session.createNetwork sr client draft).perform s = (.ok n, t)) :
    ∃ cell, t.networks[n]? = some cell ∧ cell.cache = {} := by
  unfold Session.createNetwork at h
  dsimp only at h
  split at h
  · cases h
  · obtain ⟨_, _, -, h⟩ := Act.ok_of_bind h
    obtain ⟨_, _, -, h⟩ := Act.ok_of_bind h
    obtain ⟨_, _, -, h⟩ := Act.ok_of_bind h
    cases h
    exact ⟨_, List.getElem?_concat_length, rfl⟩

/-- A new volume has an empty cache. -/
theorem fresh_createVolume {client : Option Nat} {draft : VolumeDraft} {s t : Session} {v : Nat}
    (h : (Session.createVolume sr client draft).perform s = (.ok v, t)) :
    ∃ cell, t.volumes[v]? = some cell ∧ cell.cache = {} := by
  obtain ⟨_, _, -, h⟩ := Act.ok_of_bind h
  obtain ⟨_, _, -, h⟩ := Act.ok_of_bind h
  cases h
  exact ⟨_, List.getElem?_concat_length, rfl⟩

/-- In every run from the session on, every inspection follows the earlier ones. -/
def Recalls (r : Inspectable α) (sr : Surroundings) (s : Session) (client : Nat) : Prop :=
  ∀ steps earlier v later, r.visits sr steps s = earlier ++ v :: later →
    r.Follows sr client earlier v

theorem recalls_of_fresh (hr : r.Lawful) (h : r.held? s = some (client, {})) :
    r.Recalls sr s client := by
  intro steps earlier v later hvisits
  have hempty : r.Remembers {} [] := ⟨rfl, rfl⟩
  simpa using follows_of_visits hr steps h hempty hvisits

/-- A step that makes a network names a new one. -/
theorem held?_of_createdNetwork {via : Session.Via} {as : String} {draft : NetworkDraft}
    {cell : NetworkCell} {t : Session}
    (h : Session.effect sr (.networks (.create via as draft)) s = (.createdNetwork cell, t)) :
    ∃ n, t.networkNames.get? as = some n ∧ (network n).held? t = some (cell.client, {}) := by
  rw [Session.effect, Session.onNetworks] at h
  obtain ⟨c, hvia⟩ | hvia := Session.via_eq via _ s <;> rw [hvia] at h
  · obtain ⟨held, u, hperform, heq⟩ | ⟨e, u, heq⟩ := Session.ofAct_eq _ _ s <;> rw [heq] at h <;> cases h
    obtain ⟨n, made, hmade, hrest⟩ := Act.ok_of_bind hperform
    obtain ⟨found, hfound, hfresh⟩ := fresh_createNetwork hmade
    obtain ⟨_, named, hnamed, hread⟩ := Act.ok_of_bind hrest
    cases hnamed
    rw [Session.perform_network] at hread
    simp only [hfound] at hread
    cases hread
    refine ⟨n, Table.get?_insert_self .., ?_⟩
    simp [network, hfound, hfresh]
  · cases h

/-- A step that makes a volume names a new one. -/
theorem held?_of_createdVolume {via : Session.Via} {as : String} {draft : VolumeDraft}
    {cell : VolumeCell} {t : Session}
    (h : Session.effect sr (.volumes (.create via as draft)) s = (.createdVolume cell, t)) :
    ∃ v, t.volumeNames.get? as = some v ∧ (volume v).held? t = some (cell.client, {}) := by
  rw [Session.effect, Session.onVolumes] at h
  obtain ⟨c, hvia⟩ | hvia := Session.via_eq via _ s <;> rw [hvia] at h
  · obtain ⟨held, u, hperform, heq⟩ | ⟨e, u, heq⟩ := Session.ofAct_eq _ _ s <;> rw [heq] at h <;> cases h
    obtain ⟨v, made, hmade, hrest⟩ := Act.ok_of_bind hperform
    obtain ⟨found, hfound, hfresh⟩ := fresh_createVolume hmade
    obtain ⟨_, named, hnamed, hread⟩ := Act.ok_of_bind hrest
    cases hnamed
    rw [Session.perform_volume] at hread
    simp only [hfound] at hread
    cases hread
    refine ⟨v, Table.get?_insert_self .., ?_⟩
    simp [volume, hfound, hfresh]
  · cases h

/-- **Inspections follow the earlier ones**, in every run after a network or a volume was made. -/
theorem inspections_follow (sr : Surroundings) (s : Session) :
    (∀ via as draft cell,
      let done := Session.run sr (.networks (.create via as draft)) s
      done.1.answer = .createdNetwork cell →
        ∃ n, done.2.networkNames.get? as = some n ∧ (network n).Recalls sr done.2 cell.client) ∧
    (∀ via as draft cell,
      let done := Session.run sr (.volumes (.create via as draft)) s
      done.1.answer = .createdVolume cell →
        ∃ v, done.2.volumeNames.get? as = some v ∧ (volume v).Recalls sr done.2 cell.client) := by
  constructor
  · intro via as draft cell done hdone
    have heffect : Session.effect sr (.networks (.create via as draft)) s.cleared =
        (.createdNetwork cell, done.2) := Prod.ext hdone rfl
    obtain ⟨n, hname, hheld⟩ := held?_of_createdNetwork heffect
    exact ⟨n, hname, recalls_of_fresh (lawful_network n) hheld⟩
  · intro via as draft cell done hdone
    have heffect : Session.effect sr (.volumes (.create via as draft)) s.cleared =
        (.createdVolume cell, done.2) := Prod.ext hdone rfl
    obtain ⟨v, hname, hheld⟩ := held?_of_createdVolume heffect
    exact ⟨v, hname, recalls_of_fresh (lawful_volume v) hheld⟩

/-- A session with an open client, whose daemon makes a network and describes it once. -/
def describedOnce : Session where
  scene.replies :=
    [(201, "\x7b\"Id\":\"a\",\"Warning\":\"\"\x7d"), (200, "\x7b\"Id\":\"a\"\x7d")].map fun reply =>
      .respond ⟨reply.1, Text.encode reply.2⟩
  clients := [⟨⟨"h", false, none, nofun, nofun⟩, .default, [], ⟨none⟩, .opened (.given 0)⟩]
  clientNames := Table.ofList [("c", 0)]

/-- The first inspection says that it is the first and sends a request; the client is closed; and the
second inspection hands the record out. -/
theorem inspections_follow_closed_client :
    let sr : Surroundings :=
      ⟨{ env := .ofList [], home := none, files := .none }, fun _ => true⟩
    let done := Session.run sr (.networks (.create (some "c") "n" { name := "n" })) describedOnce
    let inspect : Session.Step := .networks (.inspect "n" true false none)
    done.1.answer = .createdNetwork ⟨NetworkDraft.labelled { name := "n" }, ⟨"a", ""⟩, 0, {}⟩ ∧
      (∃ n, done.2.networkNames.get? "n" = some n ∧ (network n).Recalls sr done.2 0) ∧
      ((network 0).visits sr [inspect, .clients (.close "c"), inspect] done.2).map
        (fun v => v.report.events.length) = [2, 0] := by
  intro sr done inspect
  have hanswer : done.1.answer =
      .createdNetwork ⟨NetworkDraft.labelled { name := "n" }, ⟨"a", ""⟩, 0, {}⟩ := rfl
  exact ⟨hanswer, (inspections_follow sr describedOnce).1 _ _ _ _ hanswer, rfl⟩

end Inspectable

end DockerClient
