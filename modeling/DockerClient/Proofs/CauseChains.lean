import DockerClient.Proofs.ErrorTrees

/-
**Following the causes of an error.**

An error names its direct cause, which names its own, and so on.  Each layer has the error inside it
as its cause, and a collection has none.  Below some errors lies a cause that is no error of the
library: a failure of input and output, of a JSON text or of the transport.  It may have causes in
turn, of which only this is known: there are finitely many, and none is an error of the library.

* `Error.Cause.error?` — the error of the library that a cause is;
* `Error.Follows` — **following the causes** of an error to their end;
* `Error.follows_sources`, `Error.follows_wrap_iff` — they have an end, and every layer is met;
* `Error.innermost`, `Error.innermost_of_follows` — the last error of the library that is met is
  what is inside all layers;
* `Error.isSome_daemonMessage_iff` — what the daemon said is known of its responses alone;
* `Error.classified_by_innermost_cause` — **an error is classified by the innermost error of the
  library** that following its causes meets.
-/

set_option relaxedAutoImplicit false
set_option autoImplicit false

namespace DockerClient

namespace Error

/-! ### Causes -/

/-- The error of the library that a cause is. -/
def Cause.error? : Cause → Option Error
  | .error e => some e
  | .io | .json => none

/-- **Following the causes** of an error to their end. -/
inductive Follows : Error → List Cause → Prop
  /-- There is no cause. -/
  | nothing {e : Error} (hsource : e.source = none) : Follows e []
  /-- The cause is below the library, and so is everything that it is caused by. -/
  | foreign {e : Error} {c : Cause} {below : List Cause} (hsource : e.source = some c)
      (hforeign : ∀ b ∈ c :: below, b.error? = none) : Follows e (c :: below)
  /-- The cause is an error of the library, whose causes follow. -/
  | error {e d : Error} {causes : List Cause} (hsource : e.source = some (.error d))
      (h : Follows d causes) : Follows e (.error d :: causes)

variable {e d : Error} {causes : List Cause}

@[simp] theorem source_around (layer : Layer) (e : Error) :
    (layer.around e).source = some (.error e) := by
  cases layer <;> rfl

/-- **An error of the library is the cause of layers around it**, and of nothing else. -/
theorem source_eq_error_iff : e.source = some (.error d) ↔ ∃ layer : Layer, e = layer.around d := by
  constructor
  · intro h
    cases e with
    | init cause =>
        cases h
        exact ⟨.init, rfl⟩
    | context text cause =>
        cases h
        exact ⟨.context text, rfl⟩
    | daemon fault => cases fault <;> cases h
    | _ => cases h
  · rintro ⟨layer, rfl⟩
    exact source_around layer d

/-- An error that is caused by no error of the library is not a layer. -/
theorem core_of_source (h : ∀ d, e.source ≠ some (.error d)) : e.core = e := by
  cases e with
  | init cause => exact absurd rfl (h cause)
  | context text cause => exact absurd rfl (h cause)
  | _ => rfl

/-! ### Every layer is met -/

/-- Below a layer the causes of the error inside it follow. -/
theorem follows_around_iff {layer : Layer} :
    Follows (layer.around e) causes ↔ ∃ below, Follows e below ∧ causes = .error e :: below := by
  constructor
  · intro h
    generalize hwhole : layer.around e = whole at h
    have hcause : whole.source = some (.error e) := hwhole ▸ source_around layer e
    cases h with
    | nothing hsource => cases hsource.symm.trans hcause
    | foreign hsource hforeign =>
        cases hsource.symm.trans hcause
        exact absurd (hforeign _ List.mem_cons_self) (Option.some_ne_none e)
    | error hsource h =>
        cases hsource.symm.trans hcause
        exact ⟨_, h, rfl⟩
  · rintro ⟨below, h, rfl⟩
    exact .error (source_around layer e) h

/-- **Following the causes comes to an end**, for one thing at the causes that are known. -/
theorem follows_sources (e : Error) : Follows e e.sources := by
  induction e using tree_induction with
  | leaf e h =>
      cases e with
      | helperUndecodable | spawn | io => exact .foreign rfl (by simp [Cause.error?])
      | daemon fault =>
          cases fault with
          | unreachable => exact .foreign rfl (by simp [Cause.error?])
          | _ => exact .nothing rfl
      | init | context | multiple => cases h
      | _ => exact .nothing rfl
  | layer l e ih =>
      refine follows_around_iff.mpr ⟨e.sources, ih, ?_⟩
      cases l <;> rfl
  | multiple errors _ => exact .nothing rfl

/-- The errors that are met inside a stack of layers: the error with ever fewer layers around it,
and at last without any. -/
def unwrapped (layers : List Layer) (e : Error) : List Cause :=
  layers.tails.tail.map fun inner => .error (wrap inner e)

@[simp] theorem unwrapped_cons (layer : Layer) (layers : List Layer) (e : Error) :
    unwrapped (layer :: layers) e = .error (wrap layers e) :: unwrapped layers e := by
  cases layers <;> simp [unwrapped]

/-- **No layer is skipped**: inside a stack of layers each of them is met before the causes of the
error itself. -/
theorem follows_wrap_iff {layers : List Layer} :
    Follows (wrap layers e) causes ↔
      ∃ below, Follows e below ∧ causes = unwrapped layers e ++ below := by
  induction layers generalizing causes with
  | nil => simp [wrap, unwrapped]
  | cons layer layers ih =>
      have hwrap : wrap (layer :: layers) e = layer.around (wrap layers e) := rfl
      rw [hwrap, follows_around_iff, unwrapped_cons]
      constructor
      · rintro ⟨_, h, rfl⟩
        obtain ⟨below, hbelow, rfl⟩ := ih.mp h
        exact ⟨below, hbelow, rfl⟩
      · rintro ⟨below, hbelow, rfl⟩
        exact ⟨_, ih.mpr ⟨below, hbelow, rfl⟩, rfl⟩

/-- What is met is inside layers alone, at least one. -/
theorem exists_wrap_of_follows (h : Follows e causes) (hd : .error d ∈ causes) :
    ∃ layer layers, e = wrap (layer :: layers) d := by
  induction h with
  | nothing => cases hd
  | foreign _ hforeign => exact absurd (hforeign _ hd) (Option.some_ne_none d)
  | @error e inner causes hsource _ ih =>
      obtain ⟨layer, rfl⟩ := source_eq_error_iff.mp hsource
      rcases List.mem_cons.mp hd with heq | hmem
      · cases heq
        exact ⟨layer, [], rfl⟩
      · obtain ⟨next, layers, rfl⟩ := ih hmem
        exact ⟨layer, next :: layers, rfl⟩

/-- A collection has no cause: its members are not entered. -/
theorem follows_multiple_iff {errors : List Error} :
    Follows (.multiple errors) causes ↔ causes = [] := by
  constructor
  · intro h
    cases h with
    | nothing => rfl
    | foreign hsource => cases hsource
    | error hsource => cases hsource
  · rintro rfl
    exact .nothing rfl

/-! ### The innermost error -/

/-- The last error of the library that following the causes of an error meets: the error itself if
none of them is one. -/
def innermost (e : Error) (causes : List Cause) : Error :=
  (causes.filterMap Cause.error?).getLastD e

/-- **The innermost error is what is inside all layers.** -/
theorem innermost_of_follows (h : Follows e causes) : innermost e causes = e.core := by
  induction h with
  | @nothing e hsource =>
      have hcore : e.core = e := core_of_source fun d hd => by rw [hsource] at hd; cases hd
      rw [hcore]
      rfl
  | @foreign e c below hsource hforeign =>
      have hcore : e.core = e := by
        refine core_of_source fun d hd => ?_
        cases hsource.symm.trans hd
        exact absurd (hforeign _ List.mem_cons_self) (Option.some_ne_none d)
      rw [hcore, innermost, List.filterMap_eq_nil_iff.mpr hforeign]
      rfl
  | @error e d causes hsource _ ih =>
      obtain ⟨layer, rfl⟩ := source_eq_error_iff.mp hsource
      have herror : Cause.error? (.error d) = some d := rfl
      rw [core_around, ← ih, innermost, List.filterMap_cons_some herror, List.getLastD_cons]
      rfl

/-! ### Classification -/

@[simp] theorem daemonMessage_around (layer : Layer) (e : Error) :
    (layer.around e).daemonMessage = e.daemonMessage := by
  cases layer <;> rfl

/-- Layers do not change what the daemon said. -/
@[simp] theorem daemonMessage_core (e : Error) : e.core.daemonMessage = e.daemonMessage := by
  induction e using tree_induction with
  | leaf e h => rw [core_of_isLeaf h]
  | layer l e ih => rw [core_around, daemonMessage_around, ih]
  | multiple errors _ => rfl

/-- **What the daemon said** is known if what is inside all layers is its response, and of nothing
else. -/
theorem isSome_daemonMessage_iff :
    e.daemonMessage.isSome = true ↔
      ∃ status message, e.core = .daemon (.response status message) := by
  induction e using tree_induction with
  | leaf e h =>
      rw [core_of_isLeaf h]
      cases e with
      | daemon fault => cases fault <;> simp [daemonMessage]
      | init | context | multiple => cases h
      | _ => simp [daemonMessage]
  | layer l e ih => rw [core_around, daemonMessage_around, ih]
  | multiple errors _ => simp [core, daemonMessage]

/-- **An error is classified by the innermost error of the library** that following its causes
meets, inside whatever layers.  The causes have an end.  Every layer is met on the way to it, and
what is met is inside layers alone: the members of a collection are never entered.  The kind, what
the daemon said and whether trying again can help are those of the innermost error; and what the
daemon said is known exactly if that is a response of the daemon, whose status gives the kind. -/
theorem classified_by_innermost_cause (layers : List Layer) (e : Error) :
    (∃ causes, Follows (wrap layers e) causes) ∧
    ∀ causes, Follows (wrap layers e) causes →
      (∃ below, Follows e below ∧ causes = unwrapped layers e ++ below) ∧
      (∀ d, .error d ∈ causes → ∃ layer inner, wrap layers e = wrap (layer :: inner) d) ∧
      (∀ errors, e = .multiple errors → causes = unwrapped layers e) ∧
      (wrap layers e).kind = (innermost (wrap layers e) causes).kind ∧
      (wrap layers e).daemonMessage = (innermost (wrap layers e) causes).daemonMessage ∧
      (wrap layers e).isPermanent = (innermost (wrap layers e) causes).isPermanent ∧
      ((wrap layers e).daemonMessage.isSome = true ↔
        ∃ status message, innermost (wrap layers e) causes = .daemon (.response status message)) ∧
      ∀ status message, innermost (wrap layers e) causes = .daemon (.response status message) →
        (wrap layers e).daemonMessage = some message ∧
          (wrap layers e).kind = ErrorKind.ofStatus status := by
  refine ⟨⟨_, follows_sources _⟩, fun causes h => ?_⟩
  have hcore := innermost_of_follows h
  refine ⟨follows_wrap_iff.mp h, fun d => exists_wrap_of_follows h, ?_, ?_, ?_, ?_, ?_, ?_⟩
  · rintro errors rfl
    obtain ⟨below, hbelow, rfl⟩ := follows_wrap_iff.mp h
    rw [follows_multiple_iff.mp hbelow, List.append_nil]
  · rw [hcore, kind_core]
  · rw [hcore, daemonMessage_core]
  · rw [hcore, isPermanent, isPermanent, kind_core]
  · rw [hcore, isSome_daemonMessage_iff]
  · intro status message hinnermost
    rw [hcore] at hinnermost
    rw [← daemonMessage_core, ← kind_core, hinnermost]
    exact ⟨rfl, rfl⟩

/-- A conflict inside three layers: the daemon's response is the last of three causes. -/
theorem classified_by_innermost_cause_conflict :
    Follows (wrap [.context "creating", .init, .context "joining"] (.daemon (.response 409 "busy")))
      (unwrapped [.context "creating", .init, .context "joining"]
        (.daemon (.response 409 "busy"))) ∧
    (wrap [.context "creating", .init, .context "joining"]
        (.daemon (.response 409 "busy"))).daemonMessage = some "busy" ∧
      (wrap [.context "creating", .init, .context "joining"]
        (.daemon (.response 409 "busy"))).kind = .conflict := by
  have hfollows : Follows
      (wrap [.context "creating", .init, .context "joining"] (.daemon (.response 409 "busy")))
      (unwrapped [.context "creating", .init, .context "joining"]
        (.daemon (.response 409 "busy"))) :=
    follows_wrap_iff.mpr ⟨[], .nothing rfl, (List.append_nil _).symm⟩
  obtain ⟨-, -, -, -, -, -, -, hresponse⟩ := (classified_by_innermost_cause _ _).2 _ hfollows
  exact ⟨hfollows, hresponse 409 "busy" rfl⟩

end Error

end DockerClient
