import DockerClient.Client.Health

/-
**What is sent over a link.**

* `Scene.Sends` — between two scenes only requests of a kind are sent;
* `Scene.IsOver`, `Scene.sends_call` — **a call sends over its link alone**;
* `HealthCheck.KeepsToLink` — health checks that do the same; `HealthCheck.keepsToLink_patient`,
  `HealthCheck.keepsToLink_ping`, `HealthCheck.keepsToLink_known` — those of the library do;
* `ClientPlan.sends_prepare` — what a new client sends.
-/

set_option relaxedAutoImplicit false
set_option autoImplicit false

namespace DockerClient

/-! ### Calls -/

namespace Scene

variable {P : SentRequest → Prop} {s t u : Scene}

/-- Between two scenes only requests of a kind are sent. -/
def Sends (P : SentRequest → Prop) (s t : Scene) : Prop :=
  ∃ news, t.events = s.events ++ news ∧ ∀ sent, Event.sent sent ∈ news → P sent

namespace Sends

/-- Nothing happens that can be seen. -/
theorem of_events_eq (h : t.events = s.events) : Sends P s t := ⟨[], by simpa using h, nofun⟩

theorem trans (h : Sends P s t) (h' : Sends P t u) : Sends P s u := by
  obtain ⟨news, hnews, hP⟩ := h
  obtain ⟨news', hnews', hP'⟩ := h'
  refine ⟨news ++ news', by rw [hnews', hnews, List.append_assoc], fun sent hsent => ?_⟩
  exact (List.mem_append.mp hsent).elim (hP sent) (hP' sent)

theorem mono {Q : SentRequest → Prop} (h : Sends P s t) (hPQ : ∀ sent, P sent → Q sent) :
    Sends Q s t := by
  obtain ⟨news, hnews, hP⟩ := h
  exact ⟨news, hnews, fun sent hsent => hPQ sent (hP sent hsent)⟩

end Sends

variable {listens : Route → Bool} {link : Link}

/-- A request that is sent over a link. -/
def IsOver (listens : Route → Bool) (link : Link) (sent : SentRequest) : Prop :=
  ∃ request, asSent listens link request = .ok sent

theorem events_nextReply (s : Scene) : s.nextReply.2.events = s.events := by
  unfold nextReply
  split <;> rfl

theorem events_outcomeOf (link : Link) (reply : Reply) (s : Scene) :
    (outcomeOf link reply s).2.events = s.events := by
  cases reply <;> rfl

/-- An exchange sends its request over its link, or nothing. -/
theorem sends_exchange (request : Request) (s : Scene) :
    Sends (IsOver listens link) s (exchange listens link request s).2 := by
  unfold exchange
  split
  · exact .of_events_eq rfl
  · rename_i sent hsent
    refine ⟨[.sent sent], ?_, fun other hother => ?_⟩
    · exact (events_outcomeOf link _ _).trans (events_nextReply _)
    · cases List.mem_singleton.mp hother
      exact ⟨request, hsent⟩

/-- **A call sends over its link alone.** -/
theorem sends_call {α : Type} (what : Call α) (s : Scene) :
    Sends (IsOver listens link) s (s.call listens link what).2 := by
  have hsends : Sends (IsOver listens link) s (exchange listens link what.request s).2 :=
    sends_exchange what.request s
  unfold call
  generalize exchange listens link what.request s = exchanged at hsends ⊢
  obtain ⟨_ | response, after⟩ := exchanged
  · exact hsends
  · dsimp only
    split <;> exact hsends

end Scene

/-! ### New clients -/

namespace HealthCheck

/-- A health check that sends over its link alone. -/
def KeepsToLink (check : HealthCheck) : Prop :=
  ∀ listens link s, Scene.Sends (Scene.IsOver listens link) s (check.run listens link s).2

theorem sends_patiently {listens : Route → Bool} {link : Link} (again attempt : Nat) (s : Scene) :
    Scene.Sends (Scene.IsOver listens link) s (patiently listens link again attempt s).2 := by
  have ping (s : Scene) :
      Scene.Sends (Scene.IsOver listens link) s (s.call listens link Call.ping).2 :=
    Scene.sends_call Call.ping s
  -- each question goes over the link, and the pause after it does not show
  fun_induction patiently listens link again attempt s with
  | case1 _ _ s _ after hcall => simpa only [hcall] using ping s
  | case2 _ s _ after hcall =>
      have hping : Scene.Sends (Scene.IsOver listens link) s after := by
        simpa only [hcall] using ping s
      exact hping.trans (.of_events_eq rfl)
  | case3 _ s _ after hcall paused _ ih =>
      have hping : Scene.Sends (Scene.IsOver listens link) s after := by
        simpa only [hcall] using ping s
      have hpause : Scene.Sends (Scene.IsOver listens link) after paused := .of_events_eq rfl
      exact hping.trans (hpause.trans ih)

theorem keepsToLink_patient : KeepsToLink .patient := fun _ _ s => sends_patiently _ _ s

theorem keepsToLink_ping : KeepsToLink .ping := fun _ _ s => Scene.sends_call Call.ping s

theorem keepsToLink_known (outcome : Except Error Unit) : KeepsToLink (.known outcome) :=
  fun _ _ _ => .of_events_eq rfl

end HealthCheck

/-- What a new client does first is sent over its link alone, if its health check is. -/
theorem ClientPlan.sends_prepare {plan : ClientPlan} (h : plan.check.KeepsToLink)
    (listens : Route → Bool) (s : Scene) :
    Scene.Sends (Scene.IsOver listens plan.link) s (plan.prepare listens s).2 := by
  have hcheck := h listens plan.link s
  unfold prepare
  generalize plan.check.run listens plan.link s = checked at hcheck ⊢
  obtain ⟨_ | _, after⟩ := checked
  · exact hcheck
  · exact hcheck.trans (Scene.sends_call Call.version after)

end DockerClient
