import LanguageServer.Proofs.Server.Replay
import LanguageServer.Session
import Mathlib.Tactic.SplitIfs

/-! # What the server hears

Most of what a session does with a message depends on its phase and not on its server.
`Message.event?` is the event that reaches the server, and `Message.phaseAfter` is the phase that
follows. A session is then its server, run on the events heard (`server_after`). -/

namespace LanguageServer

/-- The phase in which a method reaches the server. -/
def Method.phase : Method → Phase
  | introduction => .fresh
  | _ => .running

namespace Message

/-- What a message of a method asks or tells, with an identity exactly if the method is a
request. -/
def read? (consent : Consent) (method : Method) (m : Message) : Option Event :=
  if method.isRequest = m.id.isSome then Event.read? consent method m.params else none

/-- The event that the server hears of a message. -/
def event? (phase : Phase) (consent : Consent) (m : Message) : Option Event :=
  match Method.ofName? m.method with
  | some method => if phase = method.phase then m.read? consent method else none
  | none => none

/-- The phase after a message. -/
def phaseAfter (phase : Phase) (consent : Consent) (m : Message) : Phase :=
  if phase = .exited then .exited
  else
    match Method.ofName? m.method with
    | some .introduction => if (m.event? phase consent).isSome then .running else phase
    | some .shutdown => if phase = .running then .shutDown else phase
    | some .exit => .exited
    | _ => phase

end Message

/-! ## One message -/

namespace Session

/-- What comes of an event that the server hears, or of none. -/
def Hears (s : Session) (m : Message) (event : Option Event) (r : Session × Reaction) : Prop :=
  match event with
  | some e => r.1.server = (s.server.handle e).server ∧ r.2 = (s.perform m e).2
  | none =>
    r.1.server = s.server ∧ r.2.sent = [] ∧ ∀ id result, r.2.response ≠ some ⟨id, .ok result⟩

theorem hears_silent (s : Session) (m : Message) (phase : Phase) :
    s.Hears m none ({ s with phase }, silent) := ⟨rfl, rfl, by simp [silent]⟩

theorem hears_refuse (s : Session) (m : Message) (fault : Fault) :
    s.Hears m none (s, refuse m fault) := by
  refine ⟨rfl, rfl, ?_⟩
  intro id result h
  obtain ⟨_, -, h⟩ := Option.map_eq_some_iff.mp h
  cases h

theorem hears_deliver (consent : Consent) (s : Session) (m : Message) (method : Method) :
    s.Hears m (m.read? consent method) (s.deliver consent m method) ∧
      (s.deliver consent m method).1.phase = s.phase := by
  unfold Message.read? deliver
  cases hrequest : method.isRequest <;> cases hid : m.id
  all_goals simp only [Option.isSome_none, Option.isSome_some, Option.isNone_none,
    Option.isNone_some, if_true, if_false, reduceCtorEq, Bool.false_eq_true]
  · split
    · next h => rw [h]; exact ⟨⟨rfl, rfl⟩, rfl⟩
    · next h => rw [h]; exact ⟨hears_silent s m s.phase, rfl⟩
  · exact ⟨hears_refuse s m _, trivial⟩
  · exact ⟨hears_silent s m s.phase, trivial⟩
  · split
    · split <;> exact ⟨hears_refuse s m _, rfl⟩
    · split
      · next h => rw [h]; exact ⟨⟨rfl, rfl⟩, rfl⟩
      · next h => rw [h]; exact ⟨hears_refuse s m _, rfl⟩

theorem response_perform {s : Session} {m : Message} {e : Event} {id : Json} {a : Answer}
    (hid : m.id = some id) (ha : (s.server.handle e).answer = some a) :
    (s.perform m e).2.response = some ⟨id, .ok a.toJson⟩ := by
  simp only [perform, hid, ha]
  rfl

theorem introduction_of_read? {consent : Consent} {m : Message} {e : Event}
    (h : m.read? consent .introduction = some e) :
    (∃ support, e = .introduction support) ∧ ∃ id, m.id = some id := by
  unfold Message.read? at h
  split_ifs at h with hid
  refine ⟨?_, Option.isSome_iff_exists.mp hid.symm⟩
  obtain ⟨j, -, h⟩ := Option.bind_eq_some_iff.mp h
  unfold Event.introduction? at h
  obtain ⟨j', -, h⟩ := Option.bind_eq_some_iff.mp h
  obtain ⟨support, -, h⟩ := Option.bind_eq_some_iff.mp h
  exact ⟨support, (Option.some.inj h).symm⟩

theorem hears_introduce (consent : Consent) (s : Session) (m : Message) :
    let event := if s.phase = .fresh then m.read? consent .introduction else none
    s.Hears m event (s.introduce consent m) ∧
      (s.introduce consent m).1.phase = if event.isSome then .running else s.phase := by
  unfold introduce
  by_cases hfresh : s.phase = .fresh
  · simp only [if_pos hfresh]
    obtain ⟨hhears, hphase⟩ := hears_deliver consent s m .introduction
    cases hread : m.read? consent .introduction with
    | none =>
      rw [hread] at hhears
      obtain ⟨-, hsent, hrefused⟩ := hhears
      split
      · next id result hresponse => exact absurd hresponse (hrefused id result)
      · exact ⟨⟨rfl, hsent, hrefused⟩, rfl⟩
    | some e =>
      rw [hread] at hhears
      obtain ⟨hserver, hreaction⟩ := hhears
      obtain ⟨⟨support, rfl⟩, id, hid⟩ := introduction_of_read? hread
      have hresponse : (s.deliver consent m .introduction).2.response =
          some ⟨id, .ok (Answer.capabilities support.workspaceFolders).toJson⟩ := by
        rw [hreaction]
        exact response_perform hid rfl
      rw [hresponse]
      exact ⟨⟨hserver, hreaction⟩, rfl⟩
  · simp only [if_neg hfresh]
    exact ⟨hears_refuse s m _, rfl⟩

theorem hears_ordinary {consent : Consent} {s : Session} {m : Message} {method : Method}
    (hmethod : method.phase = .running)
    (hdispatch : s.dispatch consent m method =
      if s.phase = .running then s.deliver consent m method
      else (s, refuse m (closedFault s.phase))) :
    s.Hears m (if s.phase = method.phase then m.read? consent method else none)
        (s.dispatch consent m method) ∧
      (s.dispatch consent m method).1.phase = s.phase := by
  rw [hmethod, hdispatch]
  by_cases hrunning : s.phase = .running
  · rw [if_pos hrunning, if_pos hrunning]
    exact hears_deliver consent s m method
  · rw [if_neg hrunning, if_neg hrunning]
    exact ⟨hears_refuse s m _, rfl⟩

theorem hears_dispatch (consent : Consent) (s : Session) (m : Message) (method : Method) :
    let event := if s.phase = method.phase then m.read? consent method else none
    s.Hears m event (s.dispatch consent m method) ∧
      (s.dispatch consent m method).1.phase =
        match method with
        | .introduction => if event.isSome then .running else s.phase
        | .shutdown => if s.phase = .running then .shutDown else s.phase
        | .exit => .exited
        | _ => s.phase := by
  cases method with
  | exit =>
    have hnone : m.read? consent .exit = none := ite_eq_right_iff.mpr fun _ => rfl
    rw [hnone, ite_self]
    exact ⟨hears_silent s m .exited, rfl⟩
  | cancel =>
    have hnone : m.read? consent .cancel = none := ite_eq_right_iff.mpr fun _ => rfl
    have hdeliver := hears_deliver consent s m .cancel
    rw [hnone] at hdeliver
    rw [hnone, ite_self]
    exact hdeliver
  | introduction => exact hears_introduce consent s m
  | shutdown =>
    have hmethod : Method.shutdown.phase = .running := rfl
    unfold dispatch
    by_cases hrunning : s.phase = .running
    · simp only [hmethod, if_pos hrunning]
      exact hears_deliver consent { s with phase := .shutDown } m .shutdown
    · simp only [hmethod, if_neg hrunning]
      exact ⟨hears_refuse s m _, trivial⟩
  | _ => exact hears_ordinary rfl rfl

theorem hears_reject (s : Session) (m : Message) : s.Hears m none (s, reject m) := by
  unfold reject
  split
  · exact hears_silent s m s.phase
  · exact hears_refuse s m _

theorem receive_exited {s : Session} (h : s.phase = .exited) (consent : Consent) (m : Message) :
    s.receive consent m = (s, none) := if_pos h

/-- All that a message does to a session that has not ended. -/
theorem receive_spec {s : Session} (h : s.phase ≠ .exited) (consent : Consent) (m : Message) :
    ∃ next reaction, s.receive consent m = (next, some reaction) ∧
      s.Hears m (m.event? s.phase consent) (next, reaction) ∧
      next.phase = m.phaseAfter s.phase consent := by
  unfold receive Message.phaseAfter Message.event?
  rw [if_neg h, if_neg h]
  cases hname : Method.ofName? m.method with
  | none => exact ⟨s, _, rfl, hears_reject s m, rfl⟩
  | some method =>
    obtain ⟨hhears, hphase⟩ := hears_dispatch consent s m method
    refine ⟨_, _, rfl, hhears, hphase.trans ?_⟩
    cases method <;> rfl

end Session

/-! ## Many messages -/

namespace Message

def phaseAfterAll (phase : Phase) : List (Consent × Message) → Phase
  | [] => phase
  | (consent, m) :: ms => phaseAfterAll (m.phaseAfter phase consent) ms

/-- The events that the server hears of many messages. -/
def events (phase : Phase) : List (Consent × Message) → List Event
  | [] => []
  | (consent, m) :: ms => (m.event? phase consent).toList ++ events (m.phaseAfter phase consent) ms

theorem event?_exited (consent : Consent) (m : Message) : m.event? .exited consent = none := by
  unfold event?
  split
  · next method _ => exact if_neg (by cases method <;> exact Phase.noConfusion)
  · rfl

theorem phaseAfter_exited (consent : Consent) (m : Message) :
    m.phaseAfter .exited consent = .exited := if_pos rfl

end Message

namespace Session

/-- What the client is sent at one message without asking. -/
def sentAt (s : Session) (consent : Consent) (m : Message) : List Notice :=
  ((s.receive consent m).2.map (·.sent)).getD []

/-- The session after many messages. Each comes with what the client would say to a
registration. -/
def after (s : Session) : List (Consent × Message) → Session
  | [] => s
  | (consent, m) :: ms => (s.receive consent m).1.after ms

/-- All that the client is sent without asking. -/
def sent (s : Session) : List (Consent × Message) → List Notice
  | [] => []
  | (consent, m) :: ms => s.sentAt consent m ++ (s.receive consent m).1.sent ms

theorem phase_receive (s : Session) (consent : Consent) (m : Message) :
    (s.receive consent m).1.phase = m.phaseAfter s.phase consent := by
  by_cases h : s.phase = .exited
  · rw [receive_exited h, h, Message.phaseAfter_exited]
  · obtain ⟨next, reaction, hreceive, -, hphase⟩ := receive_spec h consent m
    rw [hreceive, hphase]

theorem server_receive (s : Session) (consent : Consent) (m : Message) :
    (s.receive consent m).1.server = (s.server.run (m.event? s.phase consent).toList).1 ∧
      s.sentAt consent m =
        (s.server.run (m.event? s.phase consent).toList).2.flatMap (·.sent) := by
  unfold sentAt
  by_cases h : s.phase = .exited
  · rw [receive_exited h, h, Message.event?_exited]
    exact ⟨rfl, rfl⟩
  · obtain ⟨next, reaction, hreceive, hhears, -⟩ := receive_spec h consent m
    rw [hreceive]
    cases hevent : m.event? s.phase consent with
    | none =>
      rw [hevent] at hhears
      exact ⟨hhears.1, hhears.2.1⟩
    | some e =>
      rw [hevent] at hhears
      refine ⟨hhears.1, ?_⟩
      rw [show reaction = _ from hhears.2]
      exact (List.append_nil _).symm

theorem phase_after (s : Session) (ms : List (Consent × Message)) :
    (s.after ms).phase = Message.phaseAfterAll s.phase ms := by
  induction ms generalizing s with
  | nil => rfl
  | cons x ms ih =>
    obtain ⟨consent, m⟩ := x
    rw [after, Message.phaseAfterAll, ih, phase_receive]

/-- A session is its server, run on the events that it hears. -/
theorem server_after (s : Session) (ms : List (Consent × Message)) :
    (s.after ms).server = (s.server.run (Message.events s.phase ms)).1 ∧
      s.sent ms = (s.server.run (Message.events s.phase ms)).2.flatMap (·.sent) := by
  induction ms generalizing s with
  | nil => exact ⟨rfl, rfl⟩
  | cons x ms ih =>
    obtain ⟨consent, m⟩ := x
    obtain ⟨hserver, hsent⟩ := server_receive s consent m
    obtain ⟨hrest, hsentRest⟩ := ih (s.receive consent m).1
    rw [phase_receive, hserver] at hrest hsentRest
    simp only [after, sent, Message.events, Server.run_append, List.flatMap_append]
    exact ⟨hrest, by rw [hsent, hsentRest]⟩

end Session

end LanguageServer
