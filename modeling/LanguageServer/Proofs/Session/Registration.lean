import LanguageServer.Proofs.Session.Asking
import Mathlib.Data.List.Basic
import Mathlib.Data.List.Induction

/-! # Registrations

A client may ask in its introduction to be registered for changes of its configuration. The server
keeps this from the one introduction that it accepts (`Session.knows_after`), and it sends a
registration only to a client that is ready, in front of the greeting
(`Session.sentAt_of_greetsIn`). -/

namespace LanguageServer

namespace Message

/-- A notification that the client is ready, to a running session. -/
structure GreetsIn (phase : Phase) (m : Message) : Prop where
  running : phase = .running
  name : m.method = "initialized"
  notification : m.id = none
  params : ∃ j, m.params = some j ∧ (Shape.fields []).fits j

end Message

/-- Parameters of an introduction with a configuration that is set. -/
def Json.DeclaresConfiguration (params : Json) : Prop :=
  ∃ j capabilities workspace, Shape.introduction.read? params = some j ∧
    j.get? "capabilities" = some capabilities ∧ capabilities.get? "workspace" = some workspace ∧
      workspace.get? "configuration" = some (.bool true)

namespace Session

/-- The introduction of a client is answered with a result. -/
def Accepts (s : Session) (consent : Consent) (m : Message) (params : Json) : Prop :=
  m.method = "initialize" ∧ m.params = some params ∧
    ∃ reaction id result, (s.receive consent m).2 = some reaction ∧
      reaction.response = some ⟨id, .ok result⟩

/-- One of many messages is an introduction that is answered with a result. -/
def HasAccepted (s : Session) (ms : List (Consent × Message)) (params : Json) : Prop :=
  ∃ earlier consent m later,
    ms = earlier ++ (consent, m) :: later ∧ (s.after earlier).Accepts consent m params

/-- What a client is told when it is ready. -/
def hello : Notice := .logMessage .info "Nexus LSP Server started"

/-- The client that was accepted wants to be registered. -/
def WantsRegistration (s : Session) (ms : List (Consent × Message)) : Prop :=
  ∃ params, s.HasAccepted ms params ∧ params.DeclaresConfiguration

end Session

/-! ## The method of an event -/

theorem Method.mem_all_of_ofName? {name : String} {method : Method}
    (h : Method.ofName? name = some method) : (name, method) ∈ Method.all := by
  obtain ⟨before, after, hall, -⟩ := List.lookup_eq_some_iff.mp h
  rw [hall]
  exact List.mem_append_right _ List.mem_cons_self

theorem Method.eq_initialize_of_ofName? {name : String}
    (h : Method.ofName? name = some .introduction) : name = "initialize" := by
  have hmem := Method.mem_all_of_ofName? h
  simpa [Method.all, Method.handled] using hmem

theorem Method.eq_initialized_of_ofName? {name : String}
    (h : Method.ofName? name = some .ready) : name = "initialized" := by
  have hmem := Method.mem_all_of_ofName? h
  simpa [Method.all, Method.handled] using hmem

def Event.method : Event → Method
  | .introduction _ => .introduction
  | .ready _ => .ready
  | .shutdown => .shutdown
  | .opened _ _ _ => .opened
  | .changed _ _ _ => .changed
  | .closed _ => .closed
  | .configurationChanged => .configurationChanged
  | .foldersChanged => .foldersChanged
  | .completion => .completion
  | .resolve _ => .resolve
  | .tokens _ => .tokens

theorem Event.method_of_read? {consent : Consent} {method : Method} {params : Option Json}
    {e : Event} (h : Event.read? consent method params = some e) : method = e.method := by
  cases method with
  -- What is read in several steps ends in the event of its own method.
  | introduction | closed | tokens =>
    obtain ⟨j, -, h⟩ := Option.bind_eq_some_iff.mp h
    obtain ⟨j', -, h⟩ := Option.bind_eq_some_iff.mp h
    obtain ⟨_, -, h⟩ := Option.bind_eq_some_iff.mp h
    obtain rfl := Option.some.inj h
    rfl
  | opened =>
    obtain ⟨j, -, h⟩ := Option.bind_eq_some_iff.mp h
    simp only [opened?, bind, Option.bind_eq_some_iff] at h
    obtain ⟨j', -, d, -, uri, -, text, -, version, -, h⟩ := h
    obtain rfl := Option.some.inj h
    rfl
  | changed =>
    obtain ⟨j, -, h⟩ := Option.bind_eq_some_iff.mp h
    simp only [changed?, bind, Option.bind_eq_some_iff] at h
    obtain ⟨j', -, version, -, edits, -, uri, -, h⟩ := h
    obtain rfl := Option.some.inj h
    rfl
  | shutdown =>
    obtain ⟨-, h⟩ := Option.ite_none_right_eq_some.mp h
    obtain rfl := Option.some.inj h
    rfl
  | resolve =>
    obtain ⟨j, -, h⟩ := Option.bind_eq_some_iff.mp h
    obtain ⟨item, -, rfl⟩ := Option.map_eq_some_iff.mp h
    rfl
  | ready | configurationChanged | foldersChanged | completion =>
    rw [eq_of_shaped? h]
    rfl
  | exit | cancel | unheeded | unanswered => cases h

namespace Message

variable {phase : Phase} {consent : Consent} {m : Message} {e : Event}

theorem event?_eq_some_iff : m.event? phase consent = some e ↔
    Method.ofName? m.method = some e.method ∧ phase = e.method.phase ∧
      e.method.isRequest = m.id.isSome ∧ Event.read? consent e.method m.params = some e := by
  unfold event? read?
  constructor
  · intro h
    split at h
    · next method hname =>
      obtain ⟨hphase, h⟩ := Option.ite_none_right_eq_some.mp h
      obtain ⟨hrequest, h⟩ := Option.ite_none_right_eq_some.mp h
      obtain rfl := Event.method_of_read? h
      exact ⟨hname, hphase, hrequest, h⟩
    · cases h
  · rintro ⟨hname, hphase, hrequest, h⟩
    rw [hname]
    simp only [if_pos hphase, if_pos hrequest, h]

end Message

/-! ## What an introduction declares -/

namespace Event

theorem flag?_eq_true_iff {j : Json} {name : String} {flag : Bool} (h : flag? j name = some flag) :
    flag = true ↔ j.get? name = some (.bool true) := by
  unfold flag? Json.optional? Json.getSome? at h
  cases hget : j.get? name with
  | none =>
    rw [hget] at h
    obtain rfl := Option.some.inj h
    simp
  | some member =>
    rw [hget] at h
    cases member with
    | null =>
      obtain rfl := Option.some.inj h
      simp
    | bool b =>
      obtain rfl := Option.some.inj h
      simp
    | _ => cases h

theorem configuration_iff_of_support? {capabilities : Json} {support : ClientSupport}
    (h : support? capabilities = some support) :
    support.configuration = true ↔ ∃ workspace, capabilities.get? "workspace" = some workspace ∧
      workspace.get? "configuration" = some (.bool true) := by
  unfold support? Json.getSome? at h
  cases hget : capabilities.get? "workspace" with
  | none =>
    rw [hget] at h
    obtain rfl := Option.some.inj h
    simp
  | some workspace =>
    rw [hget] at h
    cases workspace with
    | null =>
      obtain rfl := Option.some.inj h
      simp [Json.get?]
    | _ =>
      obtain ⟨configuration, hconfiguration, h⟩ := Option.bind_eq_some_iff.mp h
      obtain ⟨folders, -, h⟩ := Option.bind_eq_some_iff.mp h
      obtain rfl := Option.some.inj h
      simpa using flag?_eq_true_iff hconfiguration

theorem configuration_iff_of_introduction? {params : Json} {support : ClientSupport}
    (h : introduction? params = some (.introduction support)) :
    support.configuration = true ↔ params.DeclaresConfiguration := by
  obtain ⟨j, hj, h⟩ := Option.bind_eq_some_iff.mp h
  obtain ⟨support', hsupport, h⟩ := Option.bind_eq_some_iff.mp h
  cases h
  obtain ⟨capabilities, hcapabilities, hsupport⟩ := Option.bind_eq_some_iff.mp hsupport
  rw [configuration_iff_of_support? hsupport]
  unfold Json.DeclaresConfiguration
  simp [hj, hcapabilities]

end Event

/-! ## Registrations -/

namespace Server

variable {s : Server} {e : Event}

theorem support_handle (h : ∀ support, e ≠ .introduction support) :
    (s.handle e).server.support = s.support := by
  cases e with
  | introduction support => exact absurd rfl (h support)
  | ready consent =>
    simp only [handle, greet]
    split <;> rfl
  | changed u edits version =>
    simp only [handle]
    split <;> rfl
  | _ => rfl

theorem ready_of_register_mem {id : Nat} (h : .register id ∈ (s.handle e).sent) :
    ∃ consent, e = .ready consent := by
  cases e with
  | ready consent => exact ⟨consent, rfl⟩
  | opened u text version => simp [handle, keep, diagnose] at h
  | changed u edits version =>
    simp only [handle] at h
    split at h
    · simp [keep, diagnose] at h
    · simp [warn] at h
  | _ => simp [handle, reply, ignore] at h

end Server

namespace Message

variable {phase : Phase} {consent : Consent} {m : Message}

theorem greetsIn_iff :
    m.GreetsIn phase ↔ ∃ consent', m.event? phase consent = some (.ready consent') := by
  constructor
  · rintro ⟨hphase, hname, hid, j, hparams, hfits⟩
    refine ⟨consent, event?_eq_some_iff.mpr ⟨?_, hphase, ?_, ?_⟩⟩
    · rw [hname]
      rfl
    · rw [hid]
      rfl
    · simp only [Event.method, Event.read?, hparams]
      exact if_pos hfits
  · rintro ⟨consent', h⟩
    obtain ⟨hname, hphase, hid, hread⟩ := event?_eq_some_iff.mp h
    obtain ⟨j, hparams, hshaped⟩ := Option.bind_eq_some_iff.mp hread
    have hnone : m.id = none := Option.isNone_iff_eq_none.mp (Option.isSome_eq_false_iff.mp hid.symm)
    obtain ⟨hfits, -⟩ := Option.ite_none_right_eq_some.mp hshaped
    exact ⟨hphase, Method.eq_initialized_of_ofName? hname, hnone, j, hparams, hfits⟩

theorem phaseAfter_ne_fresh (h : phase ≠ .fresh) : m.phaseAfter phase consent ≠ .fresh := by
  unfold phaseAfter
  split
  · exact Phase.noConfusion
  split
  · split
    · exact Phase.noConfusion
    · exact h
  · split
    · exact Phase.noConfusion
    · exact h
  · exact Phase.noConfusion
  · exact h

theorem phaseAfter_of_introduction {support : ClientSupport}
    (h : m.event? phase consent = some (.introduction support)) :
    m.phaseAfter phase consent = .running := by
  obtain ⟨hname, rfl, -⟩ := event?_eq_some_iff.mp h
  unfold phaseAfter
  rw [hname, h]
  rfl

end Message

namespace Session

variable {s : Session} {consent : Consent} {m : Message} {params : Json}

theorem accepts_iff : s.Accepts consent m params ↔ ∃ support,
    m.event? s.phase consent = some (.introduction support) ∧ m.params = some params := by
  constructor
  · rintro ⟨hname, hparams, reaction, id, result, hreceive, hresponse⟩
    have hphase : s.phase ≠ .exited := by
      intro hexited
      rw [receive_exited hexited] at hreceive
      cases hreceive
    obtain ⟨next, reaction', hreceive', hhears, -⟩ := receive_spec hphase consent m
    rw [hreceive'] at hreceive
    obtain rfl := Option.some.inj hreceive
    cases hevent : m.event? s.phase consent with
    | none =>
      rw [hevent] at hhears
      exact absurd hresponse (hhears.2.2 id result)
    | some e =>
      obtain ⟨hmethod, -⟩ := Message.event?_eq_some_iff.mp hevent
      rw [hname] at hmethod
      cases e with
      | introduction support => exact ⟨support, rfl, hparams⟩
      | _ => cases hmethod
  · rintro ⟨support, hevent, hparams⟩
    obtain ⟨hmethod, hphase, hid, -⟩ := Message.event?_eq_some_iff.mp hevent
    obtain ⟨id, hid⟩ := Option.isSome_iff_exists.mp hid.symm
    have hrunning : s.phase ≠ .exited := by
      rw [hphase]
      exact Phase.noConfusion
    obtain ⟨next, reaction, hreceive, hhears, -⟩ := receive_spec hrunning consent m
    rw [hevent] at hhears
    have hresponse : reaction.response =
        some ⟨id, .ok (Answer.capabilities support.workspaceFolders).toJson⟩ := by
      rw [show reaction = _ from hhears.2]
      exact response_perform hid rfl
    exact ⟨Method.eq_initialize_of_ofName? hmethod, hparams, reaction, id, _,
      congrArg Prod.snd hreceive, hresponse⟩

theorem after_concat (ms : List (Consent × Message)) :
    s.after (ms ++ [(consent, m)]) = ((s.after ms).receive consent m).1 := by
  induction ms generalizing s with
  | nil => rfl
  | cons x ms ih => exact ih

theorem not_hasAccepted_nil : ¬ s.HasAccepted [] params := by
  rintro ⟨earlier, consent, m, later, h, -⟩
  simp at h

theorem hasAccepted_concat {ms : List (Consent × Message)} :
    s.HasAccepted (ms ++ [(consent, m)]) params ↔
      s.HasAccepted ms params ∨ (s.after ms).Accepts consent m params := by
  constructor
  · rintro ⟨earlier, consent', m', later, h, haccepts⟩
    obtain rfl | ⟨between, x, rfl⟩ := List.eq_nil_or_concat' later
    · obtain ⟨rfl, hlast⟩ := List.append_inj' h rfl
      cases hlast
      exact .inr haccepts
    · rw [← List.cons_append, ← List.append_assoc] at h
      obtain ⟨rfl, -⟩ := List.append_inj' h rfl
      exact .inl ⟨earlier, consent', m', between, rfl, haccepts⟩
  · rintro (⟨earlier, consent', m', later, rfl, haccepts⟩ | haccepts)
    · refine ⟨earlier, consent', m', later ++ [(consent, m)], ?_, haccepts⟩
      rw [List.append_assoc, List.cons_append]
    · exact ⟨ms, consent, m, [], rfl, haccepts⟩

/-- A session knows whether the client that it has accepted wants to be registered, and it has
accepted none before it is running. -/
structure Knows (s : Session) (accepted : Json → Prop) : Prop where
  fresh : s.phase = .fresh → ∀ params, ¬ accepted params
  configuration : s.server.support.configuration = true ↔
    ∃ params, accepted params ∧ params.DeclaresConfiguration

theorem Knows.receive {accepted accepted' : Json → Prop} (h : s.Knows accepted)
    (hnext : ∀ params, accepted' params ↔ accepted params ∨ s.Accepts consent m params) :
    (s.receive consent m).1.Knows accepted' := by
  obtain ⟨hserver, -⟩ := server_receive s consent m
  by_cases hevent : ∃ support, m.event? s.phase consent = some (.introduction support)
  -- A session that hears an introduction is fresh, so this is the only one that it accepts.
  · obtain ⟨support, hevent⟩ := hevent
    obtain ⟨-, hfresh, -, hread⟩ := Message.event?_eq_some_iff.mp hevent
    obtain ⟨params, hparams, hread⟩ := Option.bind_eq_some_iff.mp hread
    have haccepted : ∀ params', accepted' params' ↔ params' = params := by
      intro params'
      rw [hnext, accepts_iff, hevent, hparams]
      have hnone := h.fresh hfresh params'
      simp [hnone, eq_comm]
    constructor
    case fresh =>
      rw [phase_receive, Message.phaseAfter_of_introduction hevent]
      nofun
    case configuration =>
      rw [hevent] at hserver
      simp only [haccepted, exists_eq_left, hserver]
      exact Event.configuration_iff_of_introduction? hread
  · have haccepted : ∀ params, accepted' params ↔ accepted params := by
      intro params
      rw [hnext, accepts_iff]
      have hnone : ¬ ∃ support, m.event? s.phase consent = some (.introduction support) ∧
          m.params = some params := by
        rintro ⟨support, hsupport, -⟩
        exact hevent ⟨support, hsupport⟩
      exact or_iff_left hnone
    have hsupport : (s.receive consent m).1.server.support = s.server.support := by
      rw [hserver]
      cases he : m.event? s.phase consent with
      | none => rfl
      | some e =>
        apply Server.support_handle
        rintro support rfl
        exact hevent ⟨support, he⟩
    constructor
    case fresh =>
      rw [phase_receive]
      intro hphase params
      rw [haccepted]
      exact h.fresh (not_imp_not.mp Message.phaseAfter_ne_fresh hphase) params
    case configuration =>
      rw [hsupport]
      simp only [haccepted]
      exact h.configuration

theorem knows_after (v : Vocabulary) (ms : List (Consent × Message)) :
    ((start v).after ms).Knows ((start v).HasAccepted ms) := by
  induction ms using List.reverseRecOn with
  | nil =>
    refine ⟨fun _ params => not_hasAccepted_nil, iff_of_false Bool.noConfusion ?_⟩
    rintro ⟨params, haccepted, -⟩
    exact not_hasAccepted_nil haccepted
  | append_singleton ms x ih =>
    obtain ⟨consent, m⟩ := x
    rw [after_concat]
    exact ih.receive fun params => hasAccepted_concat

theorem sentAt_of_event? {e : Event} (h : m.event? s.phase consent = some e) :
    s.sentAt consent m = (s.server.handle e).sent := by
  obtain ⟨-, hsent⟩ := server_receive s consent m
  rw [hsent, h]
  exact List.append_nil _

theorem sentAt_of_greetsIn (h : m.GreetsIn s.phase) :
    s.sentAt consent m =
      if s.server.support.configuration then [.register s.server.requests, hello] else [hello] := by
  obtain ⟨consent', hevent⟩ := Message.greetsIn_iff.mp h
  rw [sentAt_of_event? hevent]
  simp only [Server.handle, Server.greet]
  split <;> rfl

theorem not_register_mem_sentAt (h : ¬ m.GreetsIn s.phase) (id : Nat) :
    .register id ∉ s.sentAt consent m := by
  cases hevent : m.event? s.phase consent with
  | none =>
    obtain ⟨-, hsent⟩ := server_receive s consent m
    rw [hsent, hevent]
    exact List.not_mem_nil
  | some e =>
    rw [sentAt_of_event? hevent]
    intro hmem
    obtain ⟨consent', rfl⟩ := Server.ready_of_register_mem hmem
    exact h (Message.greetsIn_iff.mpr ⟨consent', hevent⟩)

end Session

end LanguageServer
