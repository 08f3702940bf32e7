import LanguageServer.Proofs.Session.Registration
import Mathlib.Data.List.Forall2

/-! # What the client supports

A client says in its introduction whether it wants to be registered for changes of its
configuration and whether it has workspace folders, and it may refuse a registration. Two things
depend on this: whether the answer to the introduction mentions the workspace, and whether a
registration comes in front of the greeting. All else that the client sees is the same
(`Session.Alike.shown`, `Session.support_is_confined`). -/

namespace LanguageServer

/-! ## What is left without the workspace and the registrations -/

/-- An object without the members of a name. -/
def Json.without (name : String) : Json → Json
  | .obj members => .obj (members.filter (·.1 != name))
  | j => j

/-- An object whose members of a name are changed. -/
def Json.within (name : String) (change : Json → Json) : Json → Json
  | .obj members => .obj (members.map fun m => if m.1 == name then (m.1, change m.2) else m)
  | j => j

/-- A response without what its capabilities say about the workspace. -/
def Response.withoutWorkspace (r : Response) : Response where
  id := r.id
  outcome := r.outcome.map (Json.within "capabilities" (Json.without "workspace"))

def Notice.isRegistration : Notice → Bool
  | .register _ => true
  | _ => false

/-- What is left of the reaction to a message of a method without the registrations and, if it is an
introduction, without what the capabilities say about the workspace. -/
def Reaction.reduced (method : String) (r : Reaction) : Reaction where
  response := if method = "initialize" then r.response.map .withoutWorkspace else r.response
  sent := r.sent.filter (!·.isRegistration)

namespace Message

def Introduces (m : Message) : Prop :=
  ∃ support, m.params.bind Event.introduction? = some (.introduction support)

/-- Messages that are the same, or two introductions with one identity. -/
inductive Corresponds : Message → Message → Prop
  | same (m : Message) : Corresponds m m
  | introductions {m m' : Message} (hname : m.method = "initialize")
    (hname' : m'.method = "initialize") (hid : m.id = m'.id) (h : m.Introduces)
    (h' : m'.Introduces) : Corresponds m m'

end Message

namespace Session

/-- What the client sees of many messages, without the workspace and the registrations. -/
def shown (s : Session) : List (Consent × Message) → List (Option Reaction)
  | [] => []
  | (consent, m) :: ms =>
    (s.receive consent m).2.map (·.reduced m.method) :: (s.receive consent m).1.shown ms

end Session

/-! ## Messages that correspond -/

/-- Events that are the same, or two introductions, or two greetings. -/
inductive Event.Alike : Event → Event → Prop
  | same (e : Event) : Alike e e
  | introductions (support support' : ClientSupport) :
    Alike (.introduction support) (.introduction support')
  | greetings (consent consent' : Consent) : Alike (.ready consent) (.ready consent')

theorem Event.alike_same (event : Option Event) : Option.Rel Alike event event := by
  cases event with
  | none => exact .none
  | some e => exact .some (.same e)

theorem Event.isSome_eq_of_alike {event event' : Option Event}
    (h : Option.Rel Alike event event') : event.isSome = event'.isSome := by
  cases h <;> rfl

theorem Event.alike_read? (consent consent' : Consent) (method : Method) (params : Option Json) :
    Option.Rel Alike (read? consent method params) (read? consent' method params) := by
  cases method with
  | ready =>
    cases params with
    | none => exact .none
    | some j =>
      simp only [read?, Option.bind_some, shaped?]
      split
      · exact .some (.greetings consent consent')
      · exact .none
  | _ => exact alike_same _

namespace Message.Corresponds

variable {m m' : Message} (h : m.Corresponds m')

include h

theorem method_eq : m.method = m'.method := by
  cases h with
  | same => rfl
  | introductions hname hname' => rw [hname, hname']

theorem id_eq : m.id = m'.id := by
  cases h with
  | same => rfl
  | introductions hname hname' hid => exact hid

theorem params_eq {method : Method} (hname : Method.ofName? m.method = some method)
    (hmethod : method ≠ .introduction) : m.params = m'.params := by
  cases h with
  | same => rfl
  | introductions hmethodName =>
    rw [hmethodName] at hname
    exact absurd (Option.some.inj hname).symm hmethod

theorem event?_alike (phase : Phase) (consent consent' : Consent) :
    Option.Rel Event.Alike (m.event? phase consent) (m'.event? phase consent') := by
  unfold event? read?
  cases h with
  | same =>
    split
    · split_ifs
      · exact Event.alike_read? consent consent' _ _
      all_goals exact .none
    · exact .none
  | introductions hname hname' hid hm hm' =>
    obtain ⟨support, hsupport⟩ := hm
    obtain ⟨support', hsupport'⟩ := hm'
    have hmethod : Method.ofName? "initialize" = some .introduction := rfl
    rw [hname, hname', hid, hmethod]
    simp only [Event.read?, hsupport, hsupport']
    split_ifs
    · exact .some (.introductions support support')
    all_goals exact .none

theorem phaseAfter_eq (phase : Phase) (consent consent' : Consent) :
    m.phaseAfter phase consent = m'.phaseAfter phase consent' := by
  unfold phaseAfter
  rw [h.method_eq, Event.isSome_eq_of_alike (h.event?_alike phase consent consent')]

end Message.Corresponds

/-! ## Messages that are not heard -/

theorem Message.read?_cancel (m : Message) (consent : Consent) : m.read? consent .cancel = none :=
  ite_eq_right_iff.mpr fun _ => rfl

namespace Session

variable {s s' : Session} {consent consent' : Consent} {m m' : Message} {method : Method}

theorem refuse_eq (hid : m.id = m'.id) (fault : Fault) : refuse m fault = refuse m' fault := by
  unfold refuse
  rw [hid]

theorem reject_eq (hname : m.method = m'.method) (hid : m.id = m'.id) : reject m = reject m' := by
  unfold reject
  rw [hname, refuse_eq hid]

theorem deliver_unheard (hid : m.id = m'.id)
    (hparams : method ≠ .introduction → m.params = m'.params)
    (h : m.read? consent method = none) (h' : m'.read? consent' method = none) :
    (s.deliver consent m method).2 = (s'.deliver consent' m' method).2 := by
  unfold Message.read? at h h'
  unfold deliver
  simp only [refuse_eq hid]
  rw [hid] at h ⊢
  cases hrequest : method.isRequest <;> cases hm' : m'.id
  all_goals
    rw [hrequest, hm'] at h h'
    simp only [Option.isSome_none, Option.isSome_some, Option.isNone_none, Option.isNone_some,
      if_true, if_false, reduceCtorEq, Bool.false_eq_true] at h h' ⊢
  · rw [h, h']
  · cases method with
    | unanswered shape =>
      rw [hparams Method.noConfusion]
      dsimp only
      split <;> rfl
    | _ => rw [h, h']

theorem introduce_fresh (h : s.phase = .fresh) :
    (s.introduce consent m).2 = (s.deliver consent m .introduction).2 := by
  unfold introduce
  rw [if_pos h]
  dsimp only
  split <;> rfl

theorem dispatch_unheard (hphase : s.phase = s'.phase) (hid : m.id = m'.id)
    (hparams : method ≠ .introduction → m.params = m'.params)
    (h : s.phase = method.phase → m.read? consent method = none)
    (h' : s.phase = method.phase → m'.read? consent' method = none) :
    (s.dispatch consent m method).2 = (s'.dispatch consent' m' method).2 := by
  cases method with
  | exit => rfl
  | cancel =>
    exact deliver_unheard hid hparams (m.read?_cancel consent) (m'.read?_cancel consent')
  | introduction =>
    by_cases hfresh : s.phase = .fresh
    · simp only [dispatch, introduce_fresh hfresh, introduce_fresh (hphase ▸ hfresh)]
      exact deliver_unheard hid hparams (h hfresh) (h' hfresh)
    · simp only [dispatch, introduce, if_neg hfresh, if_neg (hphase ▸ hfresh)]
      exact refuse_eq hid _
  | _ =>
    simp only [dispatch, ← hphase]
    by_cases hrunning : s.phase = .running
    · simp only [if_pos hrunning]
      exact deliver_unheard hid hparams (h hrunning) (h' hrunning)
    · simp only [if_neg hrunning]
      exact refuse_eq hid _

theorem receive_unheard (hphase : s.phase = s'.phase) (hm : m.Corresponds m')
    (h : m.event? s.phase consent = none) (h' : m'.event? s.phase consent' = none) :
    (s.receive consent m).2 = (s'.receive consent' m').2 := by
  unfold Message.event? at h h'
  unfold receive
  rw [← hm.method_eq] at h' ⊢
  rw [← hphase]
  split_ifs
  · rfl
  · cases hname : Method.ofName? m.method with
    | none =>
      simp only [reject_eq hm.method_eq hm.id_eq]
    | some method =>
      rw [hname] at h h'
      have hunheard : (s.dispatch consent m method).2 = (s'.dispatch consent' m' method).2 :=
        dispatch_unheard hphase hm.id_eq (hm.params_eq hname) (ite_eq_right_iff.mp h)
          (ite_eq_right_iff.mp h')
      simp only [hunheard]

end Session

/-! ## Two servers -/

/-- Servers with the same words and documents. -/
structure Server.Alike (s s' : Server) : Prop where
  vocabulary : s.vocabulary = s'.vocabulary
  documents : s.documents = s'.documents

/-- What comes of a message in two servers, but for registrations. -/
structure Effect.Alike (x x' : Effect) : Prop where
  server : x.server.Alike x'.server
  answer : x.answer = x'.answer
  sent : x.sent.filter (!·.isRegistration) = x'.sent.filter (!·.isRegistration)

namespace Server.Alike

variable {s s' : Server} (h : s.Alike s')

include h

theorem greet (consent consent' : Consent) : (s.greet consent).Alike (s'.greet consent') := by
  unfold Server.greet
  dsimp only
  split_ifs <;> exact ⟨⟨h.vocabulary, h.documents⟩, rfl, rfl⟩

theorem handle (e : Event) : (s.handle e).Alike (s'.handle e) := by
  have hserver : s.Alike s' := h
  obtain ⟨hvocabulary, hdocuments⟩ := h
  cases e with
  | ready consent => exact hserver.greet consent consent
  | introduction => exact ⟨⟨hvocabulary, hdocuments⟩, rfl, rfl⟩
  | shutdown | configurationChanged | foldersChanged => exact ⟨hserver, rfl, rfl⟩
  | opened u text version =>
    refine ⟨⟨hvocabulary, ?_⟩, rfl, rfl⟩
    simp only [Server.handle, keep, hdocuments]
  | changed u edits version =>
    simp only [Server.handle, hdocuments]
    cases s'.documents.get? u with
    | some d =>
      refine ⟨⟨hvocabulary, ?_⟩, rfl, rfl⟩
      simp only [keep, hdocuments]
    | none => exact ⟨hserver, rfl, rfl⟩
  | closed u =>
    refine ⟨⟨hvocabulary, ?_⟩, rfl, rfl⟩
    simp only [Server.handle, ignore, hdocuments]
  | completion | resolve | tokens =>
    refine ⟨hserver, ?_, rfl⟩
    simp only [Server.handle, reply, hvocabulary, hdocuments]

end Server.Alike

/-! ## Two sessions -/

/-- Sessions in one phase, whose servers have the same words and documents. -/
structure Session.Alike (s s' : Session) : Prop where
  phase : s.phase = s'.phase
  server : s.server.Alike s'.server

namespace Session

variable {s s' : Session} {consent consent' : Consent} {m m' : Message}

theorem reduced_perform {e e' : Event} (hm : m.Corresponds m')
    (h : (s.server.handle e).Alike (s'.server.handle e')) :
    (s.perform m e).2.reduced m.method = (s'.perform m' e').2.reduced m'.method := by
  unfold perform Reaction.reduced
  simp only [hm.method_eq, hm.id_eq, h.answer, h.sent]

theorem reduced_toJson_capabilities (folders folders' : Bool) :
    (Answer.capabilities folders).toJson.within "capabilities" (Json.without "workspace") =
      (Answer.capabilities folders').toJson.within "capabilities" (Json.without "workspace") := by
  cases folders <;> cases folders' <;> rfl

theorem reduced_perform_introduction (hm : m.Corresponds m') (hname : m.method = "initialize")
    (support support' : ClientSupport) :
    (s.perform m (.introduction support)).2.reduced m.method =
      (s'.perform m' (.introduction support')).2.reduced m'.method := by
  unfold perform Reaction.reduced
  rw [if_pos hname, if_pos (hm.method_eq.symm.trans hname), hm.id_eq]
  cases m'.id with
  | none => rfl
  | some id =>
    have hworkspace :=
      reduced_toJson_capabilities support.workspaceFolders support'.workspaceFolders
    exact congrArg (fun result => (⟨some ⟨id, .ok result⟩, []⟩ : Reaction)) hworkspace

theorem Alike.perform (h : s.Alike s') (hm : m.Corresponds m') {e e' : Event} (he : e.Alike e')
    (hevent : m.event? s.phase consent = some e) :
    (s.server.handle e).server.Alike (s'.server.handle e').server ∧
      (s.perform m e).2.reduced m.method = (s'.perform m' e').2.reduced m'.method := by
  cases he with
  | same =>
    have heffect := h.server.handle e
    exact ⟨heffect.server, reduced_perform hm heffect⟩
  | greetings consent consent' =>
    have heffect := h.server.greet consent consent'
    exact ⟨heffect.server, reduced_perform hm heffect⟩
  | introductions support support' =>
    have hname := Method.eq_initialize_of_ofName? (Message.event?_eq_some_iff.mp hevent).1
    exact ⟨⟨h.server.vocabulary, h.server.documents⟩,
      reduced_perform_introduction hm hname support support'⟩

theorem Alike.receive (h : s.Alike s') (hm : m.Corresponds m') :
    (s.receive consent m).1.Alike (s'.receive consent' m').1 ∧
      (s.receive consent m).2.map (·.reduced m.method) =
        (s'.receive consent' m').2.map (·.reduced m'.method) := by
  by_cases hexited : s.phase = .exited
  · rw [receive_exited hexited, receive_exited (h.phase ▸ hexited)]
    exact ⟨h, rfl⟩
  obtain ⟨next, reaction, hreceive, hhears, hphase⟩ := receive_spec hexited consent m
  obtain ⟨next', reaction', hreceive', hhears', hphase'⟩ :=
    receive_spec (h.phase ▸ hexited) consent' m'
  have hphases : next.phase = next'.phase := by
    rw [hphase, hphase', ← h.phase, hm.phaseAfter_eq s.phase consent consent']
  have halike := hm.event?_alike s.phase consent consent'
  rw [← h.phase] at hhears'
  rw [hreceive, hreceive']
  generalize hevent : m.event? s.phase consent = event at halike hhears
  generalize hevent' : m'.event? s.phase consent' = event' at halike hhears'
  cases halike with
  | none =>
    -- Nothing is heard, so both are turned down for the phase alone.
    have hunheard := receive_unheard h.phase hm hevent hevent'
    rw [hreceive, hreceive'] at hunheard
    obtain rfl := Option.some.inj hunheard
    refine ⟨⟨hphases, ?_⟩, ?_⟩
    · rw [hhears.1, hhears'.1]
      exact h.server
    · rw [hm.method_eq]
  | some he =>
    obtain ⟨hserver, hreaction⟩ := h.perform hm he hevent
    obtain ⟨hnext, rfl⟩ := hhears
    obtain ⟨hnext', rfl⟩ := hhears'
    refine ⟨⟨hphases, ?_⟩, congrArg some hreaction⟩
    rw [hnext, hnext']
    exact hserver

theorem Alike.shown {ms ms' : List (Consent × Message)} (h : s.Alike s')
    (hms : List.Forall₂ (fun x x' => x.2.Corresponds x'.2) ms ms') :
    s.shown ms = s'.shown ms' := by
  induction hms generalizing s s' with
  | nil => rfl
  | cons hm _ ih =>
    obtain ⟨halike, hreaction⟩ := h.receive hm
    unfold Session.shown
    rw [hreaction, ih halike]

/-- Two sessions with the same messages, but for what the introductions declare and for what the
clients say to a registration, show the same. A registration is sent exactly when a client is
greeted that wants one, and comes before the greeting. -/
theorem support_is_confined (v : Vocabulary) :
    (∀ ms ms', List.Forall₂ (fun x x' => x.2.Corresponds x'.2) ms ms' →
      (start v).shown ms = (start v).shown ms') ∧
    ∀ ms consent m,
      let s := (start v).after ms
      (m.GreetsIn s.phase → (start v).WantsRegistration ms →
        ∃ id, s.sentAt consent m = [.register id, hello]) ∧
      (m.GreetsIn s.phase → ¬ (start v).WantsRegistration ms → s.sentAt consent m = [hello]) ∧
      (¬ m.GreetsIn s.phase → ∀ id, .register id ∉ s.sentAt consent m) := by
  have hstart : (start v).Alike (start v) := ⟨rfl, rfl, rfl⟩
  refine ⟨fun ms ms' hms => hstart.shown hms, ?_⟩
  intro ms consent m s
  have hknows := (knows_after v ms).configuration
  refine ⟨?_, ?_, fun hgreets id => not_register_mem_sentAt hgreets id⟩
  · intro hgreets hwants
    exact ⟨_, (sentAt_of_greetsIn hgreets).trans (if_pos (hknows.mpr hwants))⟩
  · intro hgreets hwants
    exact (sentAt_of_greetsIn hgreets).trans (if_neg (mt hknows.mp hwants))

/-- A client says what it supports, is ready, and opens a document with an open brace. -/
def threeMessages (declared : List (String × Json)) (consent : Consent) :
    List (Consent × Message) :=
  let capabilities := Json.obj [("workspace", .obj declared)]
  let document := Json.obj [("uri", .str "untitled:a"), ("languageId", .str "nexus"),
    ("version", .int 1), ("text", .str "\x7b")]
  [(consent, ⟨"initialize", some (.obj [("capabilities", capabilities)]), some (.int 1)⟩),
    (consent, ⟨"initialized", some (.obj []), none⟩),
    (consent, ⟨"textDocument/didOpen", some (.obj [("textDocument", document)]), none⟩)]

theorem support_is_confined_two_clients :
    let declared := [("configuration", .bool true), ("workspaceFolders", .bool true)]
    let full := threeMessages declared .refused
    let bare := threeMessages [] .granted
    let ready : Message := ⟨"initialized", some (.obj []), none⟩
    let shutdown : Message := ⟨"shutdown", none, some (.int 2)⟩
    let s := start .standard
    s.shown full = s.shown bare ∧
      (∃ id, (s.after (full.take 1)).sentAt .refused ready = [.register id, hello]) ∧
      (s.after (bare.take 1)).sentAt .granted ready = [hello] ∧
      ∀ id, .register id ∉ (s.after full).sentAt .granted shutdown := by
  intro declared full bare ready shutdown s
  obtain ⟨hshown, hsent⟩ := support_is_confined .standard
  have hcorrespond : List.Forall₂ (fun x x' => x.2.Corresponds x'.2) full bare :=
    .cons (.introductions rfl rfl rfl ⟨⟨true, true⟩, rfl⟩ ⟨⟨false, false⟩, rfl⟩)
      (.cons (.same _) (.cons (.same _) .nil))
  have hfull : s.WantsRegistration (full.take 1) :=
    ⟨_, ⟨[], _, _, [], rfl, rfl, rfl, _, _, _, rfl, rfl⟩, _, _, _, rfl, rfl, rfl, rfl⟩
  have hbare : ¬ s.WantsRegistration (bare.take 1) := fun hwants =>
    Bool.false_ne_true ((knows_after .standard (bare.take 1)).configuration.mpr hwants)
  refine ⟨hshown full bare hcorrespond, ?_, ?_, ?_⟩
  · exact (hsent (full.take 1) .refused ready).1 ⟨rfl, rfl, rfl, _, rfl, rfl⟩ hfull
  · exact (hsent (bare.take 1) .granted ready).2.1 ⟨rfl, rfl, rfl, _, rfl, rfl⟩ hbare
  · refine (hsent full .granted _).2.2 ?_
    intro hgreets
    exact absurd hgreets.name (by decide)

end Session

end LanguageServer
