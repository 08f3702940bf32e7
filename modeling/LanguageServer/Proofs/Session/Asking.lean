import LanguageServer.Proofs.Session.Hearing

/-! # Asking for tokens

The answer to a request for tokens is made from the messages about that one document. Messages
about other documents, and all that are about none, can be left out of a session
(`Message.IsForeign`), and the answer is the one of a replay of the document by itself
(`Session.tokens_by_replay`). -/

namespace LanguageServer

/-! ## What has nothing to do with a document -/

def Event.uri? : Event → Option Uri
  | .opened u _ _ | .changed u _ _ | .closed u | .tokens u => some u
  | _ => none

theorem Event.touches_of_uri? {e : Event} {u w : Uri} (h : e.uri? = some w) (hne : w ≠ u) :
    e.touches u = false := by
  cases e with
  | opened => cases h; exact decide_eq_false hne
  | changed => cases h; exact decide_eq_false hne
  | closed => cases h; exact decide_eq_false hne
  | _ => rfl

/-- Methods that say nothing about any document and do not move the session on: the greeting, the
settings and folders of the client, completions, and what is not handled. -/
def Method.isAside : Method → Bool
  | .ready | .configurationChanged | .foldersChanged | .completion | .resolve => true
  | .cancel | .unheeded | .unanswered _ => true
  | _ => false

/-- Methods that may change the phase of a session. -/
def Method.movesOn : Method → Bool
  | .introduction | .shutdown | .exit => true
  | _ => false

theorem Method.not_movesOn_of_isAside {method : Method} (h : method.isAside) :
    method.movesOn = false := by
  cases method with
  | introduction => cases h
  | shutdown => cases h
  | exit => cases h
  | _ => rfl

theorem Event.eq_of_shaped? {shape : Shape} {e e' : Event} {params : Option Json}
    (h : params.bind (shaped? shape e) = some e') : e' = e := by
  obtain ⟨j, -, h⟩ := Option.bind_eq_some_iff.mp h
  unfold shaped? at h
  split_ifs at h
  exact (Option.some.inj h).symm

theorem Method.touches_of_isAside {method : Method} {consent : Consent} {params : Option Json}
    {e : Event} (h : method.isAside) (hread : Event.read? consent method params = some e)
    (u : Uri) : e.touches u = false := by
  cases method with
  | ready => rw [Event.eq_of_shaped? hread]; rfl
  | configurationChanged => rw [Event.eq_of_shaped? hread]; rfl
  | foldersChanged => rw [Event.eq_of_shaped? hread]; rfl
  | completion => rw [Event.eq_of_shaped? hread]; rfl
  | resolve =>
    obtain ⟨j, -, hitem⟩ := Option.bind_eq_some_iff.mp hread
    obtain ⟨item, -, rfl⟩ := Option.map_eq_some_iff.mp hitem
    rfl
  | cancel => cases hread
  | unheeded => cases hread
  | unanswered => cases hread
  | _ => cases h

namespace Message

/-- A message that is not about the document at an address. -/
inductive IsForeign (u : Uri) (consent : Consent) (m : Message) : Prop where
  /-- It is about another document. -/
  | elsewhere {method : Method} {e : Event} {w : Uri}
    (hname : Method.ofName? m.method = some method) (hread : m.read? consent method = some e)
    (huri : e.uri? = some w) (hne : w ≠ u)
  /-- It is about no document. -/
  | aside {method : Method} (hname : Method.ofName? m.method = some method)
    (haside : method.isAside)
  /-- The protocol does not know it. -/
  | unknown (hname : Method.ofName? m.method = none)

variable {u : Uri} {consent : Consent} {m : Message}

theorem event?_of_read? {method : Method} {phase : Phase} {e : Event}
    (hname : Method.ofName? m.method = some method) (h : m.event? phase consent = some e) :
    m.read? consent method = some e := by
  unfold event? at h
  rw [hname] at h
  exact (Option.ite_none_right_eq_some.mp h).2

theorem phaseAfter_of_not_movesOn
    (h : ∀ method, Method.ofName? m.method = some method → method.movesOn = false)
    (phase : Phase) : m.phaseAfter phase consent = phase := by
  unfold phaseAfter
  by_cases hexited : phase = .exited
  · rw [if_pos hexited, hexited]
  rw [if_neg hexited]
  cases hname : Method.ofName? m.method with
  | none => rfl
  | some method =>
    have hmethod := h method hname
    cases method with
    | introduction => cases hmethod
    | shutdown => cases hmethod
    | exit => cases hmethod
    | _ => rfl

theorem IsForeign.touches (h : m.IsForeign u consent) {phase : Phase} {e : Event}
    (hevent : m.event? phase consent = some e) : e.touches u = false := by
  cases h with
  | elsewhere hname hread huri hne =>
    cases hread.symm.trans (event?_of_read? hname hevent)
    exact Event.touches_of_uri? huri hne
  | aside hname haside =>
    have hread := event?_of_read? hname hevent
    unfold read? at hread
    split_ifs at hread
    exact Method.touches_of_isAside haside hread u
  | unknown hname =>
    unfold event? at hevent
    rw [hname] at hevent
    cases hevent

theorem not_movesOn_of_read? {method : Method} {e : Event} {w : Uri}
    (hread : m.read? consent method = some e) (huri : e.uri? = some w) :
    method.movesOn = false := by
  cases method with
  | introduction =>
    obtain ⟨⟨support, rfl⟩, -⟩ := Session.introduction_of_read? hread
    cases huri
  | shutdown =>
    have hshutdown : e = .shutdown := by
      unfold read? at hread
      split_ifs at hread
      exact (Option.some.inj (Option.ite_none_right_eq_some.mp hread).2).symm
    rw [hshutdown] at huri
    cases huri
  | exit =>
    unfold read? at hread
    split_ifs at hread
    cases hread
  | _ => rfl

theorem IsForeign.phaseAfter (h : m.IsForeign u consent) (phase : Phase) :
    m.phaseAfter phase consent = phase := by
  refine phaseAfter_of_not_movesOn (fun method hmethod => ?_) phase
  cases h with
  | elsewhere hname hread huri _ =>
    cases hname.symm.trans hmethod
    exact not_movesOn_of_read? hread huri
  | aside hname haside =>
    cases hname.symm.trans hmethod
    exact Method.not_movesOn_of_isAside haside
  | unknown hname => cases hname.symm.trans hmethod

theorem events_filter {ms : List (Consent × Message)} {keep : Consent × Message → Bool}
    (h : ∀ x ∈ ms, keep x = false → x.2.IsForeign u x.1) (phase : Phase) :
    phaseAfterAll phase (ms.filter keep) = phaseAfterAll phase ms ∧
      (events phase (ms.filter keep)).filter (Event.touches u) =
        (events phase ms).filter (Event.touches u) := by
  induction ms generalizing phase with
  | nil => exact ⟨rfl, rfl⟩
  | cons x ms ih =>
    obtain ⟨consent, m⟩ := x
    obtain ⟨hx, hrest⟩ := List.forall_mem_cons.mp h
    obtain ⟨hphase, hevents⟩ := ih hrest (m.phaseAfter phase consent)
    cases hkeep : keep (consent, m) with
    | true =>
      rw [List.filter_cons_of_pos hkeep, events, events, List.filter_append, List.filter_append,
        hevents]
      exact ⟨hphase, rfl⟩
    | false =>
      -- A foreign message moves no phase on, and its event is not about `u`.
      have hforeign := hx hkeep
      have hnone : (m.event? phase consent).toList.filter (Event.touches u) = [] := by
        rw [List.filter_eq_nil_iff]
        intro e he
        rw [hforeign.touches (Option.mem_toList.mp he)]
        exact Bool.false_ne_true
      rw [List.filter_cons_of_neg (by rw [hkeep]; exact Bool.false_ne_true), events,
        List.filter_append, hnone, List.nil_append, phaseAfterAll, ← hevents, ← hphase,
        hforeign.phaseAfter]
      exact ⟨rfl, rfl⟩

/-- A request for the tokens of the document at an address. -/
structure AsksTokens (u : Uri) (id : Json) (m : Message) : Prop where
  method : m.method = "textDocument/semanticTokens/full"
  id : m.id = some id
  params : m.params.bind Event.tokens? = some (.tokens u)

end Message

namespace Session

/-- A request for tokens is answered with these words. Nothing else is sent, and the session stays
as it is. -/
def AnswersTokens (s : Session) (m : Message) (id : Json) (words : List Nat) : Prop :=
  ∀ consent, s.receive consent m =
    (s, some ⟨some ⟨id, .ok (.obj [("data", .arr (words.map .nat))])⟩, []⟩)

theorem answersTokens {s : Session} {m : Message} {u : Uri} {id : Json}
    (hrunning : s.phase = .running) (h : m.AsksTokens u id) :
    s.AnswersTokens m id
      (semanticTokens s.server.vocabulary ((s.server.documents.get? u).map (·.text))).words := by
  intro consent
  obtain ⟨hmethod, hid, hparams⟩ := h
  have hname : Method.ofName? m.method = some .tokens := by rw [hmethod]; rfl
  have hevent : Event.read? consent .tokens m.params = some (.tokens u) := hparams
  have hdeliver : s.deliver consent m .tokens = s.perform m (.tokens u) := by
    simp only [deliver, Method.isRequest, hid, hevent]
    rfl
  have hdispatch : s.dispatch consent m .tokens = s.perform m (.tokens u) :=
    (if_pos hrunning).trans hdeliver
  have hopen : s.phase ≠ .exited := by rw [hrunning]; exact Phase.noConfusion
  unfold receive
  rw [if_neg hopen, hname]
  simp only [hdispatch, perform, hid]
  rfl

theorem document_after (v : Vocabulary) (ms : List (Consent × Message)) (u : Uri) :
    ((start v).after ms).server.vocabulary = v ∧
      ((start v).after ms).server.documents.get? u =
        ((Message.events .fresh ms).filter (Event.touches u)).foldl (Event.replay u) none := by
  obtain ⟨hserver, -⟩ := server_after (start v) ms
  rw [hserver, Server.vocabulary_run, Server.get?_run, replay_filter_touches]
  exact ⟨rfl, rfl⟩

theorem answersTokens_after {v : Vocabulary} {ms : List (Consent × Message)} {u : Uri}
    {m : Message} {id : Json} (h : m.AsksTokens u id)
    (hrunning : ((start v).after ms).phase = .running) {d : Option Document}
    (hd : ((Message.events .fresh ms).filter (Event.touches u)).foldl (Event.replay u) none = d) :
    ((start v).after ms).AnswersTokens m id (semanticTokens v (d.map (·.text))).words := by
  obtain ⟨hvocabulary, hdocument⟩ := document_after v ms u
  have hanswer := answersTokens hrunning h
  rw [hvocabulary, hdocument, hd] at hanswer
  exact hanswer

/-- A running session answers a request for tokens from a replay of that document alone. The answer
is made from the text of the last opening under the batches that came since, and is empty if there
is no opening or a closing came since. It is the same in all sessions that heard the same of the
document, and so it is if messages about other things are left out. -/
theorem tokens_by_replay (v : Vocabulary) (ms : List (Consent × Message)) (u : Uri) (ask : Message)
    (id : Json) (hrunning : ((start v).after ms).phase = .running) (hask : ask.AsksTokens u id) :
    let s := (start v).after ms
    let heard := Message.events .fresh ms
    (∀ text later, IsOpen u heard text later → s.AnswersTokens ask id
      (flatten (encodeDocument v ((Event.batches u later).foldl Text.edited text)))) ∧
    (IsShut u heard → s.AnswersTokens ask id []) ∧
    ((∃ text later, IsOpen u heard text later) ∨ IsShut u heard) ∧
    (∀ ms', ((start v).after ms').phase = .running →
      (Message.events .fresh ms').filter (Event.touches u) = heard.filter (Event.touches u) →
      ∀ consent, (((start v).after ms').receive consent ask).2 = (s.receive consent ask).2) ∧
    ∀ keep : Consent × Message → Bool,
      (∀ x ∈ ms, keep x = false → x.2.IsForeign u x.1) →
      ∀ consent, (((start v).after (ms.filter keep)).receive consent ask).2 =
        (s.receive consent ask).2 := by
  intro s heard
  have hsame : ∀ ms', ((start v).after ms').phase = .running →
      (Message.events .fresh ms').filter (Event.touches u) = heard.filter (Event.touches u) →
      ∀ consent, (((start v).after ms').receive consent ask).2 = (s.receive consent ask).2 := by
    intro ms' hrunning' hheard consent
    rw [answersTokens_after hask hrunning rfl consent,
      answersTokens_after hask hrunning' (congrArg _ hheard) consent]
  refine ⟨?_, ?_, isOpen_or_isShut u heard, hsame, ?_⟩
  · intro text later hopen
    obtain ⟨d, hd, htext⟩ := replay_of_isOpen hopen none
    have hanswer :=
      answersTokens_after hask hrunning ((replay_filter_touches u heard none).trans hd)
    rw [Option.map_some, words_semanticTokens, htext] at hanswer
    exact hanswer
  · intro hshut
    exact answersTokens_after hask hrunning
      ((replay_filter_touches u heard none).trans (replay_of_isShut hshut))
  · intro keep hkeep
    obtain ⟨hphase, hevents⟩ := Message.events_filter hkeep .fresh
    refine hsame (ms.filter keep) ?_ hevents
    rw [phase_after] at hrunning ⊢
    exact hphase.trans hrunning

def untitled (name : Text) : Uri := ⟨"untitled".toList, none, .opaqueText name, none, none⟩

/-- A document is opened, another one too, and the first is written anew. -/
def twoDocuments : List (Consent × Message) :=
  let document (fields : List (String × Json)) := Json.obj [("textDocument", .obj fields)]
  let about (uri text : String) := document
    [("uri", .str uri), ("languageId", .str "nexus"), ("version", .int 1), ("text", .str text)]
  let rewritten := (document [("uri", .str "untitled:a"), ("version", .int 2)]).extend
    [("contentChanges", .arr [.obj [("text", .str "if")]])]
  [(.granted, ⟨"initialize", some (.obj [("capabilities", .obj [])]), some (.int 1)⟩),
    (.granted, ⟨"textDocument/didOpen", some (about "untitled:a" "x"), none⟩),
    (.granted, ⟨"textDocument/didOpen", some (about "untitled:b" "y"), none⟩),
    (.granted, ⟨"textDocument/didChange", some rewritten, none⟩)]

theorem tokens_by_replay_two_documents :
    let ask : Message := ⟨"textDocument/semanticTokens/full",
      some (.obj [("textDocument", .obj [("uri", .str "untitled:a")])]), some (.int 2)⟩
    let s := (start .standard).after twoDocuments
    s.phase = .running ∧ ask.AsksTokens (untitled ['a']) (.int 2) ∧
      s.AnswersTokens ask (.int 2) (flatten (encodeDocument .standard ['i', 'f'])) := by
  intro ask s
  let a := untitled ['a']
  let b := untitled ['b']
  have hrunning : s.phase = .running := rfl
  have hask : ask.AsksTokens a (.int 2) := ⟨rfl, rfl, rfl⟩
  have hheard : Message.events .fresh twoDocuments =
      [.introduction ⟨false, false⟩, .opened a ['x'] 1, .opened b ['y'] 1,
        .changed a [⟨none, ['i', 'f']⟩] 2] := rfl
  have hopen : IsOpen a (Message.events .fresh twoDocuments) ['x']
      [.opened b ['y'] 1, .changed a [⟨none, ['i', 'f']⟩] 2] := by
    refine ⟨[.introduction ⟨false, false⟩], 1, hheard, ?_⟩
    simp only [List.forall_mem_cons, Event.Opens, Event.opened.injEq]
    refine ⟨⟨?_, Event.noConfusion⟩, ⟨?_, Event.noConfusion⟩, List.forall_mem_nil _⟩
    · rintro ⟨text, version, h, -⟩
      exact absurd h (by decide)
    · rintro ⟨text, version, h⟩
      cases h
  exact ⟨hrunning, hask, (tokens_by_replay .standard twoDocuments a ask (.int 2) hrunning hask).1
    ['x'] _ hopen⟩

end Session

end LanguageServer
