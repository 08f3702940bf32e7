import LanguageServer.Proofs.Session.Asking

/-! # Reports

The client sees the findings in a document as they were last reported. `Server.Turn` is what one
message does to the documents and what is reported of it. From this follows that the last report
about an open document is about its text and version as they are now
(`Session.last_report_is_current`). -/

namespace LanguageServer

/-- The findings and the version that a notice reports of an address. -/
def Notice.report? (u : Uri) : Notice → Option (List Diagnostic × Int)
  | .diagnostics w found version => if w = u then some (found, version) else none
  | _ => none

/-- The last report about an address. -/
def lastReport? (u : Uri) (ns : List Notice) : Option (List Diagnostic × Int) :=
  (ns.filterMap (Notice.report? u)).getLast?

theorem lastReport?_append (u : Uri) (ns ns' : List Notice) :
    lastReport? u (ns ++ ns') = (lastReport? u ns').or (lastReport? u ns) := by
  unfold lastReport?
  rw [List.filterMap_append, List.getLast?_append]

theorem lastReport?_singleton (u w : Uri) (found : List Diagnostic) (version : Int) :
    lastReport? u [.diagnostics w found version] =
      if w = u then some (found, version) else none := by
  by_cases h : w = u <;> simp [lastReport?, Notice.report?, h]

theorem lastReport?_eq_none {u : Uri} {ns : List Notice}
    (h : ∀ found version, .diagnostics u found version ∉ ns) : lastReport? u ns = none := by
  have hnone : ns.filterMap (Notice.report? u) = [] := by
    rw [List.filterMap_eq_nil_iff]
    intro n hn
    cases n with
    | diagnostics w found version =>
      have hne : w ≠ u := by
        rintro rfl
        exact h found version hn
      exact if_neg hne
    | _ => rfl
  rw [lastReport?, hnone, List.getLast?_nil]

namespace Server

/-! ## One message -/

/-- A document is kept, and it alone is reported on, once. All others stay. -/
def Keeps (s s' : Server) (sent : List Notice) (u : Uri) (d : Document) : Prop :=
  sent = [.diagnostics u (braceDiagnostics d.text) d.version] ∧
    s'.documents.get? u = some d ∧ ∀ w ≠ u, s'.documents.get? w = s.documents.get? w

/-- All documents stay, and nothing is reported. -/
def Rests (s s' : Server) (sent : List Notice) : Prop :=
  s'.documents = s.documents ∧ ∀ u found version, .diagnostics u found version ∉ sent

/-- What an event, or none, does to the documents, and what is reported of it. -/
def Turn (s s' : Server) (sent : List Notice) : Option Event → Prop
  | some (.opened u text version) => s.Keeps s' sent u ⟨text, version⟩
  | some (.changed u edits version) =>
    match s.documents.get? u with
    | some d => s.Keeps s' sent u (d.update edits version)
    | none => s.Rests s' sent
  | some (.closed u) =>
    sent = [] ∧ ∀ w, s'.documents.get? w = if w = u then none else s.documents.get? w
  | _ => s.Rests s' sent

theorem keeps_keep (s : Server) (u : Uri) (d : Document) :
    s.Keeps (s.keep u d).server (s.keep u d).sent u d := by
  refine ⟨rfl, ?_, ?_⟩
  · exact (Store.get?_put s.documents u u d).trans (if_pos rfl)
  · intro w hw
    exact (Store.get?_put s.documents u w d).trans (if_neg hw)

theorem rests_of_sent_nil {s s' : Server} (h : s'.documents = s.documents) : s.Rests s' [] :=
  ⟨h, fun _ _ _ => List.not_mem_nil⟩

theorem turn_handle (s : Server) (e : Event) :
    s.Turn (s.handle e).server (s.handle e).sent (some e) := by
  cases e with
  | opened u text version => exact s.keeps_keep u ⟨text, version⟩
  | changed u edits version =>
    simp only [Turn, handle]
    cases s.documents.get? u with
    | some d => exact s.keeps_keep u (d.update edits version)
    | none => exact rests_of_sent_nil rfl
  | closed u => exact ⟨rfl, fun w => Store.get?_remove s.documents u w⟩
  | ready consent =>
    simp only [Turn, handle, greet]
    split <;> exact ⟨rfl, by simp⟩
  | foldersChanged => exact ⟨rfl, by simp [handle]⟩
  | _ => exact rests_of_sent_nil rfl

/-! ## The last report -/

/-- The last report about each open document is about the document as it is. -/
def Reported (s : Server) (ns : List Notice) : Prop :=
  ∀ u d, s.documents.get? u = some d →
    lastReport? u ns = some (braceDiagnostics d.text, d.version)

theorem reported_start (v : Vocabulary) : (start v).Reported [] := by
  intro u d h
  cases h

variable {s s' : Server} {ns sent : List Notice}

theorem Keeps.reported {u : Uri} {d : Document} (h : s.Keeps s' sent u d) (hs : s.Reported ns) :
    s'.Reported (ns ++ sent) := by
  obtain ⟨rfl, hu, hothers⟩ := h
  intro w d' hw
  rw [lastReport?_append, lastReport?_singleton]
  by_cases huw : u = w
  · rw [← huw, hu] at hw
    rw [if_pos huw, Option.some.inj hw]
    rfl
  · rw [hothers w (Ne.symm huw)] at hw
    rw [if_neg huw]
    exact hs w d' hw

theorem Rests.reported (h : s.Rests s' sent) (hs : s.Reported ns) : s'.Reported (ns ++ sent) := by
  obtain ⟨hdocuments, hquiet⟩ := h
  intro w d hw
  rw [hdocuments] at hw
  rw [lastReport?_append, lastReport?_eq_none (hquiet w)]
  exact hs w d hw

theorem Turn.reported {event : Option Event} (h : s.Turn s' sent event) (hs : s.Reported ns) :
    s'.Reported (ns ++ sent) := by
  unfold Turn at h
  split at h
  · exact Keeps.reported h hs
  · split at h
    · exact Keeps.reported h hs
    · exact Rests.reported h hs
  · obtain ⟨rfl, hdocuments⟩ := h
    intro w d hw
    rw [hdocuments] at hw
    rw [List.append_nil]
    exact hs w d (Option.ite_none_left_eq_some.mp hw).2
  · exact Rests.reported h hs

end Server

namespace Session

theorem turn_receive (s : Session) (consent : Consent) (m : Message) :
    s.server.Turn (s.receive consent m).1.server (s.sentAt consent m)
      (m.event? s.phase consent) := by
  obtain ⟨hserver, hsent⟩ := server_receive s consent m
  rw [hserver, hsent]
  cases m.event? s.phase consent with
  | none => exact Server.rests_of_sent_nil rfl
  | some e =>
    have hturn := s.server.turn_handle e
    rw [← List.append_nil (s.server.handle e).sent] at hturn
    exact hturn

theorem reported_after {s : Session} {ns : List Notice} (h : s.server.Reported ns)
    (ms : List (Consent × Message)) : (s.after ms).server.Reported (ns ++ s.sent ms) := by
  induction ms generalizing s ns with
  | nil =>
    rw [sent, List.append_nil]
    exact h
  | cons x ms ih =>
    obtain ⟨consent, m⟩ := x
    rw [sent, ← List.append_assoc]
    exact ih ((turn_receive s consent m).reported h)

/-- In every session the last report about each open document is about its text and version as they
are. A message that opens a document, or changes an open one, has that one document reported, once,
and leaves all others as they are. A closing reports nothing and removes the one document. No
other message reports anything or changes the documents. -/
theorem last_report_is_current (v : Vocabulary) (ms : List (Consent × Message)) :
    let s := (start v).after ms
    (∀ u d, s.server.documents.get? u = some d →
      lastReport? u ((start v).sent ms) = some (braceDiagnostics d.text, d.version)) ∧
    ∀ consent m, s.server.Turn (s.receive consent m).1.server (s.sentAt consent m)
      (m.event? s.phase consent) := by
  intro s
  have hreported : (start v).server.Reported [] := Server.reported_start v
  exact ⟨reported_after hreported ms, turn_receive s⟩

/-- A brace is typed behind the first character of a document. -/
def braceTyped (version : Int) : Message :=
  let place := (Position.origin.right 1).toJson
  let document := Json.obj [("uri", .str "untitled:a"), ("version", .int version)]
  let typed := Json.obj [("range", .obj [("start", place), ("end", place)]), ("text", .str "\x7b")]
  ⟨"textDocument/didChange",
    some (.obj [("textDocument", document), ("contentChanges", .arr [typed])]), none⟩

/-- A document with an open brace is opened, and a second one is typed. -/
def twoBraces : List (Consent × Message) :=
  let document := Json.obj [("uri", .str "untitled:a"), ("languageId", .str "nexus"),
    ("version", .int 1), ("text", .str "\x7b")]
  [(.granted, ⟨"initialize", some (.obj [("capabilities", .obj [])]), some (.int 1)⟩),
    (.granted, ⟨"textDocument/didOpen", some (.obj [("textDocument", document)]), none⟩),
    (.granted, braceTyped 2)]

theorem last_report_is_current_two_braces :
    let s := (start .standard).after twoBraces
    let a := untitled ['a']
    let report (text : Text) := Notice.diagnostics a (braceDiagnostics text)
    s.phase = .running ∧
      (start .standard).sent twoBraces = [report ['{'] 1, report ['{', '{'] 2] ∧
      lastReport? a ((start .standard).sent twoBraces) = some (braceDiagnostics ['{', '{'], 2) ∧
      s.sentAt .granted (braceTyped 3) = [report ['{', '{', '{'] 3] := by
  intro s a report
  obtain ⟨hlast, hturn⟩ := last_report_is_current .standard twoBraces
  have hopen : s.server.documents.get? a = some ⟨['{', '{'], 2⟩ := rfl
  have hevent : (braceTyped 3).event? s.phase .granted =
      some (.changed a [⟨some ⟨Position.origin.right 1, Position.origin.right 1⟩, ['{']⟩] 3) := rfl
  have hthird := hturn .granted (braceTyped 3)
  rw [hevent] at hthird
  have hkeeps : s.server.Keeps _ (s.sentAt .granted (braceTyped 3)) a ⟨['{', '{', '{'], 3⟩ := hthird
  exact ⟨rfl, rfl, hlast a _ hopen, hkeeps.1⟩

end Session

end LanguageServer
