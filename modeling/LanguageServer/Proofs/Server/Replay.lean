import LanguageServer.Server
import Mathlib.Data.List.Induction

/-! # Documents by themselves

What a run of events leaves at one address is what the events of that address leave there
(`get?_run`). An opening counts from the last one on, and a closing ends it, so the text of an open
document is the text of its last opening under the batches that came since (`replay_of_isOpen`). -/

namespace LanguageServer

/-! ## Runs -/

namespace Server

theorem run_cons (s : Server) (e : Event) (es : List Event) :
    s.run (e :: es) =
      (((s.handle e).server.run es).1, s.handle e :: ((s.handle e).server.run es).2) := rfl

theorem run_append (s : Server) (es es' : List Event) :
    s.run (es ++ es') = (((s.run es).1.run es').1, (s.run es).2 ++ ((s.run es).1.run es').2) := by
  induction es generalizing s with
  | nil => rfl
  | cons e es ih => rw [List.cons_append, run_cons, run_cons, ih, List.cons_append]

theorem vocabulary_handle (s : Server) (e : Event) :
    (s.handle e).server.vocabulary = s.vocabulary := by
  cases e with
  | ready consent =>
    simp only [handle, greet]
    split <;> rfl
  | changed uri edits version =>
    simp only [handle]
    split <;> rfl
  | _ => rfl

theorem vocabulary_run (s : Server) (es : List Event) : (s.run es).1.vocabulary = s.vocabulary := by
  induction es generalizing s with
  | nil => rfl
  | cons e es ih => rw [run_cons, ih, vocabulary_handle]

end Server

/-! ## One document -/

/-- What an event makes of the document at an address. -/
def Event.replay (u : Uri) (d : Option Document) : Event → Option Document
  | .opened w text version => if w = u then some ⟨text, version⟩ else d
  | .changed w edits version => if w = u then d.map (·.update edits version) else d
  | .closed w => if w = u then none else d
  | _ => d

theorem Server.get?_handle (s : Server) (e : Event) (u : Uri) :
    (s.handle e).server.documents.get? u = e.replay u (s.documents.get? u) := by
  cases e with
  | opened w text version =>
    simp only [handle, keep, Store.get?_put, Event.replay, eq_comm]
  | changed w edits version =>
    simp only [handle, Event.replay]
    split
    · next d hd =>
      simp only [keep, Store.get?_put, eq_comm]
      split
      · next h => rw [h, hd]; rfl
      · rfl
    · next hd =>
      split
      · next h => rw [← h, hd]; exact hd
      · rfl
  | closed w => simp only [handle, ignore, Store.get?_remove, Event.replay, eq_comm]
  | ready consent =>
    simp only [handle, greet, Event.replay]
    split <;> rfl
  | _ => rfl

/-- The store behaves as if every address were replayed by itself. -/
theorem Server.get?_run (s : Server) (es : List Event) (u : Uri) :
    (s.run es).1.documents.get? u = es.foldl (Event.replay u) (s.documents.get? u) := by
  induction es generalizing s with
  | nil => rfl
  | cons e es ih => rw [run_cons, ih, get?_handle, List.foldl_cons]

def Event.touches (u : Uri) : Event → Bool
  | .opened w _ _ | .changed w _ _ | .closed w => w = u
  | _ => false

theorem Event.replay_of_not_touches {u : Uri} {e : Event} (h : e.touches u = false)
    (d : Option Document) : e.replay u d = d := by
  cases e with
  | opened w text version => exact if_neg (of_decide_eq_false h)
  | changed w edits version => exact if_neg (of_decide_eq_false h)
  | closed w => exact if_neg (of_decide_eq_false h)
  | _ => rfl

theorem replay_filter_touches (u : Uri) (es : List Event) (d : Option Document) :
    (es.filter (Event.touches u)).foldl (Event.replay u) d = es.foldl (Event.replay u) d := by
  induction es generalizing d with
  | nil => rfl
  | cons e es ih =>
    rw [List.filter_cons]
    split
    · rw [List.foldl_cons, List.foldl_cons, ih]
    · next h =>
      rw [List.foldl_cons, ih, Event.replay_of_not_touches (eq_false_of_ne_true h)]

/-! ## Openings, batches and closings -/

/-- The event opens the document at an address. -/
def Event.Opens (u : Uri) (e : Event) : Prop := ∃ text version, e = .opened u text version

/-- The batches of edits that come for an address. -/
def Event.batches (u : Uri) (es : List Event) : List (List Edit) :=
  es.filterMap fun
    | .changed w edits _ => if w = u then some edits else none
    | _ => none

/-- The text after a batch of edits, each in the text that the one before left. -/
def Text.edited (t : Text) (edits : List Edit) : Text := edits.foldl (fun t e => e.apply t) t

/-- The last opening of `u` in `es` has `text`. No closing of `u` comes behind it, but only
`later`. -/
def IsOpen (u : Uri) (es : List Event) (text : Text) (later : List Event) : Prop :=
  ∃ earlier version, es = earlier ++ .opened u text version :: later ∧
    ∀ e ∈ later, ¬e.Opens u ∧ e ≠ .closed u

/-- No opening of `u` comes in `es`, or none behind a closing. -/
def IsShut (u : Uri) (es : List Event) : Prop :=
  (∀ e ∈ es, ¬e.Opens u) ∨ ∃ earlier later, es = earlier ++ .closed u :: later ∧
    ∀ e ∈ later, ¬e.Opens u

@[simp] theorem Document.text_update (d : Document) (edits : List Edit) (version : Int) :
    (d.update edits version).text = d.text.edited edits := by
  change (edits.foldl Document.edit d).text = _
  induction edits generalizing d with
  | nil => rfl
  | cons e edits ih => rw [List.foldl_cons, ih]; rfl

theorem replay_batches {u : Uri} {es : List Event} (h : ∀ e ∈ es, ¬e.Opens u ∧ e ≠ .closed u)
    (d : Document) :
    ∃ d', es.foldl (Event.replay u) (some d) = some d' ∧
      d'.text = (Event.batches u es).foldl Text.edited d.text := by
  induction es generalizing d with
  | nil => exact ⟨d, rfl, rfl⟩
  | cons e es ih =>
    obtain ⟨⟨hopens, hcloses⟩, hrest⟩ := List.forall_mem_cons.mp h
    have hskip (hreplay : e.replay u (some d) = some d)
        (hbatches : Event.batches u (e :: es) = Event.batches u es) :
        ∃ d', (e :: es).foldl (Event.replay u) (some d) = some d' ∧
          d'.text = (Event.batches u (e :: es)).foldl Text.edited d.text := by
      rw [List.foldl_cons, hreplay, hbatches]
      exact ih hrest d
    cases e with
    | opened w text version =>
      have hne : w ≠ u := fun hw => hopens ⟨text, version, by rw [hw]⟩
      exact hskip (if_neg hne) rfl
    | closed w =>
      have hne : w ≠ u := fun hw => hcloses (by rw [hw])
      exact hskip (if_neg hne) rfl
    | changed w edits version =>
      by_cases hw : w = u
      · obtain ⟨d', hrun, htext⟩ := ih hrest (d.update edits version)
        have hreplay : (Event.changed w edits version).replay u (some d) =
            some (d.update edits version) := if_pos hw
        have hbatches : Event.batches u (.changed w edits version :: es) =
            edits :: Event.batches u es := List.filterMap_cons_some (if_pos hw)
        refine ⟨d', by rw [List.foldl_cons, hreplay, hrun], ?_⟩
        rw [htext, hbatches, List.foldl_cons, Document.text_update]
      · exact hskip (if_neg hw) (List.filterMap_cons_none (if_neg hw))
    | _ => exact hskip rfl rfl

theorem replay_none {u : Uri} {es : List Event} (h : ∀ e ∈ es, ¬e.Opens u) :
    es.foldl (Event.replay u) none = none := by
  induction es with
  | nil => rfl
  | cons e es ih =>
    obtain ⟨hopens, hrest⟩ := List.forall_mem_cons.mp h
    have hreplay : e.replay u none = none := by
      cases e with
      | opened w text version => exact if_neg fun hw => hopens ⟨text, version, by rw [hw]⟩
      | changed w edits version => exact ite_self none
      | closed w => exact ite_self none
      | _ => rfl
    rw [List.foldl_cons, hreplay, ih hrest]

theorem replay_of_isOpen {u : Uri} {es later : List Event} {text : Text}
    (h : IsOpen u es text later) (d : Option Document) :
    ∃ d', es.foldl (Event.replay u) d = some d' ∧
      d'.text = (Event.batches u later).foldl Text.edited text := by
  obtain ⟨earlier, version, rfl, hlater⟩ := h
  obtain ⟨d', hrun, htext⟩ := replay_batches hlater ⟨text, version⟩
  refine ⟨d', ?_, htext⟩
  rw [List.foldl_append, List.foldl_cons]
  exact (congrArg (later.foldl (Event.replay u)) (if_pos rfl)).trans hrun

theorem replay_of_isShut {u : Uri} {es : List Event} (h : IsShut u es) :
    es.foldl (Event.replay u) none = none := by
  obtain h | ⟨earlier, later, rfl, hlater⟩ := h
  · exact replay_none h
  · rw [List.foldl_append, List.foldl_cons]
    exact (congrArg (later.foldl (Event.replay u)) (if_pos rfl)).trans (replay_none hlater)

theorem isOpen_or_isShut (u : Uri) (es : List Event) :
    (∃ text later, IsOpen u es text later) ∨ IsShut u es := by
  induction es using List.reverseRecOn with
  | nil => exact .inr (.inl fun _ h => absurd h List.not_mem_nil)
  | append_singleton es e ih =>
    by_cases hopens : e.Opens u
    · obtain ⟨text, version, rfl⟩ := hopens
      exact .inl ⟨text, [], es, version, rfl, fun _ h => absurd h List.not_mem_nil⟩
    by_cases hcloses : e = .closed u
    · exact .inr (.inr ⟨es, [], by rw [hcloses], fun _ h => absurd h List.not_mem_nil⟩)
    -- Any other event leaves open what was open, and shut what was shut.
    obtain ⟨text, later, earlier, version, rfl, hlater⟩ | hnone |
      ⟨earlier, later, rfl, hlater⟩ := ih
    · refine .inl ⟨text, later ++ [e], earlier, version, by simp, ?_⟩
      rw [List.forall_mem_append, List.forall_mem_singleton]
      exact ⟨hlater, hopens, hcloses⟩
    · refine .inr (.inl ?_)
      rw [List.forall_mem_append, List.forall_mem_singleton]
      exact ⟨hnone, hopens⟩
    · refine .inr (.inr ⟨earlier, later ++ [e], by simp, ?_⟩)
      rw [List.forall_mem_append, List.forall_mem_singleton]
      exact ⟨hlater, hopens⟩

end LanguageServer
