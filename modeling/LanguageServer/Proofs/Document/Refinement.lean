import LanguageServer.Proofs.Document.Buffer

/-! # The store follows the editor

An edit between two places of the editor's buffer does to the text in the store what it does to the
buffer (`ofText_apply`). So the two stay in step over any batches of such edits
(`updateAll_follows_buffer`). -/

namespace LanguageServer

namespace Buffer

open Text

/-- The editor's buffer after an edit. -/
def edit (b : Buffer) (e : Edit) : Buffer :=
  match e.range with
  | none => ofText e.text
  | some r => b.replace r e.text

/-- An edit of the whole text, or between two positions that the buffer has. -/
def Admits (b : Buffer) (e : Edit) : Prop :=
  ∀ r ∈ e.range, b.Has r.start ∧ b.Has r.stop ∧ r.start ≤ r.stop

/-- Each of the edits is admitted by the buffer that those before it left. -/
def AdmitsAll (b : Buffer) : List Edit → Prop
  | [] => True
  | e :: es => b.Admits e ∧ (b.edit e).AdmitsAll es

instance (b : Buffer) (p : Position) : Decidable (b.Has p) :=
  inferInstanceAs (Decidable (∃ line, line ∈ b[p.line]? ∧ _))

instance (b : Buffer) (e : Edit) : Decidable (b.Admits e) :=
  inferInstanceAs (Decidable (∀ r ∈ e.range, _))

instance decidableAdmitsAll (b : Buffer) : (es : List Edit) → Decidable (b.AdmitsAll es)
  | [] => isTrue trivial
  | e :: es =>
    have := decidableAdmitsAll (b.edit e) es
    inferInstanceAs (Decidable (b.Admits e ∧ (b.edit e).AdmitsAll es))

theorem ofText_apply {t : Text} {e : Edit} (h : (ofText t).Admits e) :
    ofText (e.apply t) = (ofText t).edit e := by
  unfold Edit.apply edit
  cases hr : e.range with
  | none => rfl
  | some r =>
    obtain ⟨hstart, hstop, hle⟩ := h r hr
    obtain ⟨a, b, hcut⟩ := exists_cut hstart
    obtain ⟨a', b', hcut'⟩ := exists_cut hstop
    have horder : byteSize a ≤ byteSize a' := by
      rw [← hcut.offsetAt_eq, ← hcut'.offsetAt_eq]
      exact offsetAt_mono t hle
    have htake : takeBytes (byteSize a) t = a := by rw [hcut.text_eq, takeBytes_append]
    have hdrop : dropBytes (byteSize a') t = b' := by rw [hcut'.text_eq, dropBytes_append]
    simp only [hcut.offsetAt_eq, hcut'.offsetAt_eq, Nat.max_eq_right horder, htake, hdrop]
    rw [ofText_append, ofText_append, replace, hcut.before_eq, hcut'.behind_eq]

theorem ofText_foldl_edit {d : Document} {es : List Edit} (h : (ofText d.text).AdmitsAll es) :
    ofText (es.foldl Document.edit d).text = es.foldl edit (ofText d.text) := by
  induction es generalizing d with
  | nil => rfl
  | cons e es ih =>
    obtain ⟨hadmits, hrest⟩ := h
    have hedit : ofText (d.edit e).text = (ofText d.text).edit e := ofText_apply hadmits
    rw [List.foldl_cons, List.foldl_cons, ← hedit]
    rw [← hedit] at hrest
    exact ih hrest

end Buffer

namespace Document

/-- The document after batches of edits, each with its version. -/
def updateAll (d : Document) (batches : List (List Edit × Int)) : Document :=
  batches.foldl (fun d batch => d.update batch.1 batch.2) d

theorem updateAll_cons (d : Document) (batch : List Edit × Int)
    (batches : List (List Edit × Int)) :
    d.updateAll (batch :: batches) = (d.update batch.1 batch.2).updateAll batches := rfl

theorem text_foldl_edit {d d' : Document} (h : d.text = d'.text) (es : List Edit) :
    (es.foldl edit d).text = (es.foldl edit d').text := by
  induction es generalizing d d' with
  | nil => exact h
  | cons e es ih => exact ih (congrArg e.apply h)

theorem text_updateAll (d : Document) (batches : List (List Edit × Int)) :
    (d.updateAll batches).text = ((batches.flatMap Prod.fst).foldl edit d).text := by
  induction batches generalizing d with
  | nil => rfl
  | cons batch batches ih =>
    rw [updateAll_cons, ih, List.flatMap_cons, List.foldl_append]
    have htext : (d.update batch.1 batch.2).text = (batch.1.foldl edit d).text := rfl
    exact text_foldl_edit htext _

theorem version_updateAll (d : Document) (batches : List (List Edit × Int)) :
    (d.updateAll batches).version = (batches.getLast?.map Prod.snd).getD d.version := by
  induction batches using List.reverseRecOn with
  | nil => rfl
  | append_singleton batches batch ih =>
    unfold updateAll
    rw [List.foldl_append, List.getLast?_concat]
    rfl

/-- As long as every edit is of the whole text or between two places of the editor's buffer, the
text in the store is the one text in the buffer, and the version is that of the last batch. -/
theorem updateAll_follows_buffer (d : Document) (batches : List (List Edit × Int))
    (h : (Buffer.ofText d.text).AdmitsAll (batches.flatMap Prod.fst)) :
    (∀ t, Buffer.ofText t =
        (batches.flatMap Prod.fst).foldl Buffer.edit (Buffer.ofText d.text) ↔
      t = (d.updateAll batches).text) ∧
    (d.updateAll batches).version = (batches.getLast?.map Prod.snd).getD d.version := by
  have hfollows := Buffer.ofText_foldl_edit h
  rw [← text_updateAll] at hfollows
  refine ⟨?_, version_updateAll d batches⟩
  intro t
  rw [← hfollows]
  constructor
  · exact Buffer.ofText_inj
  · rintro rfl
    rfl

/-- Joins two lines behind a pair of units, then writes at a column that the line did not have. -/
def joiningBatches : List (List Edit × Int) :=
  [([⟨some ⟨⟨0, 3, by decide⟩, ⟨1, 0, by decide⟩⟩, ['é']⟩], 2),
    ([⟨some ⟨⟨0, 5, by decide⟩, ⟨0, 5, by decide⟩⟩, ['\n', '{']⟩], 3)]

theorem updateAll_follows_buffer_joined_lines :
    (Buffer.ofText ['a', '😀', 'b', '\n', 'c']).AdmitsAll (joiningBatches.flatMap Prod.fst) ∧
      ∀ t, Buffer.ofText t = [[97, 0xD83D, 0xDE00, 233, 99], [123]] ↔
        t = ['a', '😀', 'é', 'c', '\n', '{'] := by
  have hadmits : (Buffer.ofText ['a', '😀', 'b', '\n', 'c']).AdmitsAll
      (joiningBatches.flatMap Prod.fst) := by decide
  have hbuffer : (joiningBatches.flatMap Prod.fst).foldl Buffer.edit
      (Buffer.ofText ['a', '😀', 'b', '\n', 'c']) =
        [[97, 0xD83D, 0xDE00, 233, 99], [123]] := by decide
  have htext : (updateAll ⟨['a', '😀', 'b', '\n', 'c'], 1⟩ joiningBatches).text =
      ['a', '😀', 'é', 'c', '\n', '{'] := by decide
  have hfollows := updateAll_follows_buffer ⟨['a', '😀', 'b', '\n', 'c'], 1⟩ joiningBatches hadmits
  rw [hbuffer, htext] at hfollows
  exact ⟨hadmits, hfollows.1⟩

end Document

end LanguageServer
