import LanguageServer.Completion
import LanguageServer.Proofs.Vocabulary.Entries
import LanguageServer.Scanner
import Mathlib.Data.Finset.Card
import Mathlib.Data.List.Induction

/-! # Members of sets

A set that is made from a list keeps its list and its look-up in step, one member at a time
(`OrderedSet.InStep.insert`). Only the members of a set matter for the tokens of a text, and only
their order for the list of completions, so files with the same entries are as good as each other
(`inStep_and_alike`). -/

namespace LanguageServer

/-- A set lists the members of a list once, in the order in which they first occur, and finds
exactly these. -/
structure OrderedSet.InStep {α : Type} [DecidableEq α] (xs : List α) (s : OrderedSet α) : Prop where
  toList_eq : s.toList = xs.eraseDups
  in_order : s.toList.Pairwise fun x y => xs.idxOf x < xs.idxOf y
  finds_listed : ∀ x, s.contains x = true ↔ x ∈ s.toList
  finds_given : ∀ x, s.contains x = true ↔ x ∈ xs
  size_listed : s.size = s.toList.length
  size_given : s.size = xs.toFinset.card

/-- Two vocabularies with the same members, set by set. -/
structure Vocabulary.Alike (v v' : Vocabulary) : Prop where
  keywords : ∀ w, w ∈ v.keywords.toList ↔ w ∈ v'.keywords.toList
  types : ∀ w, w ∈ v.types.toList ↔ w ∈ v'.types.toList
  builtinFunctions : ∀ w, w ∈ v.builtinFunctions.toList ↔ w ∈ v'.builtinFunctions.toList
  operators : ∀ c, c ∈ v.operators.toList ↔ c ∈ v'.operators.toList
  punctuation : ∀ c, c ∈ v.punctuation.toList ↔ c ∈ v'.punctuation.toList

namespace VocabularyFile

/-- Two fields with the same entries, in any order and any number. A field that is left out has
those of the standard. -/
def SameField (standard : List String) (field field' : Option (List String)) : Prop :=
  ∀ e, e ∈ field.getD standard ↔ e ∈ field'.getD standard

/-- Two files with the same entries, field by field. -/
structure SameEntries (f f' : VocabularyFile) : Prop where
  keywords : SameField Vocabulary.standardKeywords f.keywords f'.keywords
  types : SameField Vocabulary.standardTypes f.types f'.types
  builtinFunctions :
    SameField Vocabulary.standardBuiltinFunctions f.builtinFunctions f'.builtinFunctions
  operators : SameField (Vocabulary.standardOperators.map String.singleton) f.operators f'.operators
  punctuation :
    SameField (Vocabulary.standardPunctuation.map String.singleton) f.punctuation f'.punctuation

end VocabularyFile

/-! ## One set -/

namespace OrderedSet

variable {α : Type} [DecidableEq α] {xs : List α} {s s' : OrderedSet α}

theorem ofList_concat (xs : List α) (x : α) : ofList (xs ++ [x]) = (ofList xs).insert x := by
  unfold ofList
  rw [List.foldl_append]
  rfl

theorem inStep_empty : (empty : OrderedSet α).InStep [] where
  toList_eq := rfl
  in_order := .nil
  finds_listed := contains_iff _
  finds_given := contains_iff _
  size_listed := rfl
  size_given := rfl

theorem pairwise_idxOf_insert (h : s.toList.Pairwise fun x y => xs.idxOf x < xs.idxOf y)
    (hmem : ∀ x, x ∈ s.toList ↔ x ∈ xs) (x : α) :
    (s.insert x).toList.Pairwise fun y z => (xs ++ [x]).idxOf y < (xs ++ [x]).idxOf z := by
  have hold : s.toList.Pairwise fun y z => (xs ++ [x]).idxOf y < (xs ++ [x]).idxOf z := by
    refine h.imp_of_mem ?_
    intro y z hy hz hlt
    rw [List.idxOf_append_of_mem ((hmem y).mp hy), List.idxOf_append_of_mem ((hmem z).mp hz)]
    exact hlt
  rw [toList_insert]
  split
  · exact hold
  · next hx =>
    refine List.pairwise_append.mpr ⟨hold, List.pairwise_singleton _ _, ?_⟩
    intro y hy z hz
    obtain rfl := List.mem_singleton.mp hz
    have hz' : z ∉ xs := fun hz => hx ((hmem z).mpr hz)
    have hy' := (hmem y).mp hy
    rw [List.idxOf_append_of_mem hy', List.idxOf_append_of_notMem hz']
    have hlt := List.idxOf_lt_length_of_mem hy'
    omega

theorem InStep.insert (h : s.InStep xs) (x : α) : (s.insert x).InStep (xs ++ [x]) := by
  have hmem : ∀ y, y ∈ s.toList ↔ y ∈ xs := fun y => (s.contains_iff y).symm.trans (h.finds_given y)
  have hmem' : ∀ y, y ∈ (s.insert x).toList ↔ y ∈ xs ++ [x] := by
    intro y
    rw [mem_insert, hmem, List.mem_append, List.mem_singleton]
  constructor
  case toList_eq =>
    have hs : s = ofList xs := ext (h.toList_eq.trans (toList_ofList xs).symm)
    rw [hs, ← ofList_concat, toList_ofList]
  case in_order => exact pairwise_idxOf_insert h.in_order hmem x
  case finds_listed => exact contains_iff _
  case finds_given =>
    intro y
    rw [contains_iff, hmem']
  case size_listed => rfl
  case size_given =>
    have hsame : (xs ++ [x]).toFinset = (s.insert x).toList.toFinset := by
      ext y
      rw [List.mem_toFinset, List.mem_toFinset, hmem']
    rw [hsame, List.toFinset_card_of_nodup (s.insert x).nodup]
    rfl

theorem inStep_ofList (xs : List α) : (ofList xs).InStep xs := by
  induction xs using List.reverseRecOn with
  | nil => exact inStep_empty
  | append_singleton xs x ih =>
    rw [ofList_concat]
    exact ih.insert x

omit [DecidableEq α] in
theorem contains_eq (h : ∀ x, x ∈ s.toList ↔ x ∈ s'.toList) : s.contains = s'.contains := by
  funext x
  rw [Bool.eq_iff_iff, contains_iff, contains_iff, h]

omit [DecidableEq α] in
theorem toList_perm (h : ∀ x, x ∈ s.toList ↔ x ∈ s'.toList) : s.toList.Perm s'.toList :=
  (List.perm_ext_iff_of_nodup s.nodup s'.nodup).mpr h

end OrderedSet

/-! ## Vocabularies with the same members -/

namespace Vocabulary.Alike

variable {v v' : Vocabulary} (h : v.Alike v')

include h

theorem wordKind_eq (w : String) : v.wordKind w = v'.wordKind w := by
  unfold wordKind
  rw [OrderedSet.contains_eq h.keywords, OrderedSet.contains_eq h.types,
    OrderedSet.contains_eq h.builtinFunctions]

theorem symbolKind?_eq (c : Char) : v.symbolKind? c = v'.symbolKind? c := by
  unfold symbolKind?
  rw [OrderedSet.contains_eq h.operators, OrderedSet.contains_eq h.punctuation]

theorem kind?_eq (l : Lexeme) : l.kind? v = l.kind? v' := by
  unfold Lexeme.kind?
  simp only [h.wordKind_eq, h.symbolKind?_eq]

theorem scan_eq (t : Text) : scan v t = scan v' t := by
  have htoken : Placed.token? v = Placed.token? v' := by
    funext l
    unfold Placed.token?
    rw [h.kind?_eq]
  unfold scan
  rw [htoken]

theorem list_perm : (CompletionItem.list v).Perm (CompletionItem.list v') := by
  have hkeywords := (OrderedSet.toList_perm h.keywords).map (CompletionItem.ofWord .keyword)
  have htypes := (OrderedSet.toList_perm h.types).map (CompletionItem.ofWord .typeParameter)
  have hfunctions :=
    (OrderedSet.toList_perm h.builtinFunctions).map (CompletionItem.ofWord .function)
  exact ((hkeywords.append htypes).append hfunctions).append .rfl

end Vocabulary.Alike

/-! ## Files with the same entries -/

namespace VocabularyFile

variable {f f' : VocabularyFile} {v v' : Vocabulary}

theorem Gives.mem_iff {α : Type} [DecidableEq α] {write : α → String}
    {field : Option (List String)} {standard : List α} {s : OrderedSet α}
    (hwrite : Function.Injective write) (h : Gives write field standard s) (x : α) :
    x ∈ s.toList ↔ write x ∈ field.getD (standard.map write) := by
  unfold Gives at h
  cases field with
  | none =>
    rw [h, OrderedSet.mem_ofList, Option.getD_none]
    exact (List.mem_map_of_injective hwrite).symm
  | some entries =>
    have hentries : s.toList.map write = entries.eraseDups := h
    have hmem : write x ∈ entries ↔ write x ∈ s.toList.map write := by
      rw [hentries, List.mem_eraseDups]
    rw [Option.getD_some, hmem, List.mem_map_of_injective hwrite]

theorem SameField.mem_iff {α : Type} [DecidableEq α] {write : α → String}
    {field field' : Option (List String)} {standard : List α} {s s' : OrderedSet α}
    (hwrite : Function.Injective write) (h : SameField (standard.map write) field field')
    (hs : Gives write field standard s) (hs' : Gives write field' standard s') (x : α) :
    x ∈ s.toList ↔ x ∈ s'.toList := by
  rw [hs.mem_iff hwrite, hs'.mem_iff hwrite]
  exact h (write x)

theorem SameField.mem_iff_of_words {field field' : Option (List String)} {standard : List String}
    {s s' : OrderedSet String} (h : SameField standard field field')
    (hs : Gives id field standard s) (hs' : Gives id field' standard s') (w : String) :
    w ∈ s.toList ↔ w ∈ s'.toList := by
  rw [← List.map_id standard] at h
  exact h.mem_iff Function.injective_id hs hs' w

theorem GivesSets.alike (h : f.SameEntries f') (hv : f.GivesSets v) (hv' : f'.GivesSets v') :
    v.Alike v' where
  keywords := h.keywords.mem_iff_of_words hv.keywords hv'.keywords
  types := h.types.mem_iff_of_words hv.types hv'.types
  builtinFunctions := h.builtinFunctions.mem_iff_of_words hv.builtinFunctions hv'.builtinFunctions
  operators := h.operators.mem_iff singleton_injective hv.operators hv'.operators
  punctuation := h.punctuation.mem_iff singleton_injective hv.punctuation hv'.punctuation

theorem isCharacter_field_iff (set : SymbolSet) (field : Option (List String))
    (standard : List Char) :
    (∀ p ∈ (field.getD []).map (set, ·), IsCharacter p.2) ↔
      ∀ e ∈ field.getD (standard.map String.singleton), IsCharacter e := by
  cases field with
  | none => simp [IsCharacter]
  | some entries => simp

theorem SameField.isCharacter_iff {field field' : Option (List String)} {standard : List Char}
    (h : SameField (standard.map String.singleton) field field') (set : SymbolSet) :
    (∀ p ∈ (field.getD []).map (set, ·), IsCharacter p.2) ↔
      ∀ p ∈ (field'.getD []).map (set, ·), IsCharacter p.2 := by
  rw [isCharacter_field_iff set field standard, isCharacter_field_iff set field' standard]
  exact forall_congr' fun e => imp_congr_left (h e)

theorem SameEntries.succeeds_iff (h : f.SameEntries f') :
    (∃ v, f.toVocabulary = .ok v) ↔ ∃ v', f'.toVocabulary = .ok v' := by
  rw [f.converts.succeeds_iff, f'.converts.succeeds_iff]
  unfold symbolEntries
  rw [List.forall_mem_append, List.forall_mem_append]
  exact and_congr (h.operators.isCharacter_iff _) (h.punctuation.isCharacter_iff _)

/-- A set from a list of words keeps list and look-up in step. So the order and the number of the
entries in a file do not matter for the tokens of any text, nor for which completions there are. -/
theorem inStep_and_alike :
    (∀ words : List String, (OrderedSet.ofList words).InStep words) ∧
      ∀ f f' : VocabularyFile, f.SameEntries f' →
        ((∃ v, f.toVocabulary = .ok v) ↔ ∃ v', f'.toVocabulary = .ok v') ∧
          ∀ v v', f.toVocabulary = .ok v → f'.toVocabulary = .ok v' →
            (∀ t, scan v t = scan v' t) ∧
              (CompletionItem.list v).Perm (CompletionItem.list v') := by
  refine ⟨OrderedSet.inStep_ofList, fun f f' h => ⟨h.succeeds_iff, ?_⟩⟩
  intro v v' hv hv'
  have halike : v.Alike v' := (f.converts.sets v hv).alike h (f'.converts.sets v' hv')
  exact ⟨halike.scan_eq, halike.list_perm⟩

theorem inStep_and_alike_reversed :
    let f : VocabularyFile := { keywords := some ["if", "for", "if"], operators := some ["+"] }
    let f' : VocabularyFile := { keywords := some ["for", "if"], operators := some ["+", "+"] }
    ∃ v v', f.toVocabulary = .ok v ∧ f'.toVocabulary = .ok v' ∧
      v.keywords.toList ≠ v'.keywords.toList ∧ (∀ t, scan v t = scan v' t) ∧
        (CompletionItem.list v).Perm (CompletionItem.list v') := by
  intro f f'
  have hsame : f.SameEntries f' := by
    constructor
    case keywords | operators =>
      intro e
      simp only [f, f', Option.getD_some, List.mem_cons, List.not_mem_nil]
      tauto
    case types | builtinFunctions | punctuation => exact fun _ => .rfl
  exact ⟨_, _, rfl, rfl, by decide, (inStep_and_alike.2 f f' hsame).2 _ _ rfl rfl⟩

end VocabularyFile

end LanguageServer
