import LanguageServer.Vocabulary.File
import Mathlib.Data.List.Perm.Basic
import Mathlib.Data.List.Dedup

/-! # The entries of vocabulary files

A file becomes a vocabulary if every entry of its symbol sets is one character. Else the first that
is not is at fault (`toVocabulary_spec`). Each set is what its own field gives, so a file that lists
a vocabulary gives it back (`Lists.restored`). -/

namespace LanguageServer

namespace VocabularyFile

def IsCharacter (entry : String) : Prop := ∃ c, entry = String.singleton c

/-- The first entry that is not one character, and the failure that says so. -/
def FirstFault (entries : List (SymbolSet × String)) (failure : StartupFailure) : Prop :=
  ∃ before set entry after, entries = before ++ (set, entry) :: after ∧
    (∀ p ∈ before, IsCharacter p.2) ∧ ¬ IsCharacter entry ∧ failure = .notOneCharacter set entry

/-- The entries of the symbol sets that a file has, operators first. -/
def symbolEntries (f : VocabularyFile) : List (SymbolSet × String) :=
  (f.operators.getD []).map (.operators, ·) ++ (f.punctuation.getD []).map (.punctuation, ·)

/-- A set is what a field gives: its entries without repetitions, and the standard without it. -/
def Gives {α : Type} [DecidableEq α] (write : α → String) (field : Option (List String))
    (standard : List α) (s : OrderedSet α) : Prop :=
  match field with
  | none => s = .ofList standard
  | some entries => s.toList.map write = entries.eraseDups

/-- Each set of a vocabulary is what its own field of a file gives. -/
structure GivesSets (f : VocabularyFile) (v : Vocabulary) : Prop where
  keywords : Gives id f.keywords Vocabulary.standardKeywords v.keywords
  types : Gives id f.types Vocabulary.standardTypes v.types
  builtinFunctions :
    Gives id f.builtinFunctions Vocabulary.standardBuiltinFunctions v.builtinFunctions
  operators : Gives String.singleton f.operators Vocabulary.standardOperators v.operators
  punctuation : Gives String.singleton f.punctuation Vocabulary.standardPunctuation v.punctuation

/-- How a file becomes a vocabulary. -/
structure Converts (f : VocabularyFile) : Prop where
  succeeds_iff : (∃ v, f.toVocabulary = .ok v) ↔ ∀ p ∈ f.symbolEntries, IsCharacter p.2
  sets : ∀ v, f.toVocabulary = .ok v → f.GivesSets v
  fails_iff : ∀ failure, f.toVocabulary = .error failure ↔ FirstFault f.symbolEntries failure

/-- A file lists a vocabulary in full, the words in their order and the characters in any. -/
structure Lists (f : VocabularyFile) (v : Vocabulary) : Prop where
  keywords : f.keywords = some v.keywords.toList
  types : f.types = some v.types.toList
  builtinFunctions : f.builtinFunctions = some v.builtinFunctions.toList
  operators : ∃ cs : List Char,
    cs.Perm v.operators.toList ∧ f.operators = some (cs.map String.singleton)
  punctuation : ∃ cs : List Char,
    cs.Perm v.punctuation.toList ∧ f.punctuation = some (cs.map String.singleton)

/-- Sets with the same members. -/
def SameMembers (s s' : OrderedSet Char) : Prop :=
  (∀ c, s.contains c = s'.contains c) ∧ s.size = s'.size

/-- A vocabulary with the words of another in their order, and the same symbols. -/
structure Restores (v v' : Vocabulary) : Prop where
  keywords : v.keywords = v'.keywords
  types : v.types = v'.types
  builtinFunctions : v.builtinFunctions = v'.builtinFunctions
  operators : SameMembers v.operators v'.operators
  punctuation : SameMembers v.punctuation v'.punctuation

/-! ## Lists without repetitions -/

section EraseDups

variable {α β : Type} [DecidableEq α] [DecidableEq β]

theorem eraseDups_of_nodup {l : List α} (h : l.Nodup) : l.eraseDups = l := by
  induction l with
  | nil => rfl
  | cons a as ih =>
    obtain ⟨ha, has⟩ := List.nodup_cons.mp h
    have hrest : as.filter (fun b => !b == a) = as := by
      rw [List.filter_eq_self]
      intro b hb
      have hne : b ≠ a := fun heq => ha (heq ▸ hb)
      simpa using hne
    rw [List.eraseDups_cons, hrest, ih has]

theorem eraseDups_map {write : α → β} (h : Function.Injective write) (l : List α) :
    (l.map write).eraseDups = l.eraseDups.map write := by
  induction hlength : l.length using Nat.strongRecOn generalizing l with
  | ind n ih =>
    cases l with
    | nil => rfl
    | cons a as =>
      have hrest : (as.map write).filter (fun b => !b == write a) =
          (as.filter fun b => !b == a).map write := by
        rw [List.filter_map]
        congr 1
        apply List.filter_congr
        intro b _
        rw [Bool.eq_iff_iff]
        simp [h.eq_iff]
      have hlt : (as.filter fun b => !b == a).length < n := by
        have hle := List.length_filter_le (fun b => !b == a) as
        rw [List.length_cons] at hlength
        omega
      rw [List.map_cons, List.eraseDups_cons, List.eraseDups_cons, hrest, ih _ hlt _ rfl,
        List.map_cons]

end EraseDups

/-! ## Entries at fault -/

section FirstFault

variable {before entries more : List (SymbolSet × String)} {failure failure' : StartupFailure}

theorem FirstFault.append_right (h : FirstFault entries failure) :
    FirstFault (entries ++ more) failure := by
  obtain ⟨before, set, entry, after, rfl, hbefore, hentry, rfl⟩ := h
  refine ⟨before, set, entry, after ++ more, ?_, hbefore, hentry, rfl⟩
  rw [List.append_assoc, List.cons_append]

theorem FirstFault.append_left (h : FirstFault entries failure)
    (hbefore : ∀ p ∈ before, IsCharacter p.2) : FirstFault (before ++ entries) failure := by
  obtain ⟨between, set, entry, after, rfl, hbetween, hentry, rfl⟩ := h
  refine ⟨before ++ between, set, entry, after, ?_, ?_, hentry, rfl⟩
  · rw [List.append_assoc]
  · intro p hp
    exact (List.mem_append.mp hp).elim (hbefore p) (hbetween p)

theorem FirstFault.cons {p : SymbolSet × String} (hp : IsCharacter p.2)
    (h : FirstFault entries failure) : FirstFault (p :: entries) failure := by
  rw [← List.singleton_append]
  refine h.append_left fun q hq => ?_
  rw [List.mem_singleton.mp hq]
  exact hp

theorem FirstFault.not_forall (h : FirstFault entries failure) :
    ¬ ∀ p ∈ entries, IsCharacter p.2 := by
  obtain ⟨before, set, entry, after, rfl, -, hentry, -⟩ := h
  intro hall
  exact hentry (hall (set, entry) (by simp))

theorem FirstFault.eq (h : FirstFault entries failure) (h' : FirstFault entries failure') :
    failure = failure' := by
  obtain ⟨before, set, entry, after, rfl, hbefore, hentry, rfl⟩ := h
  obtain ⟨before', set', entry', after', hsplit, hbefore', hentry', rfl⟩ := h'
  obtain ⟨between, rfl, hrest⟩ | ⟨between, rfl, hrest⟩ := List.append_eq_append_iff.mp hsplit
  all_goals cases between
  case inl.nil | inr.nil =>
    obtain ⟨hpair, -⟩ := List.cons.inj hrest
    cases hpair
    rfl
  case inl.cons p between =>
    obtain ⟨rfl, -⟩ := List.cons.inj hrest
    exact absurd (hbefore' (set, entry) (by simp)) hentry
  case inr.cons p between =>
    obtain ⟨rfl, -⟩ := List.cons.inj hrest
    exact absurd (hbefore (set', entry') (by simp)) hentry'

end FirstFault

/-! ## One set -/

@[simp] theorem symbol_singleton (set : SymbolSet) (c : Char) :
    symbol set (String.singleton c) = .ok c := by
  rw [symbol, String.toList_singleton]

theorem symbol_of_not_isCharacter {entry : String} (h : ¬ IsCharacter entry) (set : SymbolSet) :
    symbol set entry = .error (.notOneCharacter set entry) := by
  unfold symbol
  split
  · next c hc =>
    refine absurd ⟨c, ?_⟩ h
    rw [← String.toList_inj, hc, String.toList_singleton]
  · rfl

theorem mapM_symbol_spec (set : SymbolSet) (entries : List String) :
    match entries.mapM (symbol set) with
    | .ok cs => entries = cs.map String.singleton
    | .error failure => FirstFault (entries.map (set, ·)) failure := by
  induction entries with
  | nil => rfl
  | cons entry entries ih =>
    rw [List.mapM_cons]
    by_cases hentry : IsCharacter entry
    · obtain ⟨c, rfl⟩ := hentry
      rw [symbol_singleton]
      cases hrest : entries.mapM (symbol set) with
      | ok cs =>
        rw [hrest] at ih
        simp only [bind, Except.bind, pure, Except.pure, List.map_cons]
        rw [← ih]
      | error failure =>
        rw [hrest] at ih
        simp only [bind, Except.bind, List.map_cons]
        exact ih.cons ⟨c, rfl⟩
    · rw [symbol_of_not_isCharacter hentry]
      exact ⟨[], set, entry, _, rfl, by simp, hentry, rfl⟩

theorem singleton_injective : Function.Injective String.singleton := by
  intro c c' h
  have htext := congrArg String.toList h
  rw [String.toList_singleton, String.toList_singleton] at htext
  exact (List.cons.inj htext).1

theorem gives_wordSet (words : Option (List String)) (standard : List String) :
    Gives id words standard (wordSet words standard) := by
  cases words with
  | none => rfl
  | some words => exact (List.map_id _).trans (OrderedSet.toList_ofList words)

theorem symbolSet_spec (set : SymbolSet) (field : Option (List String)) (standard : List Char) :
    match symbolSet set field standard with
    | .ok s => Gives String.singleton field standard s ∧
        ∀ p ∈ (field.getD []).map (set, ·), IsCharacter p.2
    | .error failure => FirstFault ((field.getD []).map (set, ·)) failure := by
  cases field with
  | none => exact ⟨rfl, by simp⟩
  | some entries =>
    have hspec := mapM_symbol_spec set entries
    simp only [symbolSet]
    cases hsymbols : entries.mapM (symbol set) with
    | error failure =>
      rw [hsymbols] at hspec
      exact hspec
    | ok cs =>
      rw [hsymbols] at hspec
      obtain rfl := hspec
      refine ⟨?_, ?_⟩
      · rw [Gives, OrderedSet.toList_ofList, eraseDups_map singleton_injective]
      · simp [IsCharacter]

/-! ## A whole file -/

theorem toVocabulary_spec (f : VocabularyFile) :
    match f.toVocabulary with
    | .ok v => f.GivesSets v ∧ ∀ p ∈ f.symbolEntries, IsCharacter p.2
    | .error failure => FirstFault f.symbolEntries failure := by
  have hoperators := symbolSet_spec .operators f.operators Vocabulary.standardOperators
  have hpunctuation := symbolSet_spec .punctuation f.punctuation Vocabulary.standardPunctuation
  unfold toVocabulary
  cases hops : symbolSet .operators f.operators Vocabulary.standardOperators with
  | error failure =>
    rw [hops] at hoperators
    exact hoperators.append_right
  | ok operators =>
    rw [hops] at hoperators
    cases hpunct : symbolSet .punctuation f.punctuation Vocabulary.standardPunctuation with
    | error failure =>
      rw [hpunct] at hpunctuation
      exact hpunctuation.append_left hoperators.2
    | ok punctuation =>
      rw [hpunct] at hpunctuation
      constructor
      · exact ⟨gives_wordSet .., gives_wordSet .., gives_wordSet .., hoperators.1, hpunctuation.1⟩
      · intro p hp
        exact (List.mem_append.mp hp).elim (hoperators.2 p) (hpunctuation.2 p)

theorem converts (f : VocabularyFile) : f.Converts := by
  have hspec := f.toVocabulary_spec
  cases hresult : f.toVocabulary with
  | ok v =>
    rw [hresult] at hspec
    constructor
    case succeeds_iff => exact iff_of_true ⟨v, hresult⟩ hspec.2
    case sets =>
      intro v' hv'
      cases hresult.symm.trans hv'
      exact hspec.1
    case fails_iff =>
      intro failure
      refine iff_of_false ?_ fun hfault => hfault.not_forall hspec.2
      rw [hresult]
      nofun
  | error failure =>
    rw [hresult] at hspec
    constructor
    case succeeds_iff =>
      refine iff_of_false ?_ hspec.not_forall
      rintro ⟨v, hv⟩
      cases hresult.symm.trans hv
    case sets =>
      intro v hv
      cases hresult.symm.trans hv
    case fails_iff =>
      intro failure'
      rw [hresult, Except.error.injEq]
      constructor
      · rintro rfl
        exact hspec
      · exact hspec.eq

/-! ## A file that lists a vocabulary -/

theorem ofVocabulary_lists (v : Vocabulary) : (ofVocabulary v).Lists v where
  keywords := rfl
  types := rfl
  builtinFunctions := rfl
  operators := ⟨v.operators.toList, .rfl, rfl⟩
  punctuation := ⟨v.punctuation.toList, .rfl, rfl⟩

theorem Gives.eq_of_words {standard : List String} {s s' : OrderedSet String}
    (h : Gives id (some s'.toList) standard s) : s = s' := by
  rw [Gives, List.map_id, eraseDups_of_nodup s'.nodup] at h
  exact OrderedSet.ext h

theorem Gives.sameMembers {standard cs : List Char} {s s' : OrderedSet Char}
    (h : Gives String.singleton (some (cs.map String.singleton)) standard s)
    (hcs : cs.Perm s'.toList) : SameMembers s s' := by
  have hnodup : cs.Nodup := hcs.nodup_iff.mpr s'.nodup
  rw [Gives, eraseDups_map singleton_injective, eraseDups_of_nodup hnodup] at h
  have hlist : s.toList = cs := singleton_injective.list_map h
  constructor
  · intro c
    rw [Bool.eq_iff_iff, OrderedSet.contains_iff, OrderedSet.contains_iff, hlist, hcs.mem_iff]
  · rw [OrderedSet.size, OrderedSet.size, hlist, hcs.length_eq]

theorem Lists.restored {f : VocabularyFile} {v : Vocabulary} (h : f.Lists v) :
    ∃ v', f.toVocabulary = .ok v' ∧ Restores v' v := by
  obtain ⟨operators, hoperators, hops⟩ := h.operators
  obtain ⟨punctuation, hpunctuation, hpunct⟩ := h.punctuation
  have hall : ∀ p ∈ f.symbolEntries, IsCharacter p.2 := by
    rw [symbolEntries, hops, hpunct]
    intro p hp
    obtain hp | hp := List.mem_append.mp hp
    all_goals
      simp only [Option.getD_some, List.map_map, List.mem_map, Function.comp_apply] at hp
      obtain ⟨c, -, rfl⟩ := hp
      exact ⟨c, rfl⟩
  obtain ⟨v', hv'⟩ := f.converts.succeeds_iff.mpr hall
  have hsets := f.converts.sets v' hv'
  refine ⟨v', hv', ?_⟩
  constructor
  case keywords => exact (h.keywords ▸ hsets.keywords).eq_of_words
  case types => exact (h.types ▸ hsets.types).eq_of_words
  case builtinFunctions => exact (h.builtinFunctions ▸ hsets.builtinFunctions).eq_of_words
  case operators => exact (hops ▸ hsets.operators).sameMembers hoperators
  case punctuation => exact (hpunct ▸ hsets.punctuation).sameMembers hpunctuation

/-- Every file becomes a vocabulary or names the first entry at fault. A vocabulary that is listed
in a file is what the file becomes. -/
theorem toVocabulary_converts : (∀ f : VocabularyFile, f.Converts) ∧
    ∀ v, (ofVocabulary v).Lists v ∧
      ∀ f : VocabularyFile, f.Lists v → ∃ v', f.toVocabulary = .ok v' ∧ Restores v' v :=
  ⟨converts, fun v => ⟨ofVocabulary_lists v, fun _ => Lists.restored⟩⟩

theorem toVocabulary_converts_reversed : ∃ v', toVocabulary { ofVocabulary .standard with
      operators := some (Vocabulary.standard.operators.toList.reverse.map String.singleton) } =
    .ok v' ∧ Restores v' .standard :=
  (toVocabulary_converts.2 .standard).2 _
    { ofVocabulary_lists .standard with operators := ⟨_, List.reverse_perm _, rfl⟩ }

end VocabularyFile

end LanguageServer
