import LanguageServer.Completion
import Mathlib.Tactic.SplitIfs

/-! # Listed items and their descriptions

An item is listed for a set of words, but it is described by its data alone, and the first set that
has the data decides. So a listed word keeps the description of its own set unless an earlier set
has it too, and a snippet stays as it is unless its data is a word (`resolve_of_mem_list`). -/

namespace LanguageServer

namespace WordRole

def words (v : Vocabulary) : WordRole → OrderedSet String
  | keyword => v.keywords
  | type => v.types
  | builtinFunction => v.builtinFunctions

def earlier : WordRole → List WordRole
  | keyword => []
  | type => [keyword]
  | builtinFunction => [keyword, type]

def itemKind : WordRole → ItemKind
  | keyword => .keyword
  | type => .typeParameter
  | builtinFunction => .function

/-- A set has a word, and none before it does. -/
def IsFirst (v : Vocabulary) (w : String) (role : WordRole) : Prop :=
  w ∈ (role.words v).toList ∧ ∀ r ∈ role.earlier, w ∉ (r.words v).toList

end WordRole

namespace CompletionItem

/-- An item is described as what it was listed as: a word by its own set, and a snippet not at
all. -/
structure IsDescribedAsListed (v : Vocabulary) (i : CompletionItem) : Prop where
  word : ∀ role : WordRole, i.kind = some role.itemKind → i.resolve v = i.describe role i.label
  snippet : i.kind = some .snippet → i.resolve v = i

/-- An item is described by the first set that has its data. -/
structure IsDescribedByFirst (v : Vocabulary) (i : CompletionItem) : Prop where
  kind : i.kind = some .snippet ∨ ∃ role : WordRole, i.kind = some role.itemKind
  /-- For a listed word the first set is its own or one before it. -/
  word : ∀ role : WordRole, i.kind = some role.itemKind →
    ∃ first : WordRole, first.IsFirst v i.label ∧ (first = role ∨ first ∈ role.earlier) ∧
      i.resolve v = i.describe first i.label
  asListed : ∀ role : WordRole, i.kind = some role.itemKind →
    (i.resolve v = i.describe role i.label ↔ ∀ r ∈ role.earlier, i.label ∉ (r.words v).toList)
  snippet : i.kind = some .snippet → ∃ s ∈ Snippet.all, i = ofSnippet s ∧
    (i.resolve v = i ↔ ∀ role : WordRole, s.data ∉ (role.words v).toList) ∧
    ∀ first : WordRole, first.IsFirst v s.data → i.resolve v = i.describe first s.data

end CompletionItem

/-! ## Sets -/

namespace WordRole

variable {v : Vocabulary} {w : String} {role role' : WordRole}

theorem forall_iff {p : WordRole → Prop} :
    (∀ role, p role) ↔ p keyword ∧ p type ∧ p builtinFunction := by
  constructor
  · intro h
    exact ⟨h keyword, h type, h builtinFunction⟩
  · rintro ⟨hkeyword, htype, hbuiltin⟩ role
    cases role <;> assumption

theorem eq_or_mem_earlier (r r' : WordRole) : r = r' ∨ r ∈ r'.earlier ∨ r' ∈ r.earlier := by
  cases r <;> cases r' <;> simp [earlier]

theorem of?_eq_some_iff : of? v w = some role ↔ role.IsFirst v w := by
  unfold of? IsFirst
  simp only [OrderedSet.contains_iff]
  split_ifs with hkeyword htype hbuiltin <;> cases role <;> simp [words, earlier, *]

theorem of?_eq_none_iff : of? v w = none ↔ ∀ role : WordRole, w ∉ (role.words v).toList := by
  rw [forall_iff]
  unfold of?
  simp only [OrderedSet.contains_iff]
  split_ifs with hkeyword htype hbuiltin <;> simp [words, *]

theorem exists_isFirst (h : w ∈ (role.words v).toList) :
    ∃ first : WordRole, first.IsFirst v w ∧ (first = role ∨ first ∈ role.earlier) := by
  cases hfirst : of? v w with
  | none => exact absurd h (of?_eq_none_iff.mp hfirst role)
  | some first =>
    obtain ⟨hmem, hnone⟩ := of?_eq_some_iff.mp hfirst
    refine ⟨first, ⟨hmem, hnone⟩, ?_⟩
    obtain heq | hbefore | hafter := eq_or_mem_earlier first role
    · exact .inl heq
    · exact .inr hbefore
    · exact absurd h (hnone role hafter)

theorem itemKind_inj (h : role.itemKind = role'.itemKind) : role = role' := by
  cases role <;> cases role' <;> first | rfl | exact absurd h (by decide)

theorem itemKind_ne_snippet (role : WordRole) : role.itemKind ≠ .snippet := by
  cases role <;> decide

theorem detail_inj (h : role.detail = role'.detail) : role = role' := by
  cases role <;> cases role' <;> first | rfl | exact absurd h (by decide)

end WordRole

namespace CompletionItem

/-! ## One item -/

variable {v : Vocabulary} {i : CompletionItem} {w w' : String} {role first : WordRole}

theorem resolve_of_isFirst (hdata : i.data = some (.str w)) (h : first.IsFirst v w) :
    i.resolve v = i.describe first w := by
  unfold resolve
  simp only [hdata, WordRole.of?_eq_some_iff.mpr h]

theorem resolve_of_forall_not_mem (hdata : i.data = some (.str w))
    (h : ∀ role : WordRole, w ∉ (role.words v).toList) : i.resolve v = i := by
  unfold resolve
  simp only [hdata, WordRole.of?_eq_none_iff.mpr h]

theorem describe_inj (h : i.describe role w = i.describe first w') : role = first := by
  have hdetail := congrArg detail h
  exact WordRole.detail_inj (Option.some.inj hdetail)

theorem describe_ne_self (hdetail : i.detail = none) : i.describe role w ≠ i := by
  intro h
  have hsome : (i.describe role w).detail = some role.detail := rfl
  rw [h, hdetail] at hsome
  cases hsome

theorem resolve_eq_describe_iff (hdata : i.data = some (.str w)) (hdetail : i.detail = none) :
    i.resolve v = i.describe role w ↔ role.IsFirst v w := by
  constructor
  · intro h
    cases hof : WordRole.of? v w with
    | none =>
      rw [resolve_of_forall_not_mem hdata (WordRole.of?_eq_none_iff.mp hof)] at h
      exact absurd h.symm (describe_ne_self hdetail)
    | some first =>
      have hfirst := WordRole.of?_eq_some_iff.mp hof
      rw [resolve_of_isFirst hdata hfirst] at h
      obtain rfl := describe_inj h
      exact hfirst
  · exact resolve_of_isFirst hdata

theorem resolve_eq_self_iff (hdata : i.data = some (.str w)) (hdetail : i.detail = none) :
    i.resolve v = i ↔ ∀ role : WordRole, w ∉ (role.words v).toList := by
  constructor
  · intro h role hrole
    obtain ⟨first, hfirst, -⟩ := WordRole.exists_isFirst hrole
    rw [resolve_of_isFirst hdata hfirst] at h
    exact describe_ne_self hdetail h
  · exact resolve_of_forall_not_mem hdata

/-! ## The list -/

theorem mem_list : i ∈ list v ↔
    (∃ role : WordRole, ∃ w ∈ (role.words v).toList, i = ofWord role.itemKind w) ∨
      ∃ s ∈ Snippet.all, i = ofSnippet s := by
  unfold list
  simp only [List.mem_append, List.mem_map, eq_comm (b := i)]
  constructor
  · rintro (((h | h) | h) | h)
    · exact .inl ⟨.keyword, h⟩
    · exact .inl ⟨.type, h⟩
    · exact .inl ⟨.builtinFunction, h⟩
    · exact .inr h
  · rintro (⟨role, h⟩ | h)
    · cases role with
      | keyword => exact .inl (.inl (.inl h))
      | type => exact .inl (.inl (.inr h))
      | builtinFunction => exact .inl (.inr h)
    · exact .inr h

theorem isDescribedByFirst_ofWord (h : w ∈ (role.words v).toList) :
    (ofWord role.itemKind w).IsDescribedByFirst v := by
  have hrole : ∀ {role'}, (ofWord role.itemKind w).kind = some role'.itemKind → role = role' :=
    fun hkind => WordRole.itemKind_inj (Option.some.inj hkind)
  constructor
  case kind => exact .inr ⟨role, rfl⟩
  case word =>
    intro role' hkind
    obtain rfl := hrole hkind
    obtain ⟨first, hfirst, hle⟩ := WordRole.exists_isFirst h
    exact ⟨first, hfirst, hle, resolve_of_isFirst rfl hfirst⟩
  case asListed =>
    intro role' hkind
    obtain rfl := hrole hkind
    rw [resolve_eq_describe_iff rfl rfl]
    exact ⟨fun hfirst => hfirst.2, fun hnone => ⟨h, hnone⟩⟩
  case snippet =>
    intro hkind
    exact absurd (Option.some.inj hkind) role.itemKind_ne_snippet

theorem isDescribedByFirst_ofSnippet {s : Snippet} (h : s ∈ Snippet.all) :
    (ofSnippet s).IsDescribedByFirst v := by
  have hrole : ∀ {role : WordRole}, (ofSnippet s).kind ≠ some role.itemKind :=
    fun hkind => (WordRole.itemKind_ne_snippet _) (Option.some.inj hkind).symm
  constructor
  case kind => exact .inl rfl
  case word => exact fun role hkind => absurd hkind hrole
  case asListed => exact fun role hkind => absurd hkind hrole
  case snippet =>
    intro _
    exact ⟨s, h, rfl, resolve_eq_self_iff rfl rfl, fun first => resolve_of_isFirst rfl⟩

/-- Every listed item is described by the first set that has its data. -/
theorem resolve_of_mem_list (v : Vocabulary) (i : CompletionItem) (h : i ∈ list v) :
    i.IsDescribedByFirst v := by
  obtain ⟨role, w, hw, rfl⟩ | ⟨s, hs, rfl⟩ := mem_list.mp h
  · exact isDescribedByFirst_ofWord hw
  · exact isDescribedByFirst_ofSnippet hs

/-- A keyword that is also a type, and a built-in function with the name of a snippet's data. -/
def overlapping : Vocabulary :=
  { Vocabulary.standard with
    types := .ofList ["class"]
    builtinFunctions := .ofList ["class_snippet"] }

def classSnippet : Snippet := Snippet.all.get ⟨1, by decide⟩

theorem resolve_of_mem_list_overlapping :
    ofWord .typeParameter "class" ∈ list overlapping ∧
      (ofWord .typeParameter "class").IsDescribedByFirst overlapping := by
  have hmem : ofWord .typeParameter "class" ∈ list overlapping :=
    mem_list.mpr (.inl ⟨.type, "class", by decide, rfl⟩)
  exact ⟨hmem, resolve_of_mem_list _ _ hmem⟩

/-- A word may be listed as a type and described as a keyword, and a snippet be described. -/
theorem not_isDescribedAsListed :
    (ofWord .typeParameter "class" ∈ list overlapping ∧
      ¬ (ofWord .typeParameter "class").IsDescribedAsListed overlapping) ∧
    ofSnippet classSnippet ∈ list overlapping ∧
      ¬ (ofSnippet classSnippet).IsDescribedAsListed overlapping := by
  have hkeyword : WordRole.keyword.IsFirst overlapping "class" := ⟨by decide, by decide⟩
  have hfunction : WordRole.builtinFunction.IsFirst overlapping "class_snippet" :=
    ⟨by decide, by decide⟩
  refine ⟨⟨mem_list.mpr (.inl ⟨.type, "class", by decide, rfl⟩), ?_⟩,
    mem_list.mpr (.inr ⟨classSnippet, List.get_mem _ _, rfl⟩), ?_⟩
  · intro h
    have hresolve := h.word .type rfl
    rw [resolve_of_isFirst rfl hkeyword] at hresolve
    cases describe_inj hresolve
  · intro h
    have hresolve := h.snippet rfl
    rw [resolve_of_isFirst rfl hfunction] at hresolve
    exact describe_ne_self rfl hresolve

end CompletionItem

end LanguageServer
