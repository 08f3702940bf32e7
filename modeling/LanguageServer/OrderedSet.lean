/-! # Ordered sets

A list without repetitions, and beside it a test for its members. Words and symbols are declared in
lists, are listed back in the order of their first occurrence, and are looked up by the test. -/

namespace LanguageServer

/-- Distinct members in the order in which they were first declared. -/
structure OrderedSet (α : Type) where
  toList : List α
  /-- Looks a member up. -/
  lookup : α → Bool
  nodup : toList.Nodup
  /-- The list and the look-up are in step. -/
  lookup_iff : ∀ x, lookup x = true ↔ x ∈ toList

namespace OrderedSet

variable {α : Type}

def empty : OrderedSet α where
  toList := []
  lookup _ := false
  nodup := .nil
  lookup_iff _ := by simp

@[simp] theorem toList_empty : (empty : OrderedSet α).toList = [] := rfl

@[ext] theorem ext {s s' : OrderedSet α} (h : s.toList = s'.toList) : s = s' := by
  have hlookup : s.lookup = s'.lookup := by
    funext x
    rw [Bool.eq_iff_iff, s.lookup_iff, s'.lookup_iff, h]
  cases s
  cases s'
  cases h
  cases hlookup
  rfl

def contains (s : OrderedSet α) (x : α) : Bool := s.lookup x

def size (s : OrderedSet α) : Nat := s.toList.length

def isEmpty (s : OrderedSet α) : Bool := s.toList.isEmpty

@[simp] theorem contains_iff (s : OrderedSet α) (x : α) : s.contains x = true ↔ x ∈ s.toList :=
  s.lookup_iff x

variable [DecidableEq α]

instance : DecidableEq (OrderedSet α) := fun s s' =>
  decidable_of_iff (s.toList = s'.toList) ⟨ext, congrArg toList⟩

/-- Adds `x` behind the others, unless it is found already. -/
def insert (s : OrderedSet α) (x : α) : OrderedSet α :=
  if h : s.lookup x then s
  else {
    toList := s.toList ++ [x]
    lookup := fun y => y == x || s.lookup y
    nodup := by
      refine List.nodup_append.2 ⟨s.nodup, by simp, ?_⟩
      intro a ha b hb
      have hb : b = x := by simpa using hb
      subst hb
      exact fun hab => h ((s.lookup_iff b).mpr (hab ▸ ha))
    lookup_iff := by
      intro y
      simp [s.lookup_iff, or_comm]
  }

/-- The members of a list, each at its first occurrence. -/
def ofList (xs : List α) : OrderedSet α := xs.foldl insert empty

theorem toList_insert (s : OrderedSet α) (x : α) :
    (s.insert x).toList = if x ∈ s.toList then s.toList else s.toList ++ [x] := by
  unfold insert
  split
  · next h => rw [if_pos ((s.lookup_iff x).mp h)]
  · next h => rw [if_neg (mt (s.lookup_iff x).mpr h)]

theorem mem_insert (s : OrderedSet α) (x y : α) :
    y ∈ (s.insert x).toList ↔ y ∈ s.toList ∨ y = x := by
  rw [toList_insert]
  split
  · next h => exact ⟨.inl, fun hy => hy.elim id (fun e => e ▸ h)⟩
  · simp

theorem toList_foldl_insert (xs : List α) (s : OrderedSet α) :
    (xs.foldl insert s).toList = s.toList ++ (xs.filter (· ∉ s.toList)).eraseDups := by
  induction xs generalizing s with
  | nil => simp
  | cons x xs ih =>
    rw [List.foldl_cons, ih, toList_insert]
    split
    · next h => rw [List.filter_cons_of_neg (by simpa using h)]
    · next h =>
      have hrest : xs.filter (· ∉ s.toList ++ [x]) =
          (xs.filter (· ∉ s.toList)).filter fun y => !y == x := by
        rw [List.filter_filter]
        apply List.filter_congr
        intro y _
        rw [Bool.eq_iff_iff]
        simp [and_comm]
      rw [List.filter_cons_of_pos (by simpa using h), List.eraseDups_cons, hrest,
        List.append_assoc, List.singleton_append]

theorem toList_ofList (xs : List α) : (ofList xs).toList = xs.eraseDups := by
  have hall : xs.filter (· ∉ (empty : OrderedSet α).toList) = xs := by simp
  rw [ofList, toList_foldl_insert, hall, toList_empty, List.nil_append]

theorem mem_ofList (xs : List α) (x : α) : x ∈ (ofList xs).toList ↔ x ∈ xs := by
  rw [toList_ofList, List.mem_eraseDups]

end OrderedSet

end LanguageServer
