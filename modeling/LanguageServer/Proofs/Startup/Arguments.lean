import LanguageServer.Startup.Command
import Mathlib.Data.List.Basic

/-! # The arguments of a command line

A command line that serves is items, one after another. No item is the start of another, so a line
is read in one way only (`Item.arguments_append_inj`). What is left behind the items that a line
starts with holds its first argument against the line, whatever follows (`parseFrom_of_stuck`). -/

namespace LanguageServer.Command

def Item.line (items : List Item) : List String := items.flatMap arguments

/-- Arguments that do not start with an item. -/
def Stuck (arguments : List String) : Prop :=
  ∀ (item : Item) (rest : List String), arguments ≠ item.arguments ++ rest

/-- What an argument leads to that starts no item. -/
def verdict (argument : String) : Except StartupFailure Command :=
  if argument = "--help" ∨ argument = "-h" then .ok .help
  else if argument = "--version" ∨ argument = "-V" then .ok .version
  else if argument = vocabularyOption then .error (.missingValue vocabularyOption)
  else .error (.unknownArgument argument)

/-- How a command line is read. It serves if it is items. Else it has a longest start of items, and
the argument behind that decides alone. -/
structure ReadsItems (arguments : List String) (environment : Option String) : Prop where
  serves_iff : ∀ path, parse arguments environment = .ok (.serve ⟨path⟩) ↔
    ∃ items, arguments = Item.line items ∧
      path = (Item.lastPath? items).or (environment.filter (· ≠ ""))
  decided : (∀ items, arguments ≠ Item.line items) → ∃ items argument rest,
    arguments = Item.line items ++ argument :: rest ∧
    (∀ items', Item.line items' <+: arguments → Item.line items' <+: Item.line items) ∧
    (argument = vocabularyOption → rest = []) ∧
    ∀ rest' environment', (argument = vocabularyOption → rest' = []) →
      parse (Item.line items ++ argument :: rest') environment' = verdict argument

/-! ## Items -/

theorem attachedPath?_eq_some {argument path : String} :
    attachedPath? argument = some path ↔ argument = vocabularyOption ++ "=" ++ path := by
  simp only [attachedPath?, List.isPrefixOf_iff_prefix, Option.ite_none_right_eq_some,
    Option.some.injEq]
  constructor
  · rintro ⟨⟨rest, hrest⟩, rfl⟩
    rw [← String.toList_inj, String.toList_append, String.toList_ofList, ← hrest, List.drop_left]
  · rintro rfl
    have htext : (vocabularyOption ++ "=" ++ path).toList =
        (vocabularyOption ++ "=").toList ++ path.toList := String.toList_append
    rw [htext, List.drop_left, String.ofList_toList]
    exact ⟨List.prefix_append _ _, rfl⟩

theorem attached_ne {argument : String} (h : attachedPath? argument = none) (path : String) :
    vocabularyOption ++ "=" ++ path ≠ argument := by
  intro heq
  rw [attachedPath?_eq_some.mpr heq.symm] at h
  cases h

namespace Item

@[simp] theorem line_cons (item : Item) (items : List Item) :
    line (item :: items) = item.arguments ++ line items := List.flatMap_cons

theorem lastPath?_cons (item : Item) (items : List Item) :
    lastPath? (item :: items) = (lastPath? items).or item.path? := by
  unfold lastPath?
  cases h : item.path? with
  | none => rw [List.filterMap_cons_none h, Option.or_none]
  | some path =>
    rw [List.filterMap_cons_some h, List.getLast?_cons]
    cases (items.filterMap path?).getLast? <;> rfl

theorem length_arguments_pos (item : Item) : 0 < item.arguments.length := by
  cases item <;> exact Nat.succ_pos _

theorem arguments_append_inj {item item' : Item} {rest rest' : List String}
    (h : item.arguments ++ rest = item'.arguments ++ rest') : item = item' ∧ rest = rest' := by
  have hstdio := attached_ne (rfl : attachedPath? "--stdio" = none)
  have hoption := attached_ne (rfl : attachedPath? vocabularyOption = none)
  have hne : "--stdio" ≠ vocabularyOption := by decide
  cases item <;> cases item' <;>
    simp only [arguments, List.cons_append, List.nil_append, List.cons.injEq] at h
  case stdio.stdio => exact ⟨rfl, h.2⟩
  case stdio.attached path => exact absurd h.1.symm (hstdio path)
  case stdio.separate => exact absurd h.1 hne
  case attached.stdio path => exact absurd h.1 (hstdio path)
  case attached.attached path path' =>
    have hpath := (attachedPath?_eq_some.mpr rfl).symm.trans (attachedPath?_eq_some.mpr h.1)
    exact ⟨congrArg attached (Option.some.inj hpath), h.2⟩
  case attached.separate path _ => exact absurd h.1 (hoption path)
  case separate.stdio => exact absurd h.1.symm hne
  case separate.attached path => exact absurd h.1.symm (hoption path)
  case separate.separate => exact ⟨congrArg separate h.2.1, h.2.2⟩

end Item

/-! ## What is left behind the items -/

theorem stuck_cons_iff {argument : String} {rest : List String} :
    Stuck (argument :: rest) ↔ argument ≠ "--stdio" ∧ attachedPath? argument = none ∧
      (argument = vocabularyOption → rest = []) := by
  constructor
  · intro h
    refine ⟨?_, ?_, ?_⟩
    · rintro rfl
      exact h .stdio rest rfl
    · cases hpath : attachedPath? argument with
      | none => rfl
      | some path =>
        obtain rfl := attachedPath?_eq_some.mp hpath
        exact absurd rfl (h (.attached path) rest)
    · rintro rfl
      cases rest with
      | nil => rfl
      | cons value rest => exact absurd rfl (h (.separate value) rest)
  · rintro ⟨hstdio, hattached, hoption⟩ item more h
    cases item <;> obtain ⟨rfl, hrest⟩ := List.cons.inj h
    case stdio => exact hstdio rfl
    case attached path => exact attached_ne hattached path rfl
    case separate => cases (hoption rfl).symm.trans hrest

theorem exists_items (arguments : List String) :
    ∃ items rest, arguments = Item.line items ++ rest ∧ Stuck rest := by
  induction hlength : arguments.length using Nat.strongRecOn generalizing arguments with
  | ind n ih =>
    by_cases h : Stuck arguments
    · exact ⟨[], arguments, rfl, h⟩
    · -- An item is taken off, and what is left is shorter.
      simp only [Stuck, not_forall, not_not] at h
      obtain ⟨item, more, rfl⟩ := h
      have hlt : more.length < n := by
        have hpos := item.length_arguments_pos
        rw [List.length_append] at hlength
        omega
      obtain ⟨items, rest, hmore, hrest⟩ := ih more.length hlt more rfl
      refine ⟨item :: items, rest, ?_, hrest⟩
      rw [Item.line_cons, hmore, List.append_assoc]

theorem Stuck.prefix_of_line_prefix {items items' : List Item} {rest : List String}
    (h : Stuck rest) (hstart : Item.line items' <+: Item.line items ++ rest) :
    Item.line items' <+: Item.line items := by
  induction items' generalizing items with
  | nil => exact List.nil_prefix
  | cons item' items' ih =>
    obtain ⟨more, hmore⟩ := hstart
    rw [Item.line_cons, List.append_assoc] at hmore
    cases items with
    | nil => exact absurd hmore.symm (h item' _)
    | cons item items =>
      rw [Item.line_cons, List.append_assoc] at hmore
      obtain ⟨rfl, hrest⟩ := Item.arguments_append_inj hmore
      rw [Item.line_cons, Item.line_cons]
      exact (List.prefix_append_right_inj _).mpr (ih ⟨more, hrest⟩)

/-! ## Reading -/

theorem parseFrom_item (environment path : Option String) (item : Item) (rest : List String) :
    parseFrom environment path (item.arguments ++ rest) =
      parseFrom environment (item.path?.or path) rest := by
  cases item with
  | stdio =>
    rw [parseFrom.eq_def]
    rfl
  | separate value =>
    rw [parseFrom.eq_def]
    rfl
  | attached value =>
    have hpath := attachedPath?_eq_some.mpr (rfl : _ = vocabularyOption ++ "=" ++ value)
    have hother : ∀ {argument}, attachedPath? argument = none →
        vocabularyOption ++ "=" ++ value ≠ argument := fun h => attached_ne h value
    rw [Item.arguments, List.singleton_append, parseFrom.eq_def]
    simp only
    rw [if_neg (not_or.mpr ⟨hother rfl, hother rfl⟩), if_neg (not_or.mpr ⟨hother rfl, hother rfl⟩),
      if_neg (hother rfl), if_neg (hother rfl), hpath]
    rfl

theorem parseFrom_line (environment path : Option String) (items : List Item)
    (rest : List String) :
    parseFrom environment path (Item.line items ++ rest) =
      parseFrom environment ((Item.lastPath? items).or path) rest := by
  induction items generalizing path with
  | nil => rfl
  | cons item items ih =>
    rw [Item.line_cons, List.append_assoc, parseFrom_item, ih, Item.lastPath?_cons,
      Option.or_assoc]

theorem parseFrom_of_stuck {argument : String} {rest : List String}
    (h : Stuck (argument :: rest)) (environment path : Option String) :
    parseFrom environment path (argument :: rest) = verdict argument := by
  obtain ⟨hstdio, hattached, hoption⟩ := stuck_cons_iff.mp h
  rw [parseFrom.eq_def, verdict]
  simp only
  split_ifs with hhelp hversion hvocabulary
  · rfl
  · rfl
  · rw [hoption hvocabulary]
  · rw [hattached]

theorem parse_line (items : List Item) (environment : Option String) :
    parse (Item.line items) environment =
      .ok (.serve ⟨(Item.lastPath? items).or (environment.filter (· ≠ ""))⟩) := by
  have hline := parseFrom_line environment none items []
  rw [List.append_nil, Option.or_none] at hline
  rw [parse, hline, parseFrom]

theorem parse_line_of_stuck {argument : String} {rest : List String}
    (h : Stuck (argument :: rest)) (items : List Item) (environment : Option String) :
    parse (Item.line items ++ argument :: rest) environment = verdict argument := by
  rw [parse, parseFrom_line, parseFrom_of_stuck h]

theorem verdict_ne_serve (argument : String) (settings : Settings) :
    verdict argument ≠ .ok (.serve settings) := by
  unfold verdict
  split_ifs <;> simp

/-- The arguments that serve are those of items, with the path of the last item that has one. Other
arguments are decided by the first that belongs to no item. -/
theorem parse_readsItems (arguments : List String) (environment : Option String) :
    ReadsItems arguments environment := by
  obtain ⟨items, rest, rfl, hstuck⟩ := exists_items arguments
  constructor
  case serves_iff =>
    intro path
    constructor
    · intro h
      cases rest with
      | nil =>
        rw [List.append_nil, parse_line] at h
        cases h
        exact ⟨items, List.append_nil _, rfl⟩
      | cons argument rest =>
        rw [parse_line_of_stuck hstuck] at h
        exact absurd h (verdict_ne_serve _ _)
    · rintro ⟨items', hline, rfl⟩
      rw [hline, parse_line]
  case decided =>
    intro h
    cases rest with
    | nil => exact absurd (List.append_nil _) (h items)
    | cons argument rest =>
      obtain ⟨hstdio, hattached, hoption⟩ := stuck_cons_iff.mp hstuck
      refine ⟨items, argument, rest, rfl, fun items' => hstuck.prefix_of_line_prefix, hoption, ?_⟩
      intro rest' environment' hrest'
      exact parse_line_of_stuck (stuck_cons_iff.mpr ⟨hstdio, hattached, hrest'⟩) items environment'

/-- An option behind the one that takes a path is a path. -/
example : parse ["--vocabulary", "--help", "--stdio"] none = .ok (.serve ⟨some "--help"⟩) := rfl

end LanguageServer.Command
