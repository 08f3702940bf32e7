import LanguageServer.Document
import LanguageServer.Uri

/-! # The store of open documents

The open documents by address. `get?` is the view: an entry is found under its own address, and
`put` and `remove` touch no other. -/

namespace LanguageServer

/-- The open documents, each with its address. The first entry of an address counts. -/
structure Store where
  entries : List (Uri × Document)
deriving DecidableEq, Repr

namespace Store

def empty : Store := ⟨[]⟩

def get? (s : Store) (u : Uri) : Option Document := s.entries.lookup u

def remove (s : Store) (u : Uri) : Store := ⟨s.entries.filter (·.1 != u)⟩

def put (s : Store) (u : Uri) (d : Document) : Store := ⟨(u, d) :: (s.remove u).entries⟩

theorem get?_remove (s : Store) (u w : Uri) :
    (s.remove u).get? w = if w = u then none else s.get? w := by
  obtain ⟨entries⟩ := s
  simp only [get?, remove]
  induction entries with
  | nil => simp
  | cons e es ih =>
    obtain ⟨x, d⟩ := e
    by_cases hx : x = u
    · subst hx
      by_cases hw : w = x
      · subst hw
        simpa using ih
      · have : (w == x) = false := beq_false_of_ne hw
        simpa [List.lookup_cons, this, hw] using ih
    · by_cases hw : w = x
      · subst hw
        simp [hx]
      · have : (w == x) = false := beq_false_of_ne hw
        simpa [List.lookup_cons, this, hx] using ih

theorem get?_put (s : Store) (u w : Uri) (d : Document) :
    (s.put u d).get? w = if w = u then some d else s.get? w := by
  by_cases hw : w = u
  · simp [put, get?, hw]
  · have : (w == u) = false := beq_false_of_ne hw
    have hr := get?_remove s u w
    simp only [get?, hw, if_false] at hr ⊢
    simp only [put, List.lookup_cons, this, hr]

end Store

end LanguageServer
