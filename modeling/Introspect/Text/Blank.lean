/-!
# `Introspect.Text.Blank`: white space at the ends of a text

`isBlank` is the property *White_Space* of the Unicode standard, and `trim` drops such characters
from both ends. `trimList_eq_nil_iff` says that only a text of blanks trims to nothing.
-/

set_option autoImplicit false

namespace Introspect.Text

/-- The characters with the property *White_Space*. -/
def isBlank (c : Char) : Bool :=
  let n := c.toNat
  (9 ≤ n && n ≤ 13) || n == 0x20 || n == 0x85 || n == 0xa0 || n == 0x1680 ||
    (0x2000 ≤ n && n ≤ 0x200a) || n == 0x2028 || n == 0x2029 || n == 0x202f || n == 0x205f ||
    n == 0x3000

/-- Drops the blanks at both ends. -/
def trimList (cs : List Char) : List Char :=
  (cs.dropWhile isBlank).reverse.dropWhile isBlank |>.reverse

/-- Drops the blanks at both ends of a text. -/
def trim (s : String) : String :=
  String.ofList (trimList s.toList)

/-- Nothing is left of a list when its head is dropped again and again exactly if all of it
drops. -/
theorem dropWhile_eq_nil (p : Char → Bool) (cs : List Char) :
    cs.dropWhile p = [] ↔ ∀ c ∈ cs, p c = true := by
  induction cs with
  | nil => simp
  | cons c rest ih =>
    by_cases hc : p c = true
    · simp [hc, ih]
    · simp [hc]

/-- Only a text of blanks trims to nothing. -/
theorem trimList_eq_nil_iff (cs : List Char) : trimList cs = [] ↔ ∀ c ∈ cs, isBlank c = true := by
  simp only [trimList, List.reverse_eq_nil_iff, dropWhile_eq_nil, List.mem_reverse]
  constructor
  · intro h c hc
    by_cases hall : cs.dropWhile isBlank = []
    · exact (dropWhile_eq_nil isBlank cs).1 hall c hc
    · obtain ⟨d, ds, hd⟩ := List.exists_cons_of_ne_nil hall
      have hhead : isBlank d = false := by
        have := List.head?_dropWhile_not isBlank cs
        simpa [hd] using this
      have := h d (by simp [hd])
      simp [hhead] at this
  · intro h c hc
    exact h c ((List.dropWhile_sublist _).subset hc)

end Introspect.Text
