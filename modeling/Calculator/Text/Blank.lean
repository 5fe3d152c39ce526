import Calculator.Text.Ranges

set_option autoImplicit false

namespace Calculator

def blankRanges : List (Nat × Nat) :=
  [(0x9, 0xd), (0x20, 0x20), (0x85, 0x85), (0xa0, 0xa0), (0x1680, 0x1680), (0x2000, 0x200a),
   (0x2028, 0x2029), (0x202f, 0x202f), (0x205f, 0x205f), (0x3000, 0x3000)]

def isBlank (c : Char) : Bool := inRanges c.toNat blankRanges

def withoutBlanks (cs : List Char) : List Char := cs.filter (!isBlank ·)

section

variable {c : Char} {cs : List Char}

theorem withoutBlanks_append (cs ds : List Char) :
    withoutBlanks (cs ++ ds) = withoutBlanks cs ++ withoutBlanks ds := List.filter_append ..

theorem withoutBlanks_skip (h : isBlank c = true) (cs : List Char) :
    withoutBlanks (c :: cs) = withoutBlanks cs := by
  simp [withoutBlanks, h]

theorem withoutBlanks_keep (h : isBlank c = false) (cs : List Char) :
    withoutBlanks (c :: cs) = c :: withoutBlanks cs := by
  simp [withoutBlanks, h]

theorem withoutBlanks_eq_self (h : ∀ c ∈ cs, isBlank c = false) : withoutBlanks cs = cs :=
  List.filter_eq_self.2 fun c hc => by simp [h c hc]

theorem withoutBlanks_withoutBlanks (cs : List Char) :
    withoutBlanks (withoutBlanks cs) = withoutBlanks cs := by
  simp [withoutBlanks]

theorem head?_withoutBlanks (h : cs.head? = some c) (hc : isBlank c = false) :
    (withoutBlanks cs).head? = some c := by
  obtain ⟨after, rfl⟩ := List.head?_eq_some_iff.1 h
  rw [withoutBlanks_keep hc]
  rfl

theorem getLast?_withoutBlanks (h : cs.getLast? = some c) (hc : isBlank c = false) :
    (withoutBlanks cs).getLast? = some c := by
  obtain ⟨before, rfl⟩ := List.getLast?_eq_some_iff.1 h
  rw [withoutBlanks_append, withoutBlanks_keep hc]
  exact List.getLast?_concat

end

end Calculator
