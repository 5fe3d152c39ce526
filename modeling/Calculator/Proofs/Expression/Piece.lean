import Calculator.Proofs.ResultText.Shape

set_option autoImplicit false

namespace Calculator

def isPieceSign (c : Char) : Bool := "0123456789.+-×÷^()πe".toList.contains c

inductive Piece
  | sign (c : Char) (h : isPieceSign c = true)
  | call (f : Elementary)

namespace Piece

def text : Piece → List Char
  | .sign c _ => [c]
  | .call f => f.name ++ ['(']

def spell (ps : List Piece) : List Char := ps.flatMap text

theorem spell_cons (p : Piece) (ps : List Piece) : spell (p :: ps) = p.text ++ spell ps :=
  List.flatMap_cons

theorem spell_append (ps qs : List Piece) : spell (ps ++ qs) = spell ps ++ spell qs :=
  List.flatMap_append

theorem spell_singleton (p : Piece) : spell [p] = p.text := List.append_nil p.text

theorem spell_concat (ps : List Piece) (p : Piece) : spell (ps ++ [p]) = spell ps ++ p.text := by
  rw [spell_append, spell_singleton]

theorem text_ne_nil (p : Piece) : p.text ≠ [] := by
  cases p with
  | sign c h => exact List.cons_ne_nil c []
  | call f => exact List.append_ne_nil_of_right_ne_nil _ (List.cons_ne_nil '(' [])

theorem spell_eq_nil_iff {ps : List Piece} : spell ps = [] ↔ ps = [] := by
  cases ps with
  | nil => exact ⟨fun _ => rfl, fun _ => rfl⟩
  | cons p ps =>
    rw [spell_cons, List.append_eq_nil_iff]
    exact ⟨fun h => absurd h.1 p.text_ne_nil, fun h => nomatch h⟩

theorem isPieceSign_head_name (f : Elementary) : f.name.head?.any isPieceSign = false := by
  cases f <;> rfl

/-- No name ends with a sign, as every piece does. -/
theorem isPieceSign_last_name (f : Elementary) : f.name.getLast?.any isPieceSign = false := by
  cases f <;> rfl

theorem eq_of_text_isPrefix {p q : Piece} (h : p.text <+: q.text) : p = q := by
  cases p with
  | sign c hc =>
    cases q with
    | sign d hd =>
      obtain ⟨rfl, -⟩ := List.cons_prefix_cons.1 h
      rfl
    | call g =>
      have hhead : g.name.head? = some c := by
        obtain ⟨rest, hrest⟩ := h
        cases g <;> exact congrArg List.head? hrest.symm
      have hsign := isPieceSign_head_name g
      rw [hhead, Option.any_some, hc] at hsign
      cases hsign
  | call f =>
    cases q with
    | sign d hd =>
      have hlength : 1 < (f.name ++ ['(']).length := by cases f <;> decide
      exact absurd h.length_le (Nat.not_le_of_gt hlength)
    | call g =>
      have hcalls : ∀ f ∈ Elementary.all, ∀ g ∈ Elementary.all,
          f.name ++ ['('] <+: g.name ++ ['('] → f = g := by decide
      rw [hcalls f f.mem_all g g.mem_all h]

theorem eq_of_call_isSuffix {f g : Elementary} (h : f.name ++ ['('] <:+ g.name ++ ['(']) :
    f = g := by
  have hcalls : ∀ f ∈ Elementary.all, ∀ g ∈ Elementary.all,
      f.name ++ ['('] <:+ g.name ++ ['('] → f = g := by decide
  exact hcalls f f.mem_all g g.mem_all h

/-- There is one way at most to cut a text into pieces. -/
theorem spell_injective {ps qs : List Piece} (h : spell ps = spell qs) : ps = qs := by
  induction ps generalizing qs with
  | nil => exact (spell_eq_nil_iff.1 h.symm).symm
  | cons p ps ih =>
    cases qs with
    | nil => exact spell_eq_nil_iff.1 h
    | cons q qs =>
      rw [spell_cons, spell_cons] at h
      have hp : p.text <+: q.text ++ spell qs := ⟨spell ps, h⟩
      have hpq : p = q := by
        rcases List.prefix_or_prefix_of_prefix hp (List.prefix_append q.text _) with hpq | hqp
        · exact eq_of_text_isPrefix hpq
        · exact (eq_of_text_isPrefix hqp).symm
      subst hpq
      rw [ih (List.append_cancel_left h)]

theorem isPieceSign_of_mem_getLast? {ps : List Piece} {c : Char} (h : c ∈ (spell ps).getLast?) :
    isPieceSign c = true := by
  obtain rfl | ⟨front, p, rfl⟩ := List.eq_nil_or_concat' ps
  · cases h
  · rw [spell_concat, List.getLast?_append_of_ne_nil _ p.text_ne_nil] at h
    cases p with
    | sign d hd =>
      cases h
      exact hd
    | call f =>
      rw [text, List.getLast?_concat] at h
      cases h
      rfl

theorem spell_ne_append_name (ps : List Piece) (front : List Char) (f : Elementary) :
    spell ps ≠ front ++ f.name := by
  intro h
  have hname : f.name ≠ [] := by cases f <;> decide
  have hlast : f.name.getLast hname ∈ (spell ps).getLast? := by
    rw [h, List.getLast?_append_of_ne_nil _ hname]
    exact List.getLast?_eq_getLast_of_ne_nil hname
  have hsign : f.name.getLast?.any isPieceSign = true := by
    rw [List.getLast?_eq_getLast_of_ne_nil hname]
    exact isPieceSign_of_mem_getLast? hlast
  rw [isPieceSign_last_name] at hsign
  cases hsign

theorem exists_of_spell_eq_call {ps : List Piece} {front : List Char} {f : Elementary}
    (h : spell ps = front ++ (f.name ++ ['('])) : ∃ qs, ps = qs ++ [.call f] ∧ spell qs = front := by
  obtain rfl | ⟨qs, p, rfl⟩ := List.eq_nil_or_concat' ps
  · exact absurd (List.append_eq_nil_iff.1 h.symm).2 (text_ne_nil (.call f))
  · rw [spell_concat] at h
    cases p with
    | sign c hc =>
      rw [text, ← List.append_assoc] at h
      exact absurd (List.append_inj' h rfl).1 (spell_ne_append_name qs front f)
    | call g =>
      have hg : g.name ++ ['('] <:+ front ++ (f.name ++ ['(']) := ⟨spell qs, h⟩
      have hfg : f = g := by
        rcases List.suffix_or_suffix_of_suffix hg (List.suffix_append front _) with hgf | hfg
        · exact (eq_of_call_isSuffix hgf).symm
        · exact eq_of_call_isSuffix hfg
      subst hfg
      exact ⟨qs, rfl, List.append_cancel_right h⟩

end Piece

def Spelled (cs : List Char) : Prop := ∃ ps, Piece.spell ps = cs

namespace Spelled

variable {cs ds : List Char}

theorem nil : Spelled [] := ⟨[], rfl⟩

theorem append (hcs : Spelled cs) (hds : Spelled ds) : Spelled (cs ++ ds) := by
  obtain ⟨ps, rfl⟩ := hcs
  obtain ⟨qs, rfl⟩ := hds
  exact ⟨ps ++ qs, Piece.spell_append ps qs⟩

theorem of_text (p : Piece) : Spelled p.text := ⟨[p], Piece.spell_singleton p⟩

theorem of_all (h : cs.all isPieceSign = true) : Spelled cs := by
  induction cs with
  | nil => exact .nil
  | cons c cs ih =>
    rw [List.all_cons, Bool.and_eq_true] at h
    exact (of_text (.sign c h.1)).append (ih h.2)

end Spelled

theorem isPieceSign_of_isDigit {c : Char} (h : c.isDigit = true) : isPieceSign c = true := by
  obtain ⟨hlow, hhigh⟩ := Char.isDigit_iff_toNat.1 h
  have hdigits : ∀ n ≤ 9, isPieceSign (Char.ofNat (48 + n)) = true := by decide
  have hzero : '0'.toNat = 48 := rfl
  have hc : Char.ofNat (48 + (c.toNat - 48)) = c := by
    rw [Nat.add_sub_cancel' (hzero ▸ hlow), Char.ofNat_toNat]
  exact hc ▸ hdigits (c.toNat - 48) (Nat.sub_le_iff_le_add'.2 hhigh)

theorem IsPositional.isPieceSign {cs : List Char} (h : IsPositional cs) {c : Char} (hc : c ∈ cs) :
    isPieceSign c = true := by
  obtain ⟨whole, hwhole, rfl | ⟨fraction, hfraction, rfl⟩⟩ := h
  · exact isPieceSign_of_isDigit (hwhole.isDigit c hc)
  · rcases List.mem_append.1 hc with hc | hc
    · exact isPieceSign_of_isDigit (hwhole.isDigit c hc)
    · rcases List.mem_cons.1 hc with rfl | hc
      · rfl
      · exact isPieceSign_of_isDigit (hfraction.isDigit c hc)

theorem IsScientific.isPieceSign {cs : List Char} (h : IsScientific cs) {c : Char} (hc : c ∈ cs) :
    isPieceSign c = true := by
  obtain ⟨first, decimals, sign, exponent, ⟨hfirst, -⟩, ⟨-, hdecimals⟩, hsign, hexponent, rfl⟩ := h
  rcases List.mem_append.1 hc with hc | hc
  · rcases List.mem_cons.1 hc with rfl | hc
    · exact isPieceSign_of_isDigit hfirst
    · rcases List.mem_cons.1 hc with rfl | hc
      · rfl
      · exact isPieceSign_of_isDigit (hdecimals c hc)
  · rcases List.mem_cons.1 hc with rfl | hc
    · rfl
    · rcases List.mem_cons.1 hc with rfl | hc
      · rcases hsign with rfl | rfl <;> rfl
      · exact isPieceSign_of_isDigit (hexponent.isDigit c hc)

theorem Number.spelled_resultText {x : Number} (hx : x.isFinite = true) :
    Spelled x.resultText := by
  cases x with
  | nan => cases hx
  | infinite s => cases hx
  | finite s m =>
    have hplain : ∀ c ∈ m.toTenDecimals.resultText, isPieceSign c = true := fun c hc =>
      (Magnitude.resultText_shape m.toTenDecimals_toTenDecimals).elim (·.isPieceSign hc)
        (·.isPieceSign hc)
    refine .of_all (List.all_eq_true.2 fun c hc => ?_)
    rw [resultText_finite] at hc
    split at hc
    · rcases List.mem_cons.1 hc with rfl | hc
      · rfl
      · exact hplain c hc
    · exact hplain c hc

end Calculator
