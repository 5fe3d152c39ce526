import Calculator.Text.Structured
import Calculator.Proofs.Token.Literal

set_option autoImplicit false

namespace Calculator

namespace Structured

/-- A character that is neither blank nor the beginning of a comment. -/
def isSolid (c : Char) : Bool := !isSpacing c && c != '/'

theorem skip?_cons {c : Char} (hc : isSolid c = true) (rest : List Char) :
    skip? (c :: rest) = some (c :: rest) := by
  simp only [isSolid, Bool.and_eq_true, Bool.not_eq_true', bne_iff_ne] at hc
  obtain ⟨hspacing, hslash⟩ := hc
  rw [skip?, skipSpacing?, hspacing]
  · rfl
  · rintro _ rfl
    exact absurd rfl hslash
  · rintro _ rfl
    exact absurd rfl hslash

theorem expect?_cons {c : Char} (hc : isSolid c = true) (rest : List Char) :
    expect? c (c :: rest) = some rest := by
  rw [expect?, skip?_cons hc]
  exact if_pos rfl

theorem expect?_cons_of_ne {c d : Char} (hd : isSolid d = true) (hne : d ≠ c)
    (rest : List Char) : expect? c (d :: rest) = none := by
  rw [expect?, skip?_cons hd]
  exact if_neg hne

def EndsWord (cs : List Char) : Prop := ∀ c ∈ cs.head?, isIdentifierCharacter c = false

/-- A name of two letters at least, which cannot be taken for the mark of another one. -/
def isWord : List Char → Bool
  | c :: d :: cs => isSolid c && isIdentifierStart c && (d :: cs).all isIdentifierCharacter
  | _ => false

theorem exists_word {word : List Char} (h : isWord word = true) :
    ∃ c d cs, word = c :: d :: cs ∧ isSolid c = true ∧ isIdentifierStart c = true ∧
      ∀ x ∈ d :: cs, isIdentifierCharacter x = true := by
  unfold isWord at h
  split at h
  · simp only [Bool.and_eq_true, List.all_eq_true] at h
    exact ⟨_, _, _, rfl, h.1.1, h.1.2, h.2⟩
  · cases h

theorem identifier?_word {word tail : List Char} (hword : isWord word = true)
    (htail : EndsWord tail) : identifier? (word ++ tail) = some (word, tail) := by
  obtain ⟨c, d, cs, rfl, hsolid, hstart, hcs⟩ := exists_word hword
  have hmark : isIdentifierCharacter '#' = false := rfl
  have hd : d ≠ '#' := by
    rintro rfl
    rw [hcs '#' (List.mem_cons_self ..)] at hmark
    cases hmark
  obtain ⟨htake, hdrop⟩ := span_append hcs htail
  rw [identifier?, List.cons_append, skip?_cons hsolid]
  split
  · rename_i heq
    injection heq with heq
    injection heq with _ heq
    injection heq with heq
    exact absurd heq hd
  · rename_i heq
    injection heq with heq
    injection heq with hc hrest
    subst hc hrest
    rw [if_pos hstart, htake, hdrop]
  · rename_i hnone
    exact absurd rfl (hnone c _)

theorem identifier?_cons_of_not_start {c : Char} (hc : isSolid c = true)
    (hstart : isIdentifierStart c = false) (rest : List Char) : identifier? (c :: rest) = none := by
  rw [identifier?, skip?_cons hc]
  split
  · rename_i heq
    injection heq with heq
    injection heq with heq
    subst heq
    have hr : isIdentifierStart 'r' = true := rfl
    rw [hr] at hstart
    cases hstart
  · rename_i heq
    injection heq with heq
    injection heq with heq
    subst heq
    rw [hstart]
    rfl
  · rfl

theorem expect?_word {c : Char} (hc : isIdentifierStart c = false) {word : List Char}
    (hword : isWord word = true) (tail : List Char) : expect? c (word ++ tail) = none := by
  obtain ⟨d, e, cs, rfl, hsolid, hstart, -⟩ := exists_word hword
  refine expect?_cons_of_ne hsolid (fun h => ?_) _
  rw [h, hc] at hstart
  cases hstart

theorem quoted?_encode (cs tail : List Char) : quoted? (Quoted.encode cs ++ tail) = some (cs, tail) := by
  rw [quoted?, Quoted.encode, List.cons_append, List.cons_append, skip?_cons rfl]
  exact Quoted.text?_encode cs tail

theorem keyword?_word {word tail : List Char} (hword : isWord word = true) (htail : EndsWord tail) :
    keyword? word (word ++ tail) = some tail := by
  obtain ⟨c, d, cs, rfl, hsolid, -⟩ := exists_word hword
  have hstarts : (c :: d :: cs).isPrefixOf (c :: (d :: cs ++ tail)) = true :=
    List.isPrefixOf_iff_prefix.2 (List.prefix_append (c :: d :: cs) tail)
  have hdrop : (c :: (d :: cs ++ tail)).drop (c :: d :: cs).length = tail :=
    @List.drop_left _ (c :: d :: cs) tail
  have hend : tail.head?.any isIdentifierCharacter = false := by
    cases tail with
    | nil => rfl
    | cons x tail => exact htail x rfl
  rw [keyword?, List.cons_append, skip?_cons hsolid]
  dsimp only
  rw [hdrop, hstarts, hend]
  rfl

theorem keyword?_cons_of_ne {c d : Char} (hd : isSolid d = true) (hne : c ≠ d)
    (cs rest : List Char) : keyword? (c :: cs) (d :: rest) = none := by
  have hstarts : (c :: cs).isPrefixOf (d :: rest) = false := by
    rw [List.isPrefixOf, beq_false_of_ne hne, Bool.false_and]
  rw [keyword?, skip?_cons hd]
  dsimp only
  rw [hstarts]
  rfl

section Items

variable {α : Type} {item : List Char → Option (α × List Char)} {closing : Char} {a : α}
  {cs rest : List Char}

theorem items?_nil (hsolid : isSolid closing = true) (bound : Nat) (rest : List Char) :
    items? item closing (bound + 1) (closing :: rest) = some ([], rest) := by
  rw [items?, expect?_cons hsolid]

theorem items?_comma (hopen : expect? closing cs = none) (h : item cs = some (a, ',' :: rest))
    (bound : Nat) :
    items? item closing (bound + 1) cs =
      (items? item closing bound rest).map fun (more, tail) => (a :: more, tail) := by
  rw [items?, hopen]
  dsimp only
  rw [h, Option.bind_eq_bind, Option.bind_some, expect?_cons rfl]
  dsimp only
  cases items? item closing bound rest <;> rfl

theorem items?_last (hsolid : isSolid closing = true) (hcomma : closing ≠ ',')
    (hopen : expect? closing cs = none) (h : item cs = some (a, closing :: rest)) (bound : Nat) :
    items? item closing (bound + 1) cs = some ([a], rest) := by
  rw [items?, hopen]
  dsimp only
  rw [h, Option.bind_eq_bind, Option.bind_some, expect?_cons_of_ne hsolid hcomma]
  dsimp only
  rw [expect?_cons hsolid]
  rfl

end Items

section Fields

variable {σ : Type} {value : List Char → σ → List Char → Option (σ × List Char)} {draft next : σ}
  {name cs rest : List Char}

theorem field?_word (hname : isWord name = true) (draft : σ) (cs : List Char) :
    field? value draft (name ++ ':' :: cs) = value name draft cs := by
  have hcolon : EndsWord (':' :: cs) := by
    intro c hc
    cases hc
    rfl
  rw [field?, identifier?_word hname hcolon, Option.bind_eq_bind, Option.bind_some]
  dsimp only
  rw [expect?_cons rfl]
  rfl

theorem fields?_comma (hname : isWord name = true) (h : value name draft cs = some (next, ',' :: rest))
    (bound : Nat) :
    fields? value (bound + 1) draft (name ++ ':' :: cs) = fields? value bound next rest := by
  rw [fields?, expect?_word rfl hname]
  dsimp only
  rw [field?_word hname, h, Option.bind_eq_bind, Option.bind_some, expect?_cons rfl]

theorem fields?_last (hname : isWord name = true) (h : value name draft cs = some (next, ')' :: rest))
    (bound : Nat) :
    fields? value (bound + 1) draft (name ++ ':' :: cs) = some (next, rest) := by
  rw [fields?, expect?_word rfl hname]
  dsimp only
  rw [field?_word hname, h, Option.bind_eq_bind, Option.bind_some,
    expect?_cons_of_ne rfl (by decide)]
  dsimp only
  rw [expect?_cons rfl]
  rfl

/-- A record without its name, which has no more fields than characters. -/
theorem record?_of_fields {e : Extensions} (he : e.namedRecords = false) {n : Nat}
    (hn : n ≤ cs.length) (h : ∀ bound, fields? value (bound + n + 1) draft cs = some (next, rest)) :
    record? e name value draft ('(' :: cs) = some (next, rest) := by
  have hname : recordName? e name ('(' :: cs) = some ('(' :: cs) := by
    rw [recordName?, identifier?_cons_of_not_start rfl rfl]
    dsimp only
    rw [he]
    rfl
  rw [record?, hname, Option.bind_eq_bind, Option.bind_some, expect?_cons rfl,
    Option.bind_some, ← Nat.sub_add_cancel hn]
  exact h _

end Fields

theorem header?_opening (cs : List Char) : header? ('(' :: cs) = some (.plain, '(' :: cs) := by
  rw [header?, attributes?, expect?_cons_of_ne rfl (by decide)]

end Structured

end Calculator
