import Calculator.Proofs.Expression.Marks

/-! The text of tokens, and its tokens. White space keeps nothing apart in a text, so two
numbers would run together, and a multiplication would come between other values. Main
statement: tokens are read back from their text just if no value directly follows a value
among them, every number is one that a literal has, and no minus is marked as a prefix. -/

set_option autoImplicit false

namespace Calculator

namespace Token

def Spelled : Token → Prop
  | .number x => ∃ m, x = .finite false m
  | .symbol s => s ≠ .negate

theorem isPlain_symbol (s : Symbol) : isPlain s.char = true := by
  cases s with
  | binary op => exact isPlain_char op
  | _ => rfl

theorem isLiteralCharacter_symbol (s : Symbol) : isLiteralCharacter s.char = false := by
  cases s with
  | binary op => exact isLiteralCharacter_char op
  | _ => rfl

theorem text_number (m : Magnitude) :
    text (.number (.finite false m)) = (Literal.ofMagnitude m).text :=
  (Literal.text_ofMagnitude m).symm

theorem text_symbol {s : Symbol} (h : s ≠ .negate) : text (.symbol s) = [s.char] := by
  cases s with
  | negate => contradiction
  | _ => rfl

theorem Spelled.isPlain_of_mem {t : Token} (h : t.Spelled) {c : Char} (hc : c ∈ t.text) :
    isPlain c = true := by
  cases t with
  | number x =>
    obtain ⟨m, rfl⟩ := h
    have hfinite : (Number.finite false m).isFinite = true := rfl
    exact Number.isPlain_of_mem hfinite hc
  | symbol s =>
    rw [text_symbol h, List.mem_singleton] at hc
    exact hc ▸ isPlain_symbol s

theorem Spelled.withoutBlanks_text {t : Token} (h : t.Spelled) : withoutBlanks t.text = t.text :=
  withoutBlanks_of_isPlain fun _ hc => h.isPlain_of_mem hc

theorem withoutBlanks_listText {tokens : List Token} (h : ∀ t ∈ tokens, t.Spelled) :
    withoutBlanks (listText tokens) = tokens.flatMap text := by
  fun_induction listText tokens with
  | case1 => rfl
  | case2 t => rw [(h t (by simp)).withoutBlanks_text, List.flatMap_singleton]
  | case3 t ts _ ih =>
    obtain ⟨ht, hts⟩ := List.forall_mem_cons.1 h
    rw [withoutBlanks_append, withoutBlanks_skip (by rfl), ht.withoutBlanks_text, ih hts,
      List.flatMap_cons]

theorem impliedProduct_of_not_adjacent {previous : Option Token} {t : Token}
    (h : ∀ u ∈ previous, ¬u.Adjacent t) : impliedProduct previous t = [] := by
  unfold impliedProduct
  split
  · exact absurd ⟨rfl, rfl⟩ (h _ rfl)
  · exact absurd ⟨rfl, rfl⟩ (h _ rfl)
  · exact absurd ⟨rfl, rfl⟩ (h _ rfl)
  · rfl

theorem behind_flatMap_text {t : Token} {tokens : List Token} (ht : t.endsValue = true)
    (h : ∀ u ∈ tokens, u.Spelled) (hnext : ∀ u ∈ tokens.head?, ¬t.Adjacent u) :
    Behind (tokens.flatMap text) := by
  cases tokens with
  | nil => exact .done
  | cons u us =>
    have hu : u.startsValue ≠ true := fun hu => hnext u rfl ⟨ht, hu⟩
    cases u with
    | number x => exact absurd rfl hu
    | symbol s =>
      cases s with
      | binary op => exact .operator op _
      | closing => exact .closing _
      | opening => exact absurd rfl hu
      | negate => exact absurd rfl (h _ List.mem_cons_self)

theorem scan_flatMap_text {previous : Option Token} {tokens : List Token}
    (h : ∀ t ∈ tokens, t.Spelled)
    (hchain : (previous.toList ++ tokens).IsChain fun t u => ¬t.Adjacent u) :
    scan previous (tokens.flatMap text) = .ok tokens := by
  induction tokens generalizing previous with
  | nil =>
    rw [List.flatMap_nil, scan]
  | cons t ts ih =>
    obtain ⟨ht, hts⟩ := List.forall_mem_cons.1 h
    have hbehind : (t :: ts).IsChain fun t u => ¬t.Adjacent u := hchain.right_of_append
    have hrest : scan (some t) (ts.flatMap text) = .ok ts := ih hts hbehind
    have hproduct : impliedProduct previous t = [] := by
      refine impliedProduct_of_not_adjacent fun u hu => ?_
      obtain rfl := Option.mem_def.1 hu
      exact (List.isChain_cons_cons.1 hchain).1
    rw [List.flatMap_cons]
    cases t with
    | number x =>
      obtain ⟨m, rfl⟩ := ht
      have hend : EndsLiteral (ts.flatMap text) :=
        (behind_flatMap_text rfl hts (List.isChain_cons.1 hbehind).1).endsLiteral
      rw [← Literal.value_ofMagnitude m] at hproduct
      rw [text_number, scan_literal _ hproduct hend, Literal.value_ofMagnitude, hrest]
      rfl
    | symbol s =>
      rw [text_symbol ht, List.singleton_append, scan_symbol (isLiteralCharacter_symbol s)
        (Symbol.ofChar?_char s ht) hproduct, hrest]
      rfl

theorem finite_of_readLiteral {literal : List Char} {x : Number}
    (h : readLiteral literal = .ok x) : ∃ m, x = .finite false m := by
  unfold readLiteral at h
  split at h
  · cases h
  · rename_i d _
    split at h
    · rename_i hfinite
      cases h
      rw [Decimal.toNumber] at hfinite ⊢
      cases hm : d.toMagnitude? with
      | none =>
        rw [hm] at hfinite
        cases hfinite
      | some m => exact ⟨m, rfl⟩
    · cases h

theorem spelled_of_mem_impliedProduct {previous : Option Token} {t u : Token}
    (h : u ∈ impliedProduct previous t) : u.Spelled := by
  unfold impliedProduct at h
  split at h
  all_goals simp at h
  all_goals simp [h, Spelled]

theorem spelled_of_scan {previous : Option Token} {cs : List Char} {tokens : List Token}
    (h : scan previous cs = .ok tokens) : ∀ t ∈ tokens, t.Spelled := by
  fun_induction scan previous cs generalizing tokens with
  | case1 =>
    cases h
    simp
  | case2 previous c rest hc ih =>
    obtain ⟨x, hx, h⟩ := Fault.bind_eq_ok.1 h
    obtain ⟨tokens', hscan, h⟩ := Fault.bind_eq_ok.1 h
    cases h
    refine List.forall_mem_append.2 ⟨fun _ => spelled_of_mem_impliedProduct, ?_⟩
    exact List.forall_mem_cons.2 ⟨finite_of_readLiteral hx, ih x hscan⟩
  | case3 => cases h
  | case4 previous c rest hc s hs ih =>
    obtain ⟨tokens', hscan, h⟩ := Fault.bind_eq_ok.1 h
    cases h
    refine List.forall_mem_append.2 ⟨fun _ => spelled_of_mem_impliedProduct, ?_⟩
    exact List.forall_mem_cons.2 ⟨ne_negate_of_ofChar? hs, ih hscan⟩

theorem not_pointBehindExponent_flatMap_text {tokens : List Token}
    (h : ∀ t ∈ tokens, t.Spelled) : ¬PointBehindExponent (tokens.flatMap text) := by
  refine not_pointBehindExponent fun c hc => ?_
  obtain ⟨t, ht, hmem⟩ := List.mem_flatMap.1 hc
  exact isExponentLetter_of_isPlain ((h t ht).isPlain_of_mem hmem)

theorem forall_spelled_iff {tokens : List Token} :
    (∀ t ∈ tokens, t.Spelled) ↔
      (∀ x, .number x ∈ tokens → ∃ m, x = .finite false m) ∧ .symbol .negate ∉ tokens := by
  constructor
  · exact fun h => ⟨fun x hx => h _ hx, fun hnegate => h _ hnegate rfl⟩
  · rintro ⟨hnumber, hnegate⟩ t ht
    cases t with
    | number x => exact hnumber x ht
    | symbol s =>
      rintro rfl
      exact hnegate ht

end Token

/-- Tokens are read back from their text just if their numbers are finite and have no sign,
no minus is a prefix among them, and no value directly follows a value. -/
theorem tokenize_listText_iff (tokens : List Token) :
    tokenize (Token.listText tokens) = .ok tokens ↔
      (∀ x, .number x ∈ tokens → ∃ m, x = .finite false m) ∧ .symbol .negate ∉ tokens ∧
        tokens.IsChain fun t u => ¬t.Adjacent u := by
  rw [← and_assoc, ← Token.forall_spelled_iff]
  constructor
  · intro h
    have hspelled := Token.spelled_of_scan h
    rw [tokenize, Token.withoutBlanks_listText hspelled] at h
    refine ⟨hspelled, Token.isChain_not_adjacent (Token.scanned_of_scan h).isChain fun hj => ?_⟩
    -- two numbers would need an exponent between them
    rcases (Token.juxtaposed_scan h).1 hj with ⟨⟨x, hx⟩, _⟩ | hpoint
    · cases hx
    · exact Token.not_pointBehindExponent_flatMap_text hspelled hpoint
  · rintro ⟨hspelled, hchain⟩
    rw [tokenize, Token.withoutBlanks_listText hspelled]
    exact Token.scan_flatMap_text hspelled hchain

end Calculator
