import Calculator.Token.Lexer
import Calculator.ReversePolish

/-! Function calls inside an expression. Each call is replaced by its value in
parentheses; the argument, which ends at the matching parenthesis, is worked out
first and may hold calls itself. -/

set_option autoImplicit false

namespace Calculator

/-- The value of an expression without constants and calls; it need not be finite. -/
def infixValue (A : Arithmetic) (cs : List Char) : Except Fault Number := do
  let tokens ← tokenize cs
  let reversed ← ReversePolish.ofTokens tokens
  ReversePolish.value A reversed

namespace Calls

/-- Splits at the parenthesis that closes the innermost of `depth + 1` open ones
and all of them. -/
def closing? (depth : Nat) : List Char → Option (List Char × List Char)
  | [] => none
  | c :: rest =>
    if c = ')' then
      match depth with
      | 0 => some ([], rest)
      | depth + 1 => (closing? depth rest).map fun (inside, after) => (c :: inside, after)
    else if c = '(' then
      (closing? (depth + 1) rest).map fun (inside, after) => (c :: inside, after)
    else (closing? depth rest).map fun (inside, after) => (c :: inside, after)

theorem closing?_eq {depth : Nat} {cs inside after : List Char}
    (h : closing? depth cs = some (inside, after)) : cs = inside ++ ')' :: after := by
  induction cs generalizing depth inside after with
  | nil => cases h
  | cons c rest ih =>
    have hcons : ∀ {d : Nat}, (closing? d rest).map
        (fun (p : List Char × List Char) => (c :: p.1, p.2)) = some (inside, after) →
        c :: rest = inside ++ ')' :: after := by
      intro d hd
      obtain ⟨⟨i, a⟩, hia, heq⟩ := Option.map_eq_some_iff.1 hd
      simp only [Prod.mk.injEq] at heq
      obtain ⟨rfl, rfl⟩ := heq
      rw [ih hia]
      rfl
    unfold closing? at h
    split at h
    · rename_i hc
      subst hc
      split at h
      · simp only [Option.some.injEq, Prod.mk.injEq] at h
        obtain ⟨rfl, rfl⟩ := h
        rfl
      · exact hcons h
    · split at h <;> exact hcons h

def splitName (cs : List Char) : List Char × List Char :=
  ((cs.takeWhile Char.isAlpha).map Char.toLower, cs.dropWhile Char.isAlpha)

def callee (cs : List Char) : Except Fault (Elementary × List Char) :=
  let (name, behind) := splitName cs
  match Elementary.ofName? name with
  | none => .error (.unknownFunction name)
  | some f =>
    match behind.dropWhile isBlank with
    | '(' :: rest => .ok (f, rest)
    | _ => .error (.missingParenthesis f)

theorem length_dropWhile_le (p : Char → Bool) (cs : List Char) :
    (cs.dropWhile p).length ≤ cs.length := by
  have := congrArg List.length (List.takeWhile_append_dropWhile (p := p) (l := cs))
  simp only [List.length_append] at this
  omega

theorem callee_length {cs rest : List Char} {f : Elementary} (h : callee cs = .ok (f, rest)) :
    rest.length < cs.length := by
  simp only [callee] at h
  split at h
  · cases h
  · split at h
    · rename_i g hg tail heq
      injection h with h
      simp only [Prod.mk.injEq] at h
      obtain ⟨_, rfl⟩ := h
      have h1 := length_dropWhile_le isBlank (splitName cs).2
      rw [heq, List.length_cons] at h1
      have h2 : (splitName cs).2.length ≤ cs.length := length_dropWhile_le _ _
      omega
    · cases h

/-- The text behind the character `previous`, in a call of depth `depth`, with its
calls replaced by their values. -/
def expandAfter (A : Arithmetic) (depth : Nat) (previous : Option Char) (cs : List Char) :
    Except Fault (List Char) :=
  match cs with
  | [] => .ok []
  | c :: after =>
    if !c.isAlpha || marksExponent previous (c :: after) then do
      let expanded ← expandAfter A depth (some c) after
      pure (c :: expanded)
    else
      match _ : callee (c :: after) with
      | .error e => .error e
      | .ok (f, rest) =>
        if Fault.maxCallDepth ≤ depth then .error .callsTooDeep
        else
          match _ : closing? 0 rest with
          | none => .error (.unclosedCall f)
          | some (inside, behind) => do
            let argument ← expandAfter A (depth + 1) none inside
            let x ← infixValue A argument
            let value ← f.apply A x
            let expanded ← expandAfter A depth (some ')') behind
            pure ('(' :: value.text ++ ')' :: expanded)
termination_by cs.length
decreasing_by
  · simp
  · have h1 := callee_length (by assumption)
    have h2 := congrArg List.length (closing?_eq (by assumption))
    simp only [List.length_append, List.length_cons] at *
    omega
  · have h1 := callee_length (by assumption)
    have h2 := congrArg List.length (closing?_eq (by assumption))
    simp only [List.length_append, List.length_cons] at *
    omega

def expand (A : Arithmetic) (cs : List Char) : Except Fault (List Char) :=
  expandAfter A 0 none cs

end Calls

end Calculator
