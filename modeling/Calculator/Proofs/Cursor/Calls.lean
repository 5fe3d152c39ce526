import Calculator.Proofs.Expression.Heading
import Calculator.Proofs.Cursor.Token

set_option autoImplicit false

namespace Calculator

namespace Cursor

/-- The position of the parenthesis that brings the count of open ones to zero,
when `count` are open before position `j`. -/
def closingFrom (cs : List Char) (count j : Nat) : Except Stop (Option Nat) :=
  if _ : j < cs.length then do
    let c ← read cs j
    if c = '(' then closingFrom cs (count + 1) (j + 1)
    else if c = ')' then do
      let left ← decrement count
      if left = 0 then .ok (some j) else closingFrom cs left (j + 1)
    else closingFrom cs count (j + 1)
  else .ok none
termination_by cs.length - j

theorem map_position_cons (r : Option (List Char × List Char)) (c : Char) (j : Nat) :
    (r.map fun (inside, behind) => (c :: inside, behind)).map (j + ·.1.length) =
      r.map (j + 1 + ·.1.length) := by
  cases r with
  | none => rfl
  | some parts =>
    simp only [Option.map_some, List.length_cons, Option.some.injEq]
    omega

theorem closingFrom_succ (cs : List Char) (depth j : Nat) :
    closingFrom cs (depth + 1) j =
      .ok ((Calls.closing? depth (cs.drop j)).map (j + ·.1.length)) := by
  -- One more is open than `depth` says, so that a step down never starts from zero.
  generalize hcount : depth + 1 = count
  fun_induction closingFrom cs count j generalizing depth with
  | case1 count j h hopening hclosing hother =>
    subst hcount
    rw [read_of_lt h, drop_of_lt h, Stop.ok_bind]
    split
    · rename_i ho
      rw [ho, Calls.closing?_opening, map_position_cons, hopening (depth + 1) rfl]
    · rename_i ho
      split
      · rename_i hc
        rw [hc]
        cases depth with
        | zero =>
          rw [Calls.closing?.eq_def]
          rfl
        | succ depth =>
          rw [Calls.closing?_closing, map_position_cons]
          exact hclosing (depth + 1) depth rfl
      · rename_i hc
        rw [Calls.closing?_of_ne ho hc, map_position_cons, hother depth rfl]
  | case2 count j h =>
    rw [List.drop_eq_nil_of_le (by omega)]
    rfl

theorem closingFrom_opening {cs rest : List Char} {i : Nat} (h : cs.drop i = '(' :: rest) :
    closingFrom cs 0 i = .ok ((Calls.closing? 0 rest).map (i + 1 + ·.1.length)) := by
  have hread := getElem?_of_drop h
  rw [closingFrom, dif_pos (List.getElem?_eq_some_iff.1 hread).1, read_eq_ok_iff.2 hread,
    Stop.ok_bind, if_pos rfl, closingFrom_succ, drop_succ_of_drop h]

example : closingFrom ")".toList 0 0 = .error (.panic .counter) := by cbv

def calleeAt (cs : List Char) (start : Nat) : Except Stop (Elementary × Nat) := do
  let stop ← skipWhile Char.isAlpha cs start
  let letters ← slice cs start stop
  match Elementary.ofName? (letters.map Char.toLower) with
  | none => .error (.fault (.unknownFunction (letters.map Char.toLower)))
  | some f => do
    let opening ← skipWhile isBlank cs stop
    if cs[opening]? = some '(' then .ok (f, opening)
    else .error (.fault (.missingParenthesis f))

theorem dropWhile_of_callee {cs rest : List Char} {f : Elementary}
    (h : Calls.callee cs = .ok (f, rest)) :
    (cs.dropWhile Char.isAlpha).dropWhile isBlank = '(' :: rest := by
  simp only [Calls.callee, Calls.splitName] at h
  split at h
  · cases h
  · split at h
    · rename_i hrest
      cases h
      exact hrest
    · cases h

theorem calleeAt_eq {cs : List Char} {i : Nat} (h : i ≤ cs.length) :
    ∃ opening, i ≤ opening ∧
      calleeAt cs i = ofResult ((Calls.callee (cs.drop i)).map fun (f, _) => (f, opening)) ∧
      ∀ f rest, Calls.callee (cs.drop i) = .ok (f, rest) → cs.drop opening = '(' :: rest := by
  have hbehind := drop_takeWhile Char.isAlpha cs i
  have hrest := drop_takeWhile isBlank cs (i + ((cs.drop i).takeWhile Char.isAlpha).length)
  rw [hbehind] at hrest
  refine ⟨_, ?_, ?_, fun f rest hcallee => hrest.trans (dropWhile_of_callee hcallee)⟩
  · omega
  rw [calleeAt, skipWhile_eq, Stop.ok_bind, slice_takeWhile _ h, Stop.ok_bind]
  simp only [Calls.callee, Calls.splitName]
  cases Elementary.ofName? (((cs.drop i).takeWhile Char.isAlpha).map Char.toLower) with
  | none => rfl
  | some f =>
    show (skipWhile _ _ _ >>= _) = _
    rw [skipWhile_eq, hbehind, Stop.ok_bind, ← List.head?_drop, hrest]
    dsimp only
    split
    · rename_i hhead
      obtain ⟨rest, hcons⟩ := List.head?_eq_some_iff.1 hhead
      rw [hcons]
      rfl
    · rename_i hhead
      split
      · rename_i hcons
        exact absurd (by rw [hcons]; rfl) hhead
      · rfl

/-- A call in a text: its function and the positions of its parentheses. -/
structure Call where
  function : Elementary
  opening : Nat
  closing : Nat
  deriving DecidableEq, Repr

def callAt (depth : Nat) (cs : List Char) (start : Nat) : Except Stop Call := do
  let (f, opening) ← calleeAt cs start
  if Fault.maxCallDepth ≤ depth then .error (.fault .callsTooDeep)
  else
    match ← closingFrom cs 0 opening with
    | none => .error (.fault (.unclosedCall f))
    | some closing => .ok ⟨f, opening, closing⟩

theorem callAt_eq {cs : List Char} {i : Nat} (h : i ≤ cs.length) (depth : Nat) :
    ∃ opening, i ≤ opening ∧
      callAt depth cs i = ofResult ((Calls.splitCall depth (cs.drop i)).map
        fun (f, inside, _) => ⟨f, opening, opening + 1 + inside.length⟩) ∧
      ∀ f inside behind, Calls.splitCall depth (cs.drop i) = .ok (f, inside, behind) →
        depth < Fault.maxCallDepth ∧ cs.drop (opening + 1) = inside ++ ')' :: behind := by
  obtain ⟨opening, hle, hcalleeAt, hopening⟩ := calleeAt_eq h
  refine ⟨opening, hle, ?_⟩
  rw [callAt, hcalleeAt, Calls.splitCall]
  cases hcallee : Calls.callee (cs.drop i) with
  | error f =>
    refine ⟨rfl, fun _ _ _ hsplit => ?_⟩
    cases hsplit
  | ok parts =>
    obtain ⟨f, rest⟩ := parts
    have hdrop := hopening f rest hcallee
    simp only [Fault.ok_bind, Stop.ok_bind, ofResult_ok, Except.map]
    split
    · refine ⟨rfl, fun _ _ _ hsplit => ?_⟩
      cases hsplit
    · rename_i hdepth
      rw [closingFrom_opening hdrop, Stop.ok_bind]
      cases hclosing : Calls.closing? 0 rest with
      | none =>
        refine ⟨rfl, fun _ _ _ hsplit => ?_⟩
        cases hsplit
      | some parts =>
        refine ⟨rfl, fun g inside behind hsplit => ?_⟩
        cases hsplit
        exact ⟨by omega, (drop_succ_of_drop hdrop).trans (Calls.closing?_eq hclosing)⟩

theorem callAt_error {cs : List Char} {depth i : Nat} {s : Stop} (h : i < cs.length)
    (hcall : callAt depth cs i = .error s) :
    ∃ f, s = .fault f ∧ Calls.splitCall depth (cs.drop i) = .error f := by
  obtain ⟨opening, _, heq, _⟩ := callAt_eq (Nat.le_of_lt h) depth
  rw [heq] at hcall
  cases hsplit : Calls.splitCall depth (cs.drop i) with
  | error f =>
    rw [hsplit] at hcall
    cases hcall
    exact ⟨f, rfl, rfl⟩
  | ok parts =>
    rw [hsplit] at hcall
    cases hcall

theorem callAt_ok {cs : List Char} {depth i : Nat} {call : Call} (h : i < cs.length)
    (hcall : callAt depth cs i = .ok call) :
    i < call.closing ∧ depth < Fault.maxCallDepth ∧ cs[call.closing]? = some ')' ∧
      ∃ inside, slice cs (call.opening + 1) call.closing = .ok inside ∧
        Calls.splitCall depth (cs.drop i) =
          .ok (call.function, inside, cs.drop (call.closing + 1)) := by
  obtain ⟨opening, hle, heq, hparts⟩ := callAt_eq (Nat.le_of_lt h) depth
  rw [heq] at hcall
  cases hsplit : Calls.splitCall depth (cs.drop i) with
  | error f =>
    rw [hsplit] at hcall
    cases hcall
  | ok parts =>
    obtain ⟨f, inside, behind⟩ := parts
    obtain ⟨hdepth, hdrop⟩ := hparts f inside behind hsplit
    have hclosing := drop_of_drop_append hdrop
    have hopening : opening + 1 ≤ cs.length := by
      have := congrArg List.length hdrop
      rw [List.length_drop, List.length_append, List.length_cons] at this
      omega
    rw [hsplit] at hcall
    cases hcall
    refine ⟨?_, hdepth, getElem?_of_drop hclosing, inside,
      slice_of_drop_append hopening hdrop, ?_⟩
    · show i < opening + 1 + _
      omega
    · rw [drop_succ_of_drop hclosing]

def isCopied (cs : List Char) (i : Nat) (c : Char) : Except Stop Bool :=
  if c.isAlpha then isMark cs i else .ok true

theorem isCopied_eq (cs : List Char) (i : Nat) (c : Char) :
    isCopied cs i c = .ok (!c.isAlpha || marksExponent (before cs i) (cs.drop i)) := by
  rw [isCopied, isMark_eq]
  cases c.isAlpha <;> rfl

/-- The text from a position on with its calls replaced by their values, behind the
text `out`; `valueOf` works out a function at an argument. -/
def replaceFrom (valueOf : Elementary → List Char → Except Stop Number) (depth : Nat)
    (cs : List Char) (i : Nat) (out : List Char) : Except Stop (List Char) :=
  if _ : i < cs.length then do
    let c ← read cs i
    if ← isCopied cs i c then replaceFrom valueOf depth cs (i + 1) (out ++ [c])
    else
      match _ : callAt depth cs i with
      | .error s => .error s
      | .ok call => do
        let argument ← slice cs (call.opening + 1) call.closing
        let value ← valueOf call.function argument
        replaceFrom valueOf depth cs (call.closing + 1) (out ++ ('(' :: value.text ++ [')']))
  else .ok out
termination_by cs.length - i
decreasing_by
  · omega
  · have := (callAt_ok (by assumption) (by assumption)).1
    omega

def plainValue (A : Arithmetic) (cs : List Char) : Except Stop Number := do
  let ts ← tokens cs
  ofResult (ReversePolish.ofTokens ts >>= ReversePolish.value A)

theorem plainValue_eq (A : Arithmetic) (cs : List Char) :
    plainValue A cs = ofResult (infixValue A cs) := by
  rw [plainValue, tokens_eq, infixValue, ofResult_bind]

/-- A text with its calls replaced by their values, when `frames` texts may be open
at once, this one included. -/
def expand (A : Arithmetic) : (frames depth : Nat) → List Char → Except Stop (List Char)
  | 0, _, _ => .error (.panic .frames)
  | frames + 1, depth, cs =>
    replaceFrom (fun f argument => do
      let expanded ← expand A frames (depth + 1) argument
      let x ← plainValue A expanded
      ofResult (f.apply A x)) depth cs 0 []

section

variable {A : Arithmetic} {depth : Nat}

theorem replaceFrom_eq {valueOf : Elementary → List Char → Except Stop Number}
    (hvalue : depth < Fault.maxCallDepth → ∀ f argument,
      valueOf f argument = ofResult (Calls.callValue A (depth + 1) f argument))
    (cs : List Char) (i : Nat) (out : List Char) :
    replaceFrom valueOf depth cs i out =
      (ofResult (Calls.expandAfter A depth (before cs i) (cs.drop i))).map (out ++ ·) := by
  fun_induction replaceFrom valueOf depth cs i out with
  | case1 i out h hcopy hcall =>
    rw [read_of_lt h, Stop.ok_bind, isCopied_eq, Stop.ok_bind]
    split
    · rename_i hc
      rw [hcopy, before_succ, List.getElem?_eq_getElem h]
      rw [drop_of_lt h] at hc ⊢
      rw [Calls.expandAfter_copy (by simpa using hc)]
      cases Calls.expandAfter A depth (some cs[i]) (cs.drop (i + 1)) with
      | error f => rfl
      | ok xs => simp [Except.map]
    · rename_i hc
      obtain ⟨hletter, hmark⟩ : cs[i].isAlpha = true ∧
          marksExponent (before cs i) (cs[i] :: cs.drop (i + 1)) = false := by
        rw [drop_of_lt h] at hc
        simpa using hc
      rw [drop_of_lt h, Calls.expandAfter_splitCall hletter hmark, ← drop_of_lt h]
      split
      · rename_i s hs
        obtain ⟨f, rfl, hsplit⟩ := callAt_error h hs
        rw [hsplit]
        rfl
      · rename_i call hs
        obtain ⟨_, hdepth, hclosing, inside, hslice, hsplit⟩ := callAt_ok h hs
        rw [hslice, hsplit, Stop.ok_bind, Fault.ok_bind, hvalue hdepth]
        dsimp only
        cases Calls.callValue A (depth + 1) call.function inside with
        | error f => rfl
        | ok value =>
          -- The reading goes on behind the parenthesis that closes the call.
          rw [ofResult_ok, Stop.ok_bind, Fault.ok_bind, hcall call hs, before_succ, hclosing]
          cases Calls.expandAfter A depth (some ')') (cs.drop (call.closing + 1)) with
          | error f => rfl
          | ok xs => simp [Except.map]
  | case2 i out h =>
    rw [List.drop_eq_nil_of_le (by omega), Calls.expandAfter]
    exact congrArg Except.ok (List.append_nil out).symm

/-- The frames of the nested calls and the one of the text itself are enough. -/
theorem expand_eq (A : Arithmetic) {frames depth : Nat} (hdepth : depth ≤ Fault.maxCallDepth)
    (hframes : Fault.maxCallDepth < frames + depth) (cs : List Char) :
    expand A frames depth cs = ofResult (Calls.expandAfter A depth none cs) := by
  -- An argument has one frame less and lies one call deeper: the sum stays.
  induction frames generalizing depth cs with
  | zero => omega
  | succ frames ih =>
    rw [expand, replaceFrom_eq (A := A)]
    · show (ofResult (Calls.expandAfter A depth none cs)).map _ = _
      cases Calls.expandAfter A depth none cs <;> rfl
    · intro hlt f argument
      rw [ih (by omega) (by omega), Calls.callValue, ofResult_bind]
      congr 1
      funext expanded
      rw [plainValue_eq, ofResult_bind]

end

theorem splitCall_nested {depth : Nat} (h : depth < Fault.maxCallDepth) (f : Elementary)
    {cs : List Char} (hcs : Matched cs) (n : Nat) :
    Calls.splitCall depth (Calls.nested f cs (n + 1)) = .ok (f, Calls.nested f cs n, []) := by
  rw [Calls.nested, Elementary.call_eq]
  exact Calls.splitCall_text f.heading h (Calls.matched_nested f hcs n) []

/-- With no more frames than calls around it, a text is not reached. -/
theorem expand_nested (A : Arithmetic) (f : Elementary) {cs : List Char} (hcs : Matched cs)
    {frames depth n : Nat} (hframes : frames ≤ n) (hdepth : depth + n ≤ Fault.maxCallDepth) :
    expand A frames depth (Calls.nested f cs n) = .error (.panic .frames) := by
  induction n generalizing frames depth with
  | zero =>
    obtain rfl : frames = 0 := by omega
    rfl
  | succ n ih =>
    cases frames with
    | zero => rfl
    | succ frames =>
      have hlength : 0 < (Calls.nested f cs (n + 1)).length := by
        simp only [Calls.nested, List.length_append, List.length_cons]
        omega
      have hsplit : Calls.splitCall depth _ = _ := splitCall_nested (by omega) f hcs n
      rw [expand, replaceFrom, dif_pos hlength, read_of_lt hlength, Stop.ok_bind, isCopied_eq,
        Stop.ok_bind, if_neg (by cases f <;> simp [Calls.nested, Elementary.name, marksExponent])]
      split
      · rename_i s hs
        obtain ⟨g, _, hfault⟩ := callAt_error hlength hs
        cases hsplit.symm.trans hfault
      · rename_i call hs
        obtain ⟨_, _, _, inside, hslice, hcall⟩ := callAt_ok hlength hs
        have hparts := hsplit.symm.trans hcall
        simp only [Except.ok.injEq, Prod.mk.injEq] at hparts
        obtain ⟨_, rfl, _⟩ := hparts
        rw [hslice, Stop.ok_bind, ih (by omega) (by omega)]
        rfl

end Cursor

end Calculator
