import Calculator.Proofs.State.History
import Calculator.Proofs.Text.Structured

/-! Reading back what was stored. Every part of the stored text, from a word to a whole
record, is read off the front of any text. Main statement: a saved state is restored
with its history and its preferences, and with sound on if the text has no sound field. -/

set_option autoImplicit false

namespace Calculator

open Structured

namespace Saved

theorem fill_none {α β : Type} {read : List Char → Option (α × List Char)} {a : α}
    {cs rest : List Char} (h : read cs = some (a, rest)) (set : α → β) :
    fill none read set cs = some (set a, rest) := by
  rw [fill, h]
  rfl

theorem word?_word {α : Type} {ofWord? : List Char → Option α} {a : α} {word tail : List Char}
    (hword : isWord word = true) (ha : ofWord? word = some a) (htail : EndsWord tail) :
    word? ofWord? (word ++ tail) = some (a, tail) := by
  rw [word?, identifier?_word hword htail, Option.bind_eq_bind, Option.bind_some]
  dsimp only
  rw [ha]
  rfl

theorem word?_theme (t : Theme) {tail : List Char} (htail : EndsWord tail) :
    word? Theme.ofWord? (t.word ++ tail) = some (t, tail) := by
  refine word?_word ?_ (Theme.ofWord?_word t) htail
  cases t <;> rfl

theorem word?_mode (m : Mode) {tail : List Char} (htail : EndsWord tail) :
    word? Mode.ofWord? (m.word ++ tail) = some (m, tail) := by
  refine word?_word ?_ (Mode.ofWord?_word m) htail
  cases m <;> rfl

theorem boolean?_boolWord (b : Bool) {tail : List Char} (htail : EndsWord tail) :
    boolean? (boolWord b ++ tail) = some (b, tail) := by
  have hword : isWord (boolWord b) = true := by cases b <;> rfl
  have h := keyword?_word hword htail
  cases b with
  | true =>
    rw [boolWord, if_pos rfl] at h ⊢
    rw [boolean?, h]
  | false =>
    have htrue : keyword? "true".toList ("false".toList ++ tail) = none :=
      keyword?_cons_of_ne rfl (by decide) _ _
    rw [boolWord, if_neg (by decide)] at h ⊢
    rw [boolean?, htrue]
    dsimp only
    rw [h]
    rfl

theorem endsWord_comma (cs : List Char) : EndsWord (',' :: cs) := by
  rintro _ ⟨⟩
  rfl

theorem endsWord_closing (cs : List Char) : EndsWord (')' :: cs) := by
  rintro _ ⟨⟩
  rfl

theorem entryWire_append (e : Entry) (tail : List Char) :
    e.wire ++ tail =
      '(' :: ("expression".toList ++ ':' :: (Quoted.encode e.expression ++
        ',' :: ("resultat".toList ++ ':' :: (Quoted.encode e.result ++ ')' :: tail)))) := by
  have hfirst : "(expression:".toList = '(' :: "expression".toList ++ [':'] := rfl
  have hsecond : ",resultat:".toList = ',' :: "resultat".toList ++ [':'] := rfl
  have hlast : ")".toList = [')'] := rfl
  unfold Entry.wire
  rw [hfirst, hsecond, hlast]
  simp only [List.append_assoc, List.cons_append, List.nil_append]

theorem entryRecord?_wire {ext : Extensions} (hext : ext.namedRecords = false) (room : Nat)
    (e : Entry) (tail : List Char) : entryRecord? ext room (e.wire ++ tail) = some (e, tail) := by
  have hexpression : ∀ rest, EntryDraft.field ext (room - 2) "expression".toList ⟨none, none⟩
      (Quoted.encode e.expression ++ rest) = some (⟨some e.expression, none⟩, rest) := by
    intro rest
    rw [EntryDraft.field, if_pos rfl]
    exact fill_none (quoted?_encode _ _) _
  have hresult : ∀ rest, EntryDraft.field ext (room - 2) "resultat".toList ⟨some e.expression, none⟩
      (Quoted.encode e.result ++ rest) = some (⟨some e.expression, some e.result⟩, rest) := by
    intro rest
    rw [EntryDraft.field, if_neg (by decide), if_pos rfl]
    exact fill_none (quoted?_encode _ _) _
  have hfields : ∀ bound, fields? (EntryDraft.field ext (room - 2)) (bound + 1 + 1) ⟨none, none⟩
      ("expression".toList ++ ':' :: (Quoted.encode e.expression ++
        ',' :: ("resultat".toList ++ ':' :: (Quoted.encode e.result ++ ')' :: tail)))) =
      some (⟨some e.expression, some e.result⟩, tail) := by
    intro bound
    rw [fields?_comma rfl (hexpression _),
      fields?_last rfl (hresult _)]
  rw [entryWire_append, entryRecord?, record?_of_fields hext ?_ hfields]
  · rfl
  · rw [List.length_append]
    exact Nat.le_add_right_of_le (by decide)

theorem entryWires_append_cons (e f : Entry) (es : List Entry) (tail : List Char) :
    Entry.wires (e :: f :: es) ++ tail = e.wire ++ ',' :: (Entry.wires (f :: es) ++ tail) := by
  rw [Entry.wires, List.append_assoc, List.cons_append]
  exact List.cons_ne_nil f es

theorem expect?_entry (e : Entry) (tail : List Char) : expect? ']' (e.wire ++ tail) = none := by
  rw [entryWire_append]
  exact expect?_cons_of_ne rfl (by decide) _

theorem items?_wires {ext : Extensions} (hext : ext.namedRecords = false) (room : Nat)
    {bound : Nat} {es : List Entry} (hbound : es.length < bound) (tail : List Char) :
    items? (entryRecord? ext room) ']' bound (Entry.wires es ++ ']' :: tail) = some (es, tail) := by
  obtain ⟨bound, rfl⟩ := Nat.exists_eq_succ_of_ne_zero (Nat.ne_zero_of_lt hbound)
  induction es generalizing bound with
  | nil => exact items?_nil rfl bound tail
  | cons e es ih =>
    cases es with
    | nil =>
      exact items?_last rfl (by decide) (expect?_entry e _)
        (entryRecord?_wire hext room e _) bound
    | cons f es =>
      obtain ⟨bound, rfl⟩ := Nat.exists_eq_succ_of_ne_zero
        (Nat.ne_zero_of_lt (Nat.lt_of_succ_lt_succ hbound))
      rw [entryWires_append_cons, items?_comma (expect?_entry e _) (entryRecord?_wire hext room e _),
        ih bound (Nat.lt_of_succ_lt_succ hbound)]
      rfl

theorem length_le_wires (es : List Entry) : es.length ≤ (Entry.wires es).length := by
  have hpos : ∀ e : Entry, 0 < e.wire.length := by
    intro e
    have h := congrArg List.length (entryWire_append e [])
    rw [List.append_nil] at h
    rw [h]
    exact Nat.succ_pos _
  induction es with
  | nil => exact Nat.le_refl 0
  | cons e es ih =>
    cases es with
    | nil => exact hpos e
    | cons f es =>
      have h := congrArg List.length (entryWires_append_cons e f es [])
      simp only [List.append_nil, List.length_append, List.length_cons] at h ih ⊢
      omega

theorem list?_wires {ext : Extensions} (hext : ext.namedRecords = false) (room : Nat)
    (es : List Entry) (tail : List Char) :
    list? (entryRecord? ext room) ('[' :: (Entry.wires es ++ ']' :: tail)) = some (es, tail) := by
  rw [list?, expect?_cons rfl, Option.bind_eq_bind, Option.bind_some]
  refine items?_wires hext room ?_ tail
  rw [List.length_append]
  exact Nat.lt_succ_of_le (Nat.le_add_right_of_le (length_le_wires es))

section Preferences

variable {ext : Extensions} (hext : ext.namedRecords = false) (room : Nat) (p : Preferences)
  (tail : List Char)

def modeText (p : Preferences) : List Char :=
  "(theme:".toList ++ p.theme.word ++ ",mode:".toList ++ p.mode.word

theorem preferencesField_theme (rest : List Char) :
    PreferencesDraft.field ext (room - 2) "theme".toList ⟨none, none, none⟩
      (p.theme.word ++ ',' :: rest) = some (⟨some p.theme, none, none⟩, ',' :: rest) := by
  rw [PreferencesDraft.field, if_pos rfl]
  exact fill_none (word?_theme _ (endsWord_comma _)) _

theorem preferencesField_mode {rest : List Char} (hrest : EndsWord rest) :
    PreferencesDraft.field ext (room - 2) "mode".toList ⟨some p.theme, none, none⟩
      (p.mode.word ++ rest) = some (⟨some p.theme, some p.mode, none⟩, rest) := by
  rw [PreferencesDraft.field, if_neg (by decide), if_pos rfl]
  exact fill_none (word?_mode _ hrest) _

theorem preferencesField_sound {rest : List Char} (hrest : EndsWord rest) :
    PreferencesDraft.field ext (room - 2) "son".toList ⟨some p.theme, some p.mode, none⟩
      (boolWord p.sound ++ rest) =
      some (⟨some p.theme, some p.mode, some p.sound⟩, rest) := by
  rw [PreferencesDraft.field, if_neg (by decide), if_neg (by decide), if_pos rfl]
  exact fill_none (boolean?_boolWord _ hrest) _

theorem modeText_append (rest : List Char) :
    modeText p ++ rest =
      '(' :: ("theme".toList ++ ':' :: (p.theme.word ++
        ',' :: ("mode".toList ++ ':' :: (p.mode.word ++ rest)))) := by
  have hfirst : "(theme:".toList = '(' :: "theme".toList ++ [':'] := rfl
  have hsecond : ",mode:".toList = ',' :: "mode".toList ++ [':'] := rfl
  unfold modeText
  rw [hfirst, hsecond]
  simp only [List.append_assoc, List.cons_append, List.nil_append]

theorem preferencesWire_append :
    p.wire ++ tail =
      modeText p ++ ',' :: ("son".toList ++ ':' :: (boolWord p.sound ++ ')' :: tail)) := by
  have hsound : ",son:".toList = ',' :: "son".toList ++ [':'] := rfl
  have hlast : ")".toList = [')'] := rfl
  unfold Preferences.wire modeText
  rw [hsound, hlast]
  simp only [List.append_assoc, List.cons_append, List.nil_append]

include hext in
theorem preferencesRecord?_wire :
    preferencesRecord? ext room (p.wire ++ tail) = some (p, tail) := by
  have hfields : ∀ bound, fields? (PreferencesDraft.field ext (room - 2)) (bound + 2 + 1)
      ⟨none, none, none⟩ ("theme".toList ++ ':' :: (p.theme.word ++
        ',' :: ("mode".toList ++ ':' :: (p.mode.word ++
          ',' :: ("son".toList ++ ':' :: (boolWord p.sound ++ ')' :: tail)))))) =
      some (⟨some p.theme, some p.mode, some p.sound⟩, tail) := by
    intro bound
    rw [fields?_comma rfl (preferencesField_theme room p _),
      fields?_comma rfl (preferencesField_mode room p (endsWord_comma _)),
      fields?_last rfl (preferencesField_sound room p (endsWord_closing _))]
  rw [preferencesWire_append, modeText_append, preferencesRecord?,
    record?_of_fields hext ?_ hfields]
  · rfl
  · rw [List.length_append]
    exact Nat.le_add_right_of_le (by decide)

include hext in
theorem preferencesRecord?_modeText :
    preferencesRecord? ext room (modeText p ++ ')' :: tail) = some ({ p with sound := true }, tail) := by
  have hfields : ∀ bound, fields? (PreferencesDraft.field ext (room - 2)) (bound + 1 + 1)
      ⟨none, none, none⟩ ("theme".toList ++ ':' :: (p.theme.word ++
        ',' :: ("mode".toList ++ ':' :: (p.mode.word ++ ')' :: tail)))) =
      some (⟨some p.theme, some p.mode, none⟩, tail) := by
    intro bound
    rw [fields?_comma rfl (preferencesField_theme room p _),
      fields?_last rfl (preferencesField_mode room p (endsWord_closing _))]
  rw [modeText_append, preferencesRecord?, record?_of_fields hext ?_ hfields]
  · rfl
  · rw [List.length_append]
    exact Nat.le_add_right_of_le (by decide)

end Preferences

def historyText (es : List Entry) : List Char :=
  "(historique:[".toList ++ Entry.wires es ++ "],preferences:".toList

theorem historyText_append (es : List Entry) (rest : List Char) :
    historyText es ++ rest =
      '(' :: ("historique".toList ++ ':' :: '[' :: (Entry.wires es ++
        ']' :: ',' :: ("preferences".toList ++ ':' :: rest))) := by
  have hfirst : "(historique:[".toList = '(' :: "historique".toList ++ [':', '['] := rfl
  have hsecond : "],preferences:".toList = ']' :: ',' :: "preferences".toList ++ [':'] := rfl
  unfold historyText
  rw [hfirst, hsecond]
  simp only [List.append_assoc, List.cons_append, List.nil_append]

theorem ofText?_history (es : List Entry) {p : Preferences} {cs : List Char}
    (h : preferencesRecord? .plain (levels - 2) cs = some (p, [')'])) :
    ofText? (historyText es ++ cs) = some ⟨es, p⟩ := by
  have hhistory : ∀ rest, Draft.field .plain (levels - 2) "historique".toList ⟨none, none⟩
      ('[' :: (Entry.wires es ++ ']' :: rest)) = some (⟨some es, none⟩, rest) := by
    intro rest
    rw [Draft.field, if_pos rfl]
    exact fill_none (list?_wires rfl _ es rest) _
  have hpreferences : Draft.field .plain (levels - 2) "preferences".toList ⟨some es, none⟩
      cs = some (⟨some es, some p⟩, [')']) := by
    rw [Draft.field, if_neg (by decide), if_pos rfl]
    exact fill_none h _
  have hfields : ∀ bound, fields? (Draft.field .plain (levels - 2)) (bound + 1 + 1) ⟨none, none⟩
      ("historique".toList ++ ':' :: '[' :: (Entry.wires es ++
        ']' :: ',' :: ("preferences".toList ++ ':' :: cs))) =
      some (⟨some es, some p⟩, []) := by
    intro bound
    rw [fields?_comma rfl (hhistory _),
      fields?_last rfl hpreferences]
  rw [historyText_append, ofText?, header?_opening, Option.bind_eq_bind, Option.bind_some]
  dsimp only
  rw [record?_of_fields rfl ?_ hfields]
  · rfl
  · rw [List.length_append]
    exact Nat.le_add_right_of_le (by decide)

theorem ofText?_wire (saved : Saved) : ofText? saved.wire = some saved := by
  have hlast : ")".toList = [')'] := rfl
  have hwire : saved.wire = historyText saved.history ++ (saved.preferences.wire ++ [')']) := by
    unfold wire historyText
    rw [hlast]
    simp only [List.append_assoc]
  rw [hwire]
  exact ofText?_history _ (preferencesRecord?_wire rfl _ _ _)

theorem wire_eq_sound (saved : Saved) :
    saved.wire = historyText saved.history ++ modeText saved.preferences ++
      (",son:".toList ++ boolWord saved.preferences.sound) ++ "))".toList := by
  have hclosings : "))".toList = ")".toList ++ ")".toList := rfl
  unfold wire historyText Preferences.wire modeText
  rw [hclosings]
  simp only [List.append_assoc]

theorem ofText?_without_sound (es : List Entry) (p : Preferences) :
    ofText? (historyText es ++ modeText p ++ "))".toList) = some ⟨es, { p with sound := true }⟩ := by
  rw [List.append_assoc]
  exact ofText?_history _ (preferencesRecord?_modeText rfl _ _ [')'])

end Saved

namespace State

theorem load_of_ofText? {text : List Char} {es : List Entry} {p : Preferences}
    (h : Saved.ofText? text = some ⟨es, p⟩) (hes : es.length ≤ historyLimit) :
    load (some text) = { initial with history := es, preferences := p } := by
  rw [load, Option.bind_some, h]
  dsimp only
  rw [ofSaved, List.take_of_length_le hes]

/-- The history never has more entries than a text may restore, and a state with no
more is restored from its saved text; where the text lacks its last field, sound is on. -/
theorem load_save :
    (∀ (stored : Option (List Char)) (actions : List (Number × Action)),
      ((load stored).run actions).history.length ≤ historyLimit) ∧
    ∀ s : State, s.history.length ≤ historyLimit →
      load (some s.save) =
          { initial with history := s.history, preferences := s.preferences } ∧
        ∃ front : List Char,
          s.save = front ++ (",son:".toList ++ boolWord s.preferences.sound) ++ "))".toList ∧
          load (some (front ++ "))".toList)) =
            { initial with
              history := s.history
              preferences := { s.preferences with sound := true } } := by
  refine ⟨fun stored actions => ?_, fun s hs => ⟨?_, ?_⟩⟩
  · exact run_invariant (P := fun s => s.history.length ≤ historyLimit)
      (fun _ _ a => length_history_perform_le a) (length_history_load_le stored) actions
  · exact load_of_ofText? (Saved.ofText?_wire s.toSaved) hs
  · exact ⟨_, Saved.wire_eq_sound s.toSaved,
      load_of_ofText? (Saved.ofText?_without_sound s.history s.preferences) hs⟩

/-- Entries that look like stored text themselves, with quotes, backslashes, control
and combining characters. -/
def structuredEntries : State :=
  { initial with
    expression := "1+".toList
    history :=
      [⟨"\"),(expression:\"".toList, "),],preferences:(son:false)\\".toList⟩,
        ⟨['\x00', '\n', '\'', '\u0301', '\u200e'], "//".toList⟩]
    preferences := ⟨.light, .scientific, false⟩
    clearArmed := true }

theorem load_save_structuredEntries :
    structuredEntries.history.length ≤ historyLimit ∧
      load (some structuredEntries.save) =
          { initial with
            history := structuredEntries.history
            preferences := ⟨.light, .scientific, false⟩ } ∧
        ∃ front : List Char,
          structuredEntries.save = front ++ (",son:".toList ++ "false".toList) ++ "))".toList ∧
          load (some (front ++ "))".toList)) =
            { initial with
              history := structuredEntries.history
              preferences := ⟨.light, .scientific, true⟩ } := by
  have hlength : structuredEntries.history.length ≤ historyLimit := by decide
  exact ⟨hlength, load_save.2 structuredEntries hlength⟩

end State

end Calculator
