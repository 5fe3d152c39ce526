import Calculator.Saved.Basic
import Calculator.Text.Structured.Value

/-! The stored text of the history and the preferences. It is written without
blanks and with every field; it is read with its fields in any order, the sound
field may be missing, and fields of other names are passed over. Each record takes
two levels of nesting, and so does the list of entries. -/

set_option autoImplicit false

namespace Calculator

namespace Theme

def word : Theme → List Char
  | .dark => "Sombre".toList
  | .light => "Clair".toList

def ofWord? (cs : List Char) : Option Theme := [dark, light].find? (·.word == cs)

theorem ofWord?_word (t : Theme) : ofWord? t.word = some t := by
  cases t <;> decide

end Theme

namespace Mode

def word : Mode → List Char
  | .basic => "Basique".toList
  | .scientific => "Scientifique".toList

def ofWord? (cs : List Char) : Option Mode := [basic, scientific].find? (·.word == cs)

theorem ofWord?_word (m : Mode) : ofWord? m.word = some m := by
  cases m <;> decide

end Mode

def boolWord (b : Bool) : List Char := if b then "true".toList else "false".toList

def Preferences.wire (p : Preferences) : List Char :=
  "(theme:".toList ++ p.theme.word ++ ",mode:".toList ++ p.mode.word ++ ",son:".toList ++
    boolWord p.sound ++ ")".toList

def Entry.wire (e : Entry) : List Char :=
  "(expression:".toList ++ Quoted.encode e.expression ++ ",resultat:".toList ++
    Quoted.encode e.result ++ ")".toList

def Entry.wires : List Entry → List Char
  | [] => []
  | [e] => e.wire
  | e :: es => e.wire ++ ',' :: wires es

def Saved.wire (s : Saved) : List Char :=
  "(historique:[".toList ++ Entry.wires s.history ++ "],preferences:".toList ++
    s.preferences.wire ++ ")".toList

namespace Saved

open Structured

def fill {α β : Type} (field : Option α) (read : List Char → Option (α × List Char))
    (set : α → β) (cs : List Char) : Option (β × List Char) :=
  match field with
  | some _ => none
  | none => (read cs).map fun (a, rest) => (set a, rest)

def word? {α : Type} (ofWord? : List Char → Option α) (cs : List Char) :
    Option (α × List Char) := do
  let (name, rest) ← identifier? cs
  let a ← ofWord? name
  pure (a, rest)

structure EntryDraft where
  expression : Option (List Char)
  result : Option (List Char)

def EntryDraft.field (e : Extensions) (room : Nat) (name : List Char) (d : EntryDraft)
    (cs : List Char) : Option (EntryDraft × List Char) :=
  if name = "expression".toList then
    fill d.expression quoted? (fun x => { d with expression := some x }) cs
  else if name = "resultat".toList then
    fill d.result quoted? (fun x => { d with result := some x }) cs
  else (value? e room cs).map fun (_, rest) => (d, rest)

def entryRecord? (e : Extensions) (room : Nat) (cs : List Char) : Option (Entry × List Char) := do
  let (d, rest) ←
    record? e "EntreeHistorique".toList (EntryDraft.field e (room - 2)) ⟨none, none⟩ cs
  pure (⟨← d.expression, ← d.result⟩, rest)

structure PreferencesDraft where
  theme : Option Theme
  mode : Option Mode
  sound : Option Bool

def PreferencesDraft.field (e : Extensions) (room : Nat) (name : List Char) (d : PreferencesDraft)
    (cs : List Char) : Option (PreferencesDraft × List Char) :=
  if name = "theme".toList then
    fill d.theme (word? Theme.ofWord?) (fun x => { d with theme := some x }) cs
  else if name = "mode".toList then
    fill d.mode (word? Mode.ofWord?) (fun x => { d with mode := some x }) cs
  else if name = "son".toList then
    fill d.sound boolean? (fun x => { d with sound := some x }) cs
  else (value? e room cs).map fun (_, rest) => (d, rest)

/-- Sound is on where the field is missing. -/
def preferencesRecord? (e : Extensions) (room : Nat) (cs : List Char) :
    Option (Preferences × List Char) := do
  let (d, rest) ←
    record? e "Preferences".toList (PreferencesDraft.field e (room - 2)) ⟨none, none, none⟩ cs
  pure (⟨← d.theme, ← d.mode, d.sound.getD true⟩, rest)

structure Draft where
  history : Option (List Entry)
  preferences : Option Preferences

def Draft.field (e : Extensions) (room : Nat) (name : List Char) (d : Draft)
    (cs : List Char) : Option (Draft × List Char) :=
  if name = "historique".toList then
    fill d.history (list? (entryRecord? e (room - 2))) (fun x => { d with history := some x }) cs
  else if name = "preferences".toList then
    fill d.preferences (preferencesRecord? e room) (fun x => { d with preferences := some x }) cs
  else (value? e room cs).map fun (_, rest) => (d, rest)

def ofText? (cs : List Char) : Option Saved := do
  let (e, cs) ← header? cs
  let (d, rest) ←
    record? e "EtatPersistant".toList (Draft.field e (levels - 2)) ⟨none, none⟩ cs
  let history ← d.history
  let preferences ← d.preferences
  if skip? rest = some [] then some ⟨history, preferences⟩ else none

end Saved

namespace State

/-- The state at the start: restored from a stored text, and fresh when there is
none or it cannot be read. -/
def load (stored : Option (List Char)) : State :=
  match stored.bind Saved.ofText? with
  | some saved => ofSaved saved
  | none => initial

def save (s : State) : List Char := s.toSaved.wire

end State

end Calculator
