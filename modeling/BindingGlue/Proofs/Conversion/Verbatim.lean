import Mathlib.Data.List.TakeWhile
import BindingGlue.Conversion.Expand

/-!
# Conversions that are filled in word for word

A conversion text made of literal texts and plain fields, `Part` by `Part`, is filled in by putting
the three values in the places of their fields, whatever the values are (`expand_written`): a brace
inside a value is never read as a field, and a literal brace is written double and read back as one.

The induction runs over the parts from the right, since filling in goes on with the text after a
part: each lemma on `fill` says what comes in front of the outcome of the rest.
-/

namespace BindingGlue.Conversion

/-- The values that a conversion text may ask for. -/
inductive Slot where
  | value
  | typed
  | constructor

/-- The name of the field that asks for a value. -/
def Slot.name : Slot → String
  | value => "value"
  | typed => "typed"
  | constructor => "from_generic"

/-- A part of a conversion text. -/
inductive Part where
  /-- Text that stands for itself. -/
  | literal (text : List Char)
  /-- A field without steps and without a style. -/
  | slot (asked : Slot)

/-- How a part is written: the braces of a literal text are doubled. -/
def Part.written : Part → List Char
  | .literal s => s.flatMap fun c ↦ if c = '\x7b' ∨ c = '\x7d' then [c, c] else [c]
  | .slot asked => '\x7b' :: (asked.name.toList ++ ['\x7d'])

/-- What a part is filled in with. -/
def Part.filled (values : Slot → String) : Part → List Char
  | .literal s => s
  | .slot asked => (values asked).toList

/-- The three values by their slots. -/
def slotValues (value typed constructor : String) : Slot → String
  | .value => value
  | .typed => typed
  | .constructor => constructor

variable {fillStyle : List Char → Except Fault (List Char)} {values : List (String × String)}
  {name rest out : List Char} {c : Char} {value : String}

/-! ### Literal texts -/

theorem fill_cons (hopen : c ≠ '\x7b') (hclose : c ≠ '\x7d')
    (h : fill fillStyle values 0 rest = .ok out) :
    fill fillStyle values 0 (c :: rest) = .ok (c :: out) := by
  rw [fill.eq_def]
  split <;> simp_all [bind, Except.bind, pure, Except.pure]

theorem fill_doubled (hc : c = '\x7b' ∨ c = '\x7d') (h : fill fillStyle values 0 rest = .ok out) :
    fill fillStyle values 0 (c :: c :: rest) = .ok (c :: out) := by
  rcases hc with rfl | rfl
  all_goals
    rw [fill, h]
    rfl

theorem fill_literal (s : List Char) (h : fill fillStyle values 0 rest = .ok out) :
    fill fillStyle values 0 ((Part.literal s).written ++ rest) = .ok (s ++ out) := by
  induction s with
  | nil => exact h
  | cons c s ih =>
    rw [Part.written, List.flatMap_cons, List.append_assoc]
    by_cases hc : c = '\x7b' ∨ c = '\x7d'
    · rw [if_pos hc]
      exact fill_doubled hc ih
    · rw [if_neg hc]
      rw [not_or] at hc
      exact fill_cons hc.1 hc.2 ih

/-! ### Fields -/

/-- The characters that do not belong to the path of a field, and those that divide it. -/
def pathMarks : List Char :=
  ['\x7b', '\x7d', ':', '!', '[', '.']

/-- A path without marks is taken up to the closing brace. -/
theorem takePath_append (hname : ∀ c ∈ name, c ∉ pathMarks) (seen : List Char) :
    takePath false seen (name ++ '\x7d' :: rest) = .ok (seen.reverse ++ name, '\x7d', rest) := by
  induction name generalizing seen with
  | nil => simp [takePath]
  | cons c name ih =>
    have hc := hname c List.mem_cons_self
    simp only [pathMarks, List.mem_cons, List.not_mem_nil, or_false, not_or] at hc
    obtain ⟨hopen, hclose, hcolon, hbang, hbracket, -⟩ := hc
    rw [List.cons_append, takePath]
    simp only [hopen, hclose, hcolon, hbang, hbracket, if_false, decide_false, Bool.or_false,
      Bool.false_eq_true]
    rw [ih (fun d hd ↦ hname d (List.mem_cons_of_mem _ hd))]
    simp

theorem takeField_append (hname : ∀ c ∈ name, c ∉ pathMarks) :
    takeField (name ++ '\x7d' :: rest) =
      .ok ({ path := name, showing? := none, style := [] }, rest) := by
  rw [takeField, takePath_append hname]
  rfl

/-- A name that starts with no digit is no number. -/
theorem wholeNumber?_eq_none (hname : ∀ c ∈ name.head?, Text.isDecimal c = false) :
    wholeNumber? name = .ok none := by
  have hhead : (name.head?).any Text.isDecimal = false := by
    cases hc : name.head? with
    | none => rfl
    | some c => simpa using hname c (by simp [hc])
  rw [wholeNumber?, takeNumber?, hhead]
  rfl

/-- The name of a value leads to the value. -/
theorem find_eq_ok (hname : ∀ c ∈ name, c ∉ pathMarks) (hne : name ≠ [])
    (hdecimal : ∀ c ∈ name.head?, Text.isDecimal c = false)
    (hlookup : values.lookup (String.ofList name) = some value) :
    find values name = .ok (.text value) := by
  have hends : ∀ c ∈ name, (!(decide (c = '.') || decide (c = '['))) = true := by
    intro c hc
    have hc := hname c hc
    simp only [pathMarks, List.mem_cons, List.not_mem_nil, or_false, not_or] at hc
    simp [hc]
  have htake : name.takeWhile (fun c ↦ !(decide (c = '.') || decide (c = '['))) = name :=
    List.takeWhile_eq_self_iff.2 hends
  have hdrop : name.dropWhile (fun c ↦ !(decide (c = '.') || decide (c = '['))) = [] :=
    List.dropWhile_eq_nil_iff.2 hends
  simp only [find, htake, hdrop, wholeNumber?_eq_none hdecimal, bind, Except.bind]
  simp [hne, hlookup, follow]

/-- What a field covers is not filled in again. -/
theorem fill_covered (covered : List Char) :
    fill fillStyle values covered.length (covered ++ rest) = fill fillStyle values 0 rest := by
  induction covered with
  | nil => rfl
  | cons c covered ih => exact ih

theorem expand_plain (h : find values name = .ok (.text value)) :
    Field.expand { path := name, showing? := none, style := [] } fillStyle values =
      .ok value.toList := by
  rw [Field.expand, h]
  rfl

theorem fill_open {s : List Char} (hs : ∀ c ∈ s.head?, c ≠ '\x7b') (hne : s ≠ []) :
    fill fillStyle values 0 ('\x7b' :: s) = (do
      let (field, rest) ← takeField s
      let text ← field.expand fillStyle values
      return text ++ (← fill fillStyle values (s.length - rest.length) s)) := by
  obtain ⟨c, s, rfl⟩ := List.exists_cons_of_ne_nil hne
  have hc : c ≠ '\x7b' := hs c rfl
  rw [fill]
  · intro cs heq
    exact hc (List.cons.inj heq).1
  · exact List.cons_ne_nil c s

/-- A plain field is filled in with the value of its name. -/
theorem fill_field (hname : ∀ c ∈ name, c ∉ pathMarks) (hne : name ≠ [])
    (hdecimal : ∀ c ∈ name.head?, Text.isDecimal c = false)
    (hlookup : values.lookup (String.ofList name) = some value)
    (h : fill fillStyle values 0 rest = .ok out) :
    fill fillStyle values 0 ('\x7b' :: (name ++ '\x7d' :: rest)) =
      .ok (value.toList ++ out) := by
  have hopen : ∀ c ∈ (name ++ '\x7d' :: rest).head?, c ≠ '\x7b' := by
    rintro c hc rfl
    obtain ⟨d, name, rfl⟩ := List.exists_cons_of_ne_nil hne
    obtain rfl : d = '\x7b' := by simpa using hc
    exact hname _ List.mem_cons_self (by decide)
  -- the field covers its name and the closing brace, and filling in goes on behind them
  have hcovered : (name ++ '\x7d' :: rest).length - rest.length = (name ++ ['\x7d']).length := by
    simp
    omega
  have hsplit : name ++ '\x7d' :: rest = (name ++ ['\x7d']) ++ rest := by simp
  rw [fill_open hopen (by simp), takeField_append hname]
  show (do
    let text ← Field.expand { path := name, showing? := none, style := [] } fillStyle values
    return text ++ (← fill fillStyle values ((name ++ '\x7d' :: rest).length - rest.length)
      (name ++ '\x7d' :: rest))) = _
  rw [expand_plain (find_eq_ok hname hne hdecimal hlookup), hcovered, hsplit, fill_covered, h]
  rfl

/-! ### Whole texts -/

/-- The names of the three fields are plain. -/
theorem Slot.name_plain (asked : Slot) :
    (∀ c ∈ asked.name.toList, c ∉ pathMarks) ∧ asked.name.toList ≠ [] ∧
      ∀ c ∈ asked.name.toList.head?, Text.isDecimal c = false := by
  cases asked
  all_goals
    rw [name, String.toList_ofList]
    refine ⟨by simp [pathMarks], by simp, ?_⟩
    intro c hc
    obtain rfl := Option.some.inj hc
    decide

theorem fill_written (value typed constructor : String) (parts : List Part) :
    fill fillStyle [("value", value), ("typed", typed), ("from_generic", constructor)] 0
        (parts.flatMap Part.written) =
      .ok (parts.flatMap (Part.filled (slotValues value typed constructor))) := by
  induction parts with
  | nil => rfl
  | cons part parts ih =>
    rw [List.flatMap_cons, List.flatMap_cons]
    cases part with
    | literal s => exact fill_literal s ih
    | slot asked =>
      obtain ⟨hname, hne, hdecimal⟩ := asked.name_plain
      have hlookup : [("value", value), ("typed", typed), ("from_generic", constructor)].lookup
          (String.ofList asked.name.toList) =
            some (slotValues value typed constructor asked) := by
        rw [String.ofList_toList]
        cases asked <;> rfl
      have hwritten : (Part.slot asked).written ++ parts.flatMap Part.written =
          '\x7b' :: (asked.name.toList ++ '\x7d' :: parts.flatMap Part.written) := by
        simp [Part.written]
      rw [hwritten]
      exact fill_field hname hne hdecimal hlookup ih

/-- **A conversion text is filled in word for word**: each field by its value, the rest as it
stands, with double braces single. -/
theorem expand_written (value typed constructor : String) (parts : List Part) :
    expand (String.ofList (parts.flatMap Part.written)) value typed constructor =
      .ok (String.ofList (parts.flatMap (Part.filled (slotValues value typed constructor)))) := by
  rw [expand, String.toList_ofList, fillTo, fill_written]
  rfl

end BindingGlue.Conversion
