import UsingAdvisor.Proofs.Json.Numbers
import UsingAdvisor.Proofs.Json.Strings

/-!
# Written values are read back

A value is written with white space only where the reader skips it, in front of items, fields and closing
brackets, so the layout does not matter to the reader. What is written of a value tells where it ends, once
something stands behind it that no number goes on with (`EndsNumber`): in an array or an object that is a comma, a
bracket or a line break. The steps that the reader takes are bounded by the length of what it reads. Values are
read back if their integers are of 64 bits, the fields of their objects are in the order of names, and they hold
no double (`IsExact`). Main statement: `parse?_render`.
-/

namespace UsingAdvisor.Json

/-- The value holds no double, its integers are of 64 bits, and the fields of its objects are in the order of
names. -/
inductive IsExact : Json → Prop
  | null : IsExact .null
  | bool (value : Bool) : IsExact (.bool value)
  | integer {value : Int} (h : IsWord value) : IsExact (.integer value)
  | string (value : Text) : IsExact (.string value)
  | array {items : List Json} (h : ∀ item ∈ items, IsExact item) : IsExact (.array items)
  | object {fields : List (Text × Json)} (h : ∀ field ∈ fields, IsExact field.2)
      (ordered : fields.Pairwise fun first second => Text.precedes first.1 second.1 = true) :
      IsExact (.object fields)

/-! ### White space -/

/-- A character that the reader skips between the parts of a value. -/
def isWhite (c : Char) : Bool :=
  c == ' ' || c == '\n' || c == '\r' || c == '\t'

/-- White space, and nothing else. -/
def IsWhite (gap : Text) : Prop :=
  ∀ c ∈ gap, isWhite c = true

theorem skipSpace_append {gap : Text} (h : IsWhite gap) (rest : Text) :
    skipSpace (gap ++ rest) = skipSpace rest :=
  List.dropWhile_append_of_pos h

theorem skipSpace_cons {c : Char} (h : isWhite c = false) (rest : Text) : skipSpace (c :: rest) = c :: rest :=
  List.dropWhile_cons_of_neg (Bool.eq_false_iff.1 h)

/-- What stands in front of an item is white space. -/
theorem isWhite_lead (layout : Layout) : IsWhite layout.lead := by
  obtain _ | depth := layout
  · exact List.forall_mem_nil _
  · refine List.forall_mem_cons.2 ⟨rfl, fun c hc => ?_⟩
    rw [List.eq_of_mem_replicate hc]
    rfl

/-- Behind the colon of a field is white space. -/
theorem exists_colon_eq (layout : Layout) : ∃ gap, layout.colon = ':' :: gap ∧ IsWhite gap := by
  obtain _ | depth := layout
  · exact ⟨[], rfl, List.forall_mem_nil _⟩
  · exact ⟨[' '], rfl, List.forall_mem_singleton.2 rfl⟩

theorem colon_inside (layout : Layout) : layout.inside.colon = layout.colon := by
  obtain _ | depth := layout <;> rfl

theorem readValue?_append {gap : Text} (h : IsWhite gap) (steps : Nat) (rest : Text) :
    readValue? steps (gap ++ rest) = readValue? steps rest := by
  obtain _ | steps := steps
  · rfl
  · rw [readValue?, readValue?, skipSpace_append h]

theorem readItems?_append {gap : Text} (h : IsWhite gap) (steps : Nat) (rest : Text) :
    readItems? steps (gap ++ rest) = readItems? steps rest := by
  obtain _ | steps := steps
  · rfl
  · rw [readItems?, readItems?, readValue?_append h]

theorem readFields?_append {gap : Text} (h : IsWhite gap) (steps : Nat) (rest : Text) :
    readFields? steps (gap ++ rest) = readFields? steps rest := by
  obtain _ | steps := steps
  · rfl
  · rw [readFields?, readFields?, skipSpace_append h]

/-! ### Where values start and end -/

theorem endsNumber_nil : EndsNumber [] := by
  simp [EndsNumber]

theorem endsNumber_cons {c : Char} (h : c.isDigit = false ∧ c ≠ '.' ∧ c ≠ 'e' ∧ c ≠ 'E') (rest : Text) :
    EndsNumber (c :: rest) :=
  fun _ hd => Option.some.inj hd ▸ h

/-- Neither white space nor what stands behind it goes on with a number. -/
theorem endsNumber_append {gap : Text} (h : IsWhite gap) {rest : Text} (hrest : EndsNumber rest) :
    EndsNumber (gap ++ rest) := by
  obtain _ | ⟨c, gap⟩ := gap
  · exact hrest
  · have hc := (List.forall_mem_cons.1 h).1
    simp only [isWhite, Bool.or_eq_true, beq_iff_eq] at hc
    refine endsNumber_cons ?_ _
    rcases hc with ((rfl | rfl) | rfl) | rfl <;> decide

/-- A character that a value may start with: neither white space nor the bracket that closes an array. -/
def Starts (c : Char) : Prop :=
  isWhite c = false ∧ c ≠ ']'

theorem starts_of_isDigit {c : Char} (h : c.isDigit = true) : Starts c := by
  have hne {d : Char} (hd : d.isDigit = false) : c ≠ d := by
    rintro rfl
    rw [hd] at h
    contradiction
  refine ⟨?_, hne (by decide)⟩
  simp [isWhite, @hne ' ' (by decide), @hne '\n' (by decide), @hne '\r' (by decide), @hne '\t' (by decide)]

theorem exists_integerText_eq_cons (value : Int) : ∃ c rest, integerText value = c :: rest ∧ Starts c := by
  obtain n | n := value
  · obtain ⟨c, rest, hdigits⟩ := List.exists_cons_of_ne_nil (Text.ofNat_ne_nil n)
    exact ⟨c, rest, hdigits, starts_of_isDigit (Text.isDigit_of_mem_ofNat (hdigits ▸ List.mem_cons_self))⟩
  · exact ⟨'-', _, rfl, by decide, by decide⟩

/-- What is written of a value starts with a character that the reader does not skip. -/
theorem IsExact.exists_render_eq_cons {value : Json} (h : IsExact value) (layout : Layout) :
    ∃ c rest, render layout value = c :: rest ∧ Starts c := by
  obtain _ | value | @⟨value, -⟩ | value | @⟨items, -⟩ | @⟨fields, -, -⟩ := h
  · exact ⟨'n', _, rfl, by decide, by decide⟩
  · obtain _ | _ := value
    · exact ⟨'f', _, rfl, by decide, by decide⟩
    · exact ⟨'t', _, rfl, by decide, by decide⟩
  · exact exists_integerText_eq_cons value
  · exact ⟨'"', _, rfl, by decide, by decide⟩
  · obtain _ | ⟨item, items⟩ := items
    · exact ⟨'[', _, rfl, by decide, by decide⟩
    · exact ⟨'[', _, rfl, by decide, by decide⟩
  · obtain _ | ⟨⟨name, value⟩, fields⟩ := fields
    · exact ⟨'{', _, rfl, by decide, by decide⟩
    · exact ⟨'{', _, rfl, by decide, by decide⟩

/-! ### Values -/

/-- What is written of the value is read back, in any layout and with anything behind it that no number goes on
with, in as many steps as it has characters. -/
def ReadsBack (value : Json) : Prop :=
  ∀ {layout : Layout} {steps : Nat} {rest : Text}, (render layout value).length ≤ steps → EndsNumber rest →
    readValue? steps (render layout value ++ rest) = some (value, rest)

/-- Where a digit stands, a number is read. -/
theorem readValue?_of_isDigit {c : Char} (h : c.isDigit = true) (steps : Nat) (rest : Text) :
    readValue? (steps + 1) (c :: rest) = readNumber? false (c :: rest) := by
  have hne {d : Char} (hd : d.isDigit = false) : c ≠ d := by
    rintro rfl
    rw [hd] at h
    contradiction
  rw [readValue?, skipSpace_cons (starts_of_isDigit h).1]
  split
  case h_5 =>
    simp [Text.dropFront?, Ne.symm (@hne 'n' (by decide)), Ne.symm (@hne 't' (by decide)),
      Ne.symm (@hne 'f' (by decide))]
  all_goals
    next heq => exact absurd (List.cons.inj heq).1 (hne (by decide))

theorem readsBack_integer {value : Int} (h : IsWord value) : ReadsBack (.integer value) := by
  intro layout steps rest hsteps hrest
  obtain ⟨hleast, hgreatest⟩ := h
  rw [render] at hsteps ⊢
  obtain n | n := value
  · obtain ⟨c, digits, hdigits⟩ := List.exists_cons_of_ne_nil (Text.ofNat_ne_nil n)
    have hc : c.isDigit = true := Text.isDigit_of_mem_ofNat (hdigits ▸ List.mem_cons_self)
    have hn : n < 0x10000000000000000 := by
      rw [Int.ofNat_eq_natCast] at hgreatest
      omega
    rw [integerText] at hsteps ⊢
    obtain _ | steps := steps
    · rw [hdigits] at hsteps
      exact absurd hsteps (Nat.not_succ_le_zero _)
    · have hread := readNumber?_ofNat hrest (integer?_ofNat hn)
      rw [hdigits, List.cons_append] at hread ⊢
      rw [readValue?_of_isDigit hc, hread]
      rfl
  · have hn : n + 1 ≤ 0x8000000000000000 := by omega
    obtain _ | steps := steps
    · exact absurd hsteps (Nat.not_succ_le_zero _)
    · rw [integerText, List.cons_append, readValue?, skipSpace_cons (by decide)]
      exact readNumber?_ofNat hrest (integer?_ofNat_negative (Nat.succ_ne_zero n) hn)

theorem readsBack_string (value : Text) : ReadsBack (.string value) := by
  intro layout steps rest hsteps _
  rw [render, quote] at hsteps ⊢
  obtain _ | steps := steps
  · contradiction
  · rw [List.cons_append, List.append_assoc, List.singleton_append, readValue?, skipSpace_cons (by decide)]
    simp [readString?_escape]

/-- Items behind a first one are read through the bracket that closes the array. -/
theorem readItems?_render {closing : Text} (hclosing : IsWhite closing) (layout : Layout) (rest : Text)
    {item : Json} {items : List Json} (h : ∀ other ∈ item :: items, ReadsBack other) (steps : Nat)
    (hsteps : (render layout item).length + (renderItems layout items).length < steps) :
    readItems? steps (render layout item ++ (renderItems layout items ++ (closing ++ ']' :: rest))) =
      some (item :: items, rest) := by
  induction items generalizing item steps with
  | nil =>
    obtain ⟨hitem, -⟩ := List.forall_mem_cons.1 h
    obtain _ | steps := steps
    · contradiction
    · have hends : EndsNumber (closing ++ ']' :: rest) :=
        endsNumber_append hclosing (endsNumber_cons (by decide) rest)
      rw [renderItems, List.nil_append, readItems?, hitem (by omega) hends]
      simp [skipSpace_append hclosing, skipSpace_cons (show isWhite ']' = false by decide)]
  | cons next items ih =>
    obtain ⟨hitem, hitems⟩ := List.forall_mem_cons.1 h
    rw [renderItems] at hsteps ⊢
    simp only [List.length_cons, List.length_append] at hsteps
    obtain _ | steps := steps
    · contradiction
    · have hrest := ih hitems steps (by omega)
      simp only [List.cons_append, List.append_assoc]
      rw [readItems?, hitem (by omega) (endsNumber_cons (by decide) _)]
      simp [skipSpace_cons (show isWhite ',' = false by decide), readItems?_append (isWhite_lead layout), hrest]

/-- One field is read. Behind a comma another one follows, and a brace closes the object. -/
theorem readFields?_field {layout : Layout} {name more rest : Text} {value : Json} {steps : Nat}
    (hvalue : ReadsBack value) (hsteps : (render layout value).length ≤ steps) (hmore : EndsNumber more) :
    let read := readFields? (steps + 1) (quote name ++ (layout.colon ++ (render layout value ++ more)))
    (skipSpace more = ',' :: rest →
      read = (readFields? steps rest).map fun (fields, rest) => ((name, value) :: fields, rest)) ∧
    (skipSpace more = '}' :: rest → read = some ([(name, value)], rest)) := by
  obtain ⟨gap, hcolon, hgap⟩ := exists_colon_eq layout
  dsimp only
  rw [quote, hcolon, List.cons_append, List.append_assoc, readFields?, skipSpace_cons (by decide)]
  constructor <;>
  · intro hrest
    simp [readString?_escape, skipSpace_cons (show isWhite ':' = false by decide), readValue?_append hgap,
      hvalue hsteps hmore, hrest]

/-- Fields behind a first one are read through the brace that closes the object. -/
theorem readFields?_render {closing : Text} (hclosing : IsWhite closing) (layout : Layout) (rest : Text)
    {name : Text} {value : Json} {fields : List (Text × Json)}
    (h : ∀ field ∈ (name, value) :: fields, ReadsBack field.2) (steps : Nat)
    (hsteps : (render layout value).length + (renderFields layout fields).length < steps) :
    readFields? steps (quote name ++ (layout.colon ++ (render layout value ++
      (renderFields layout fields ++ (closing ++ '}' :: rest))))) = some ((name, value) :: fields, rest) := by
  obtain _ | steps := steps
  · contradiction
  induction fields generalizing name value steps with
  | nil =>
    have hvalue : ReadsBack value := h (name, value) List.mem_cons_self
    have hends : EndsNumber (closing ++ '}' :: rest) :=
      endsNumber_append hclosing (endsNumber_cons (by decide) rest)
    have hbrace : skipSpace (closing ++ '}' :: rest) = '}' :: rest := by
      rw [skipSpace_append hclosing, skipSpace_cons (by decide)]
    rw [renderFields, List.nil_append]
    exact (readFields?_field hvalue (by omega) hends).2 hbrace
  | cons next fields ih =>
    have hvalue : ReadsBack value := h (name, value) List.mem_cons_self
    have hfields := (List.forall_mem_cons.1 h).2
    rw [renderFields] at hsteps ⊢
    simp only [List.length_cons, List.length_append] at hsteps
    obtain _ | steps := steps
    · omega
    · have hrest := ih hfields steps (by omega)
      simp only [List.cons_append, List.append_assoc]
      rw [(readFields?_field hvalue (by omega) (endsNumber_cons (by decide) _)).1 (skipSpace_cons (by decide) _)]
      simp only [readFields?_append (isWhite_lead layout), hrest, Option.map_some]

theorem readsBack_array {items : List Json} (hexact : ∀ item ∈ items, IsExact item)
    (h : ∀ item ∈ items, ReadsBack item) : ReadsBack (.array items) := by
  intro layout steps rest hsteps _
  obtain _ | ⟨item, items⟩ := items
  · obtain _ | steps := steps
    · contradiction
    · rw [render, List.cons_append, readValue?, skipSpace_cons (by decide)]
      simp [skipSpace_cons (show isWhite ']' = false by decide)]
  · rw [render] at hsteps ⊢
    simp only [List.length_cons, List.length_append] at hsteps
    obtain _ | steps := steps
    · contradiction
    · obtain ⟨c, more, hitem, hstarts⟩ := (hexact item List.mem_cons_self).exists_render_eq_cons layout.inside
      have hread := readItems?_render (isWhite_lead layout) layout.inside rest h steps (by omega)
      simp only [List.cons_append, List.append_assoc, List.nil_append]
      rw [readValue?, skipSpace_cons (by decide)]
      simp only [skipSpace_append (isWhite_lead layout.inside)]
      rw [hitem, List.cons_append] at hread ⊢
      rw [skipSpace_cons hstarts.1]
      -- the first character of an item is not the bracket of an empty array
      split
      next heq => exact absurd (List.cons.inj heq).1 hstarts.2
      next => rw [hread]; rfl

theorem readsBack_object {fields : List (Text × Json)} (h : ∀ field ∈ fields, ReadsBack field.2)
    (ordered : fields.Pairwise fun first second => Text.precedes first.1 second.1 = true) :
    ReadsBack (.object fields) := by
  intro layout steps rest hsteps _
  obtain _ | ⟨⟨name, value⟩, fields⟩ := fields
  · obtain _ | steps := steps
    · contradiction
    · rw [render, List.cons_append, readValue?, skipSpace_cons (by decide)]
      simp [skipSpace_cons (show isWhite '}' = false by decide)]
  · rw [render] at hsteps ⊢
    simp only [List.length_cons, List.length_append] at hsteps
    obtain _ | steps := steps
    · contradiction
    · have hread := readFields?_render (isWhite_lead layout) layout.inside rest h steps (by omega)
      rw [colon_inside] at hread
      simp only [List.cons_append, List.append_assoc, List.nil_append]
      rw [readValue?, skipSpace_cons (by decide)]
      simp only [skipSpace_append (isWhite_lead layout.inside)]
      rw [quote, List.cons_append] at hread ⊢
      rw [skipSpace_cons (by decide)]
      split
      next heq => exact absurd (List.cons.inj heq).1 (by decide)
      next => simp only [hread, Option.map_some, ofFields_eq_self ordered]

/-- **What is written of a value is read back.** -/
theorem IsExact.readsBack {value : Json} (h : IsExact value) : ReadsBack value := by
  induction h with
  | null =>
    intro layout steps rest hsteps _
    obtain _ | steps := steps
    · contradiction
    · rw [render, List.cons_append, readValue?, skipSpace_cons (by decide)]
      rfl
  | bool value =>
    intro layout steps rest hsteps _
    obtain _ | steps := steps
    · cases value <;> contradiction
    · obtain _ | _ := value <;>
      · rw [render, List.cons_append, readValue?, skipSpace_cons (by decide)]
        rfl
  | integer h => exact readsBack_integer h
  | string value => exact readsBack_string value
  | array hexact ih => exact readsBack_array hexact ih
  | object hexact ordered ih => exact readsBack_object ih ordered

/-- **A text that a value is written as stands for that value**, in any layout. -/
theorem parse?_render {value : Json} (h : IsExact value) (layout : Layout) :
    parse? (render layout value) = some value := by
  have hread : readValue? ((render layout value).length + 1) (render layout value ++ []) = some (value, []) :=
    h.readsBack (Nat.le_succ _) endsNumber_nil
  rw [List.append_nil] at hread
  rw [parse?, hread]
  rfl

/-- A value is told by what is written of it. -/
theorem IsExact.eq_of_render_eq {first second : Json} (hfirst : IsExact first) (hsecond : IsExact second)
    {layout : Layout} (h : render layout first = render layout second) : first = second := by
  have hread := parse?_render hfirst layout
  rw [h, parse?_render hsecond layout] at hread
  exact (Option.some.inj hread).symm

end UsingAdvisor.Json
