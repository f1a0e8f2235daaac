import MapMarkup.Proofs.Box.Axes

/-!
# What is wrong with a box

Reading a text as a box has three steps, and each of them has a fault of its own: there are four
parts, each part is a finite number, and the box that the numbers make is in order. A text is
refused for the first step that fails, and for the first part that is no number (`Box.Refuses`).
`Box.ofParam_decides` says that reading gives either the box of the text or this fault, that it
undoes writing, and that the axis order only says which number is which.
-/

namespace MapMarkup.Box

variable {text : String} {order : AxisOrder} {fault : BoxFault} {x y z w : Float}

/-! ### Coordinates -/

def IsCoordinate (part : List Char) : Prop :=
  ∃ x, Decimal.readFloat part = some x ∧ x.isFinite = true

theorem exists_readCoordinate_iff {part : List Char} :
    (∃ x, readCoordinate part = .ok x) ↔ IsCoordinate part := by
  simp only [readCoordinate_eq_ok_iff, IsCoordinate]

private theorem eq_of_readCoordinate_error {part : List Char}
    (h : readCoordinate part = .error fault) :
    fault = .invalidNumber (String.ofList part) := by
  unfold readCoordinate at h
  split at h
  · split at h <;> cases h
    rfl
  · cases h
    rfl

private theorem readCoordinate_eq_error_iff {part : List Char} : readCoordinate part = .error fault
    ↔ ¬ IsCoordinate part ∧ fault = .invalidNumber (String.ofList part) := by
  rw [← exists_readCoordinate_iff]
  cases hread : readCoordinate part with
  | ok x => simp
  | error other =>
    rw [eq_of_readCoordinate_error hread, Except.error.injEq, eq_comm]
    simp

/-! ### The numbers of a text -/

structure Reads (text : String) (x y z w : Float) : Prop where
  numbers : (partsOf text).map Decimal.readFloat = [some x, some y, some z, some w]
  finite : ∀ v ∈ [x, y, z, w], v.isFinite = true

private theorem mapM_readCoordinate_eq_ok_iff {parts : List (List Char)} {values : List Float} :
    parts.mapM readCoordinate = .ok values
      ↔ parts.map Decimal.readFloat = values.map some ∧ ∀ v ∈ values, v.isFinite = true := by
  rw [mapM_eq_ok_iff]
  induction parts generalizing values with
  | nil => cases values <;> simp
  | cons part parts ih =>
    cases values with
    | nil => simp
    | cons v values =>
      rw [List.forall₂_cons, ih, readCoordinate_eq_ok_iff, List.map_cons, List.map_cons,
        List.cons.injEq, List.forall_mem_cons, and_and_and_comm]

theorem reads_iff : Reads text x y z w ↔ (partsOf text).mapM readCoordinate = .ok [x, y, z, w] := by
  rw [mapM_readCoordinate_eq_ok_iff]
  exact ⟨fun h => ⟨h.numbers, h.finite⟩, fun h => ⟨h.1, h.2⟩⟩

theorem Reads.length_eq (h : Reads text x y z w) : (partsOf text).length = 4 := by
  simpa using congrArg List.length h.numbers

theorem exists_reads {values : List Float} (hlength : (partsOf text).length = 4)
    (h : (partsOf text).mapM readCoordinate = .ok values) :
    ∃ x y z w, values = [x, y, z, w] ∧ Reads text x y z w := by
  have hvalues : values.length = 4 := (mapM_eq_ok_iff.mp h).length_eq.symm.trans hlength
  obtain ⟨x, y, z, w, rfl⟩ := List.length_eq_four.mp hvalues
  exact ⟨x, y, z, w, rfl, reads_iff.mpr h⟩

/-- The box of four numbers, or the fault that it is not in order. -/
def ofNumbers (text : String) (order : AxisOrder) : List Float → Except BoxFault Box
  | [x, y, z, w] =>
    if (place order x y z w).isInverted then .error (.inverted text) else .ok (place order x y z w)
  | _ => .error (.invalidFormat text)

/-- Reading a text is counting its parts, reading them one after the other and placing them. -/
theorem ofParam_eq (text : String) (order : AxisOrder) : ofParam text order
    = if (partsOf text).length = 4 then (partsOf text).mapM readCoordinate >>= ofNumbers text order
      else .error (.invalidFormat text) := by
  unfold ofParam
  rw [← partsOf]
  split
  case h_1 p q r s hparts =>
    rw [hparts, if_pos (by rfl)]
    simp only [List.mapM_cons, List.mapM_nil]
    cases readCoordinate p with
    | error fault => rfl
    | ok x =>
    cases readCoordinate q with
    | error fault => rfl
    | ok y =>
    cases readCoordinate r with
    | error fault => rfl
    | ok z =>
    cases readCoordinate s with
    | error fault => rfl
    | ok w => rfl
  case h_2 hparts =>
    rw [if_neg]
    intro hlength
    obtain ⟨p, q, r, s, h⟩ := List.length_eq_four.mp hlength
    exact hparts p q r s h

theorem isInverted_place_iff (h : ∀ v ∈ [x, y, z, w], v.isFinite = true) :
    (place order x y z w).isInverted = true ↔ ¬ (place order x y z w).IsOrdered := by
  have hfinite : (place order x y z w).isFinite = true := by
    simp only [List.forall_mem_cons] at h
    obtain ⟨hx, hy, hz, hw, _⟩ := h
    cases order <;> simp [place, isFinite, hx, hy, hz, hw]
  constructor
  · intro hinverted hordered
    rw [isInverted_of_le hordered.x hordered.y] at hinverted
    cases hinverted
  · intro hordered
    by_contra hinverted
    exact hordered (isOrdered_of_isInverted hfinite (Bool.not_eq_true _ ▸ hinverted))

/-! ### Faults -/

inductive Refuses (text : String) (order : AxisOrder) : BoxFault → Prop
  /-- There are not four parts. -/
  | format (hlength : (partsOf text).length ≠ 4) : Refuses text order (.invalidFormat text)
  /-- A part is no finite number, and all before it are. -/
  | number {i : Nat} {part : List Char} (hlength : (partsOf text).length = 4)
      (hpart : (partsOf text)[i]? = some part) (hwrong : ¬ IsCoordinate part)
      (hbefore : ∀ j < i, ∀ before, (partsOf text)[j]? = some before → IsCoordinate before) :
      Refuses text order (.invalidNumber (String.ofList part))
  /-- A minimum exceeds the maximum of its axis. -/
  | inverted {x y z w : Float} (hreads : Reads text x y z w)
      (hordered : ¬ (place order x y z w).IsOrdered) : Refuses text order (.inverted text)

private theorem ofParam_eq_error_iff :
    ofParam text order = .error fault ↔ Refuses text order fault := by
  have hnumbers (e : BoxFault) : (partsOf text).mapM readCoordinate = .error e
      ↔ ∃ (i : Nat) (part : List Char), (partsOf text)[i]? = some part ∧ ¬ IsCoordinate part
        ∧ e = .invalidNumber (String.ofList part)
        ∧ ∀ j < i, ∀ before, (partsOf text)[j]? = some before → IsCoordinate before := by
    simp only [mapM_eq_error_iff, readCoordinate_eq_error_iff, exists_readCoordinate_iff, and_assoc]
  rw [ofParam_eq]
  constructor
  · intro h
    split at h
    case isFalse hlength =>
      cases h
      exact .format hlength
    case isTrue hlength =>
      rcases bind_eq_error_iff.mp h with h | ⟨values, hvalues, h⟩
      · obtain ⟨i, part, hpart, hwrong, rfl, hbefore⟩ := (hnumbers fault).mp h
        exact .number hlength hpart hwrong hbefore
      · obtain ⟨x, y, z, w, rfl, hreads⟩ := exists_reads hlength hvalues
        rw [ofNumbers] at h
        split at h
        case isTrue hinverted =>
          cases h
          exact .inverted hreads ((isInverted_place_iff hreads.finite).mp hinverted)
        case isFalse => cases h
  · intro h
    cases h with
    | format hlength => rw [if_neg hlength]
    | number hlength hpart hwrong hbefore =>
      rw [if_pos hlength, bind_eq_error_iff]
      exact .inl ((hnumbers _).mpr ⟨_, _, hpart, hwrong, rfl, hbefore⟩)
    | inverted hreads hordered =>
      rw [if_pos hreads.length_eq, bind_eq_error_iff]
      refine .inr ⟨_, reads_iff.mp hreads, ?_⟩
      rw [ofNumbers, if_pos ((isInverted_place_iff hreads.finite).mpr hordered)]

private theorem ofParam_eq_ok_iff_reads {box : Box} : ofParam text order = .ok box
    ↔ ∃ x y z w, Reads text x y z w ∧ box = place order x y z w ∧ box.IsOrdered := by
  rw [ofParam_eq]
  constructor
  · intro h
    split at h
    case isFalse => cases h
    case isTrue hlength =>
      obtain ⟨values, hvalues, h⟩ := bind_eq_ok_iff.mp h
      obtain ⟨x, y, z, w, rfl, hreads⟩ := exists_reads hlength hvalues
      rw [ofNumbers] at h
      split at h
      case isTrue => cases h
      case isFalse hinverted =>
        cases h
        rw [isInverted_place_iff hreads.finite, not_not] at hinverted
        exact ⟨x, y, z, w, hreads, rfl, hinverted⟩
  · rintro ⟨x, y, z, w, hreads, rfl, hordered⟩
    rw [if_pos hreads.length_eq, bind_eq_ok_iff]
    refine ⟨_, reads_iff.mp hreads, ?_⟩
    rw [ofNumbers, if_neg]
    rw [isInverted_place_iff hreads.finite, not_not]
    exact hordered

/-! ### Boxes and their texts -/

/-- **Which texts are boxes.** A text is read as a box exactly if its parts between commas are four
finite numbers in order, and every other text is refused for its first fault. -/
theorem ofParam_decides :
    (∀ text order box, ofParam text order = .ok box
      ↔ ∃ x y z w, Reads text x y z w ∧ box = place order x y z w ∧ box.IsOrdered)
    ∧ (∀ text order fault, ofParam text order = .error fault ↔ Refuses text order fault)
    ∧ (∀ (box : Box) order, box.isFinite = true → box.IsOrdered →
      ofParam (box.toParam order) order = .ok box)
    ∧ ∀ a b c d box, ofParam (Text.join ',' [a, b, c, d]) .latLon = .ok box
      ↔ ofParam (Text.join ',' [b, a, d, c]) .xy = .ok box :=
  ⟨fun _ _ _ => ofParam_eq_ok_iff_reads, fun _ _ _ => ofParam_eq_error_iff,
    fun _ order hfinite hordered => ofParam_toParam hfinite hordered.x hordered.y order,
    fun _ _ _ _ _ => ofParam_swap⟩

/-- A negative zero keeps its sign. -/
theorem ofParam_decides_signedZero : ∃ box : Box, box = ⟨-0.0, -90, 0, 45.5⟩
    ∧ box ≠ ⟨0, -90, 0, 45.5⟩ ∧ box.isFinite = true ∧ box.IsOrdered
    ∧ box.toParam .latLon = "-90,-0,45.5,0" ∧ ofParam "-90,-0,45.5,0" .latLon = .ok box := by
  let box : Box := ⟨-0.0, -90, 0, 45.5⟩
  have hfinite : box.isFinite = true := by decide +kernel
  have hordered : box.IsOrdered := ⟨by decide +kernel, by decide +kernel⟩
  have hparam : box.toParam .latLon = "-90,-0,45.5,0" := by decide +kernel
  have hread := ofParam_decides.2.2.1 box .latLon hfinite hordered
  rw [hparam] at hread
  exact ⟨box, rfl, by decide +kernel, hfinite, hordered, hparam, hread⟩

end MapMarkup.Box
