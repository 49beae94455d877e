import TagTemplate.Engine
import TagTemplate.Value.Document

/-!
What becomes of a value that is handed over as data. Data become a value by way of a document, and
the conversion that leaves the document out has the same outcome, faults included. A value comes back
as it was, except that a float that is infinite or not a number comes back as null, and a rendering
of the data is a rendering of what comes back.
-/
namespace TagTemplate

namespace Document

theorem to_fields_eq_map_values (fields : List (String × Document)) :
    toFields fields = Keyed.mapValues toValue fields := by
  induction fields with
  | nil => rfl
  | cons field rest ih =>
    obtain ⟨key, content⟩ := field
    rw [toFields, ih]
    rfl

/-- It does not matter whether the document or the value decides between entries with one key. -/
theorem of_list_to_fields_of_list (fields : List (String × Document)) :
    Keyed.ofList (toFields (Keyed.ofList fields)) = Keyed.ofList (toFields fields) := by
  rw [to_fields_eq_map_values, to_fields_eq_map_values, Keyed.map_values_of_list]
  exact Keyed.of_list_of_ordered (Keyed.ordered_of_list _)

theorem of_integer_natural {n : Nat} (held : n < UInt64.size) :
    ofInteger n = .ok (number (.natural (UInt64.ofNat n))) :=
  if_pos ⟨Int.natCast_nonneg n, Int.ofNat_lt.mpr held⟩

theorem to_value_natural {n : Nat} (held : n < UInt64.size) :
    toValue (number (.natural (UInt64.ofNat n))) = Value.ofNat n := by
  rw [toValue, Numeral.toInt64?, Numeral.toFloat, UInt64.toNat_ofNat_of_lt' held, Value.ofNat]
  by_cases signed : (n : Int) ≤ Int64.maxValue.toInt
  · rw [if_pos signed, if_pos signed]
  · rw [if_neg signed, if_neg signed]

end Document

namespace Datum

theorem integer_value_natural {n : Nat} (held : n < UInt64.size) :
    integerValue n = .ok (Value.ofNat n) := by
  have least : Int64.minValue.toInt ≤ n := Int.le_trans (by decide) (Int.natCast_nonneg n)
  rw [integerValue, Value.ofNat]
  by_cases signed : (n : Int) ≤ Int64.maxValue.toInt
  · rw [if_pos ⟨least, signed⟩, if_pos signed, Int64.ofInt_eq_ofNat]
  · rw [if_neg fun h => signed h.2, if_neg signed, Int.toNat_natCast,
      if_pos ⟨Int.natCast_nonneg n, Int.ofNat_lt.mpr held⟩]

theorem integer_value_eq (n : Int) :
    integerValue n = (Document.ofInteger n).map Document.toValue := by
  have greatest : Int64.maxValue.toInt < UInt64.size := by decide
  rcases Int.lt_or_le n 0 with negative | natural
  · have signed : ¬ (0 ≤ n ∧ n < UInt64.size) := fun h => absurd h.1 (Int.not_le.mpr negative)
    rw [integerValue, Document.ofInteger, if_neg signed, if_neg signed]
    by_cases held : Int64.minValue.toInt ≤ n
    · rw [if_pos ⟨held, Int.le_trans (Int.le_of_lt negative) (by decide)⟩, if_pos ⟨held, negative⟩]
      rfl
    · rw [if_neg fun h => held h.1, if_neg fun h => held h.1]
      rfl
  · obtain ⟨m, rfl⟩ := Int.eq_ofNat_of_zero_le natural
    by_cases held : m < UInt64.size
    · rw [integer_value_natural held, Document.of_integer_natural held, Except.map,
        Document.to_value_natural held]
    · rw [integerValue, Document.ofInteger, if_neg (by omega), if_neg (by omega), if_neg (by omega),
        if_neg (by omega)]
      rfl

theorem float_value_eq (x : Float) : floatValue x = (Document.ofFloat x).toValue := by
  unfold floatValue Document.ofFloat
  split <;> rfl

mutual

theorem to_value_eq (d : Datum) : toValue d = (Document.ofDatum d).map Document.toValue := by
  cases d with
  | unit | absent | bool | char | text | caseName | refusing => rfl
  | integer n => exact integer_value_eq n
  | single bits => exact congrArg Except.ok (float_value_eq (widen bits))
  | double x => exact congrArg Except.ok (float_value_eq x)
  | present content | wrapped content => exact to_value_eq content
  | caseOf name content =>
    rw [toValue, to_value_eq content, Document.ofDatum]
    cases Document.ofDatum content <;> rfl
  | seq items =>
    rw [toValue, to_items_eq items, Document.ofDatum]
    cases Document.ofItems items <;> rfl
  | map entries =>
    rw [toValue, to_fields_eq entries, Document.ofDatum]
    cases Document.ofEntries entries with
    | error fault => rfl
    | ok fields =>
      exact congrArg (Except.ok ∘ Value.map) (Document.of_list_to_fields_of_list fields).symm

theorem to_items_eq (items : List Datum) :
    toItems items = (Document.ofItems items).map Document.toItems := by
  cases items with
  | nil => rfl
  | cons d rest =>
    rw [toItems, to_value_eq d, to_items_eq rest, Document.ofItems]
    cases Document.ofDatum d with
    | error fault => rfl
    | ok item => cases Document.ofItems rest <;> rfl

theorem to_fields_eq (entries : List (Datum × Datum)) :
    toFields entries = (Document.ofEntries entries).map Document.toFields := by
  cases entries with
  | nil => rfl
  | cons entry rest =>
    obtain ⟨k, d⟩ := entry
    rw [toFields, to_value_eq d, to_fields_eq rest, Document.ofEntries]
    cases key k with
    | error fault => rfl
    | ok name =>
      cases Document.ofDatum d with
      | error fault => rfl
      | ok content => cases Document.ofEntries rest <;> rfl

end

theorem integer_value_to_int (n : Int64) : integerValue n.toInt = .ok (.integer n) := by
  rw [integerValue, if_pos ⟨Int64.minValue_le_toInt n, Int64.toInt_le n⟩, Int64.ofInt_toInt]

end Datum

namespace Value

theorem sanitized_fields_eq_map_values (fields : List (String × Value)) :
    sanitizedFields fields = Keyed.mapValues sanitized fields := by
  induction fields with
  | nil => rfl
  | cons field rest ih =>
    obtain ⟨key, v⟩ := field
    rw [sanitizedFields, ih]
    rfl

theorem ordered_sanitized_fields {fields : List (String × Value)} (ordered : Keyed.Ordered fields) :
    Keyed.Ordered (sanitizedFields fields) := by
  rwa [Keyed.Ordered, sanitized_fields_eq_map_values, Keyed.keys_map_values]

mutual

theorem to_value_of_value (v : Value) (ordered : v.Ordered) :
    (Datum.ofValue v).toValue = .ok v.sanitized := by
  cases v with
  | null | bool | string => rfl
  | integer n => exact Datum.integer_value_to_int n
  | float x => rfl
  | list items =>
    rw [Datum.ofValue, Datum.toValue, to_items_of_items items ordered]
    rfl
  | map fields =>
    rw [Datum.ofValue, Datum.toValue, to_fields_of_fields fields ordered.2]
    exact congrArg (Except.ok ∘ map)
      (Keyed.of_list_of_ordered (ordered_sanitized_fields ordered.1))

theorem to_items_of_items (items : List Value) (ordered : OrderedItems items) :
    Datum.toItems (Datum.ofItems items) = .ok (sanitizedItems items) := by
  cases items with
  | nil => rfl
  | cons v rest =>
    rw [Datum.ofItems, Datum.toItems, to_value_of_value v ordered.1,
      to_items_of_items rest ordered.2]
    rfl

theorem to_fields_of_fields (fields : List (String × Value)) (ordered : OrderedFields fields) :
    Datum.toFields (Datum.ofFields fields) = .ok (sanitizedFields fields) := by
  cases fields with
  | nil => rfl
  | cons field rest =>
    obtain ⟨key, v⟩ := field
    rw [Datum.ofFields, Datum.toFields, to_value_of_value v ordered.1,
      to_fields_of_fields rest ordered.2]
    rfl

end

theorem is_finite_iff (x : Float) : x.isFinite = true ↔ x.isNaN = false ∧ x.isInf = false := by
  change x.toModel.unpack.isFinite = true ↔
    x.toModel.unpack.isNaN = false ∧ x.toModel.unpack.isInf = false
  cases x.toModel.unpack with
  | notANumber => decide
  | infinity sign => exact ⟨nofun, fun h => nomatch h.2⟩
  | zero sign => exact iff_of_true rfl ⟨rfl, rfl⟩
  | finite sign mantissa exponent positive => exact iff_of_true rfl ⟨rfl, rfl⟩

mutual

theorem sanitized_eq_self_iff (v : Value) : v.sanitized = v ↔ v.Finite := by
  cases v with
  | null | bool | integer | string => exact iff_of_true rfl trivial
  | float x =>
    rw [Finite, ← is_finite_iff, sanitized]
    split <;> simp_all
  | list items => rw [sanitized, list.injEq, sanitized_items_eq_self_iff items, Finite]
  | map fields => rw [sanitized, map.injEq, sanitized_fields_eq_self_iff fields, Finite]

theorem sanitized_items_eq_self_iff (items : List Value) :
    sanitizedItems items = items ↔ FiniteItems items := by
  cases items with
  | nil => exact iff_of_true rfl trivial
  | cons v rest =>
    rw [sanitizedItems, List.cons.injEq, sanitized_eq_self_iff v, sanitized_items_eq_self_iff rest,
      FiniteItems]

theorem sanitized_fields_eq_self_iff (fields : List (String × Value)) :
    sanitizedFields fields = fields ↔ FiniteFields fields := by
  cases fields with
  | nil => exact iff_of_true rfl trivial
  | cons field rest =>
    obtain ⟨key, v⟩ := field
    rw [sanitizedFields, List.cons.injEq, Prod.mk.injEq, sanitized_eq_self_iff v,
      sanitized_fields_eq_self_iff rest, FiniteFields]
    simp

end

end Value

namespace Engine

theorem convert_of_value {v : Value} (ordered : v.Ordered) :
    convert (Datum.ofValue v) = .ok v.sanitized := by
  rw [convert, Value.to_value_of_value v ordered]
  rfl

theorem render_data_of_value (e : Engine) (t : Template) {v : Value} (ordered : v.Ordered) :
    e.renderData t (Datum.ofValue v) = e.renderTemplate t v.sanitized := by
  rw [renderData, convert_of_value ordered]
  rfl

theorem render_data_to_of_value (e : Engine) (t : Template) {v : Value} (ordered : v.Ordered)
    (w : Writer) : e.renderDataTo t (Datum.ofValue v) w = e.renderTemplateTo t v.sanitized w := by
  rw [renderDataTo, convert_of_value ordered]

end Engine

/-- The document of a value is that of the sanitized value, which is the value itself exactly if all
    its floats are finite. With the data of the value a template is rendered as with the sanitized
    value, to a text and to a writer. -/
theorem serialized_values_are_sanitized (v : Value) (ordered : v.Ordered) :
    let data := Datum.ofValue v
    (∃ document, Document.ofDatum data = .ok document ∧ document.toValue = v.sanitized) ∧
    data.toValue = .ok v.sanitized ∧
    (v.sanitized = v ↔ v.Finite) ∧
    ∀ (e : Engine) (t : Template),
      e.renderData t data = e.renderTemplate t v.sanitized ∧
      (∀ w, e.renderDataTo t data w = e.renderTemplateTo t v.sanitized w) ∧
      (v.Finite → e.renderData t data = e.renderTemplate t v ∧
        ∀ w, e.renderDataTo t data w = e.renderTemplateTo t v w) := by
  intro data
  have converted : data.toValue = .ok v.sanitized := Value.to_value_of_value v ordered
  refine ⟨?_, converted, Value.sanitized_eq_self_iff v, fun e t => ?_⟩
  · rw [Datum.to_value_eq] at converted
    cases stored : Document.ofDatum data with
    | error fault =>
      rw [stored] at converted
      cases converted
    | ok document =>
      rw [stored] at converted
      exact ⟨document, rfl, Except.ok.inj converted⟩
  · have text := Engine.render_data_of_value e t ordered
    have written := Engine.render_data_to_of_value e t ordered
    refine ⟨text, written, fun finite => ?_⟩
    have same : v.sanitized = v := (Value.sanitized_eq_self_iff v).mpr finite
    rw [same] at text written
    exact ⟨text, written⟩

theorem floats_in_list_come_back_finite_or_null :
    let whole := Float.ofBits 0x3FF0000000000000
    let infinite := Float.ofBits 0x7FF0000000000000
    let undefined := Float.ofBits 0x7FF8000000000000
    let least : Value := .integer Int64.minValue
    let v : Value :=
      .map [("floats", .list [.float whole, .float infinite, .float undefined]), ("least", least)]
    let u : Value := .map [("floats", .list [.float whole, .null, .null]), ("least", least)]
    let t : Template := ⟨"<%- least %>", [.emitRaw ⟨" least ", ⟨3, 10⟩⟩], none⟩
    v.Ordered ∧ (Datum.ofValue v).toValue = .ok u ∧
      (∃ document, Document.ofDatum (Datum.ofValue v) = .ok document ∧ document.toValue = u) ∧
      Engine.renderData { options := .standard } t (Datum.ofValue v) =
        .ok "-9223372036854775808" := by
  intro whole infinite undefined least v u t
  have ordered : v.Ordered :=
    ⟨show ["floats", "least"].Pairwise (· < ·) by decide, ⟨⟨trivial, trivial, trivial, trivial⟩,
      trivial, trivial⟩⟩
  have sanitized : v.sanitized = u := by
    have finite :
        whole.isFinite = true ∧ infinite.isFinite = false ∧ undefined.isFinite = false := by decide
    simp [v, u, least, Value.sanitized, Value.sanitizedItems, Value.sanitizedFields, finite]
  obtain ⟨stored, converted, -, renders⟩ := serialized_values_are_sanitized v ordered
  rw [sanitized] at stored converted
  refine ⟨ordered, converted, stored, ?_⟩
  rw [(renders _ t).1, sanitized]
  rfl

end TagTemplate
