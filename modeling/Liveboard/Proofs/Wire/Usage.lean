import Liveboard.Engine.Basic
import Liveboard.Proofs.Wire.Acceptance
import Liveboard.Proofs.Wire.Number

/-!
# Which values are deltas

A delta is made of three numbers that are not negative: the requests, the bytes and the
mean latency. They are the members of an object, which may have others, or the items of
a list of three (`UsageDelta.ofJson_ok_iff`).

The two counts are the nearest whole numbers, cut off at the largest count
(`Count.nearest`). So they are the numbers themselves wherever a count can be, also above
`2 ^ 53`, and a larger number is never counted as less. The latency is the nearest double,
which is the number itself wherever a double can be.

An event whose data are no delta is put aside. An engine is then as it was before. What an
event about the usage comes to, either way, is `Event.usage_decoded`.
-/

namespace Liveboard

open Rounding

/-! ## Numbers as counts -/

/-- **A number as a count**: the nearest whole number, halves going up, cut off at the
largest count. -/
def Count.nearest (q : ℚ) : ℕ :=
  min ⌊q + 1 / 2⌋₊ (2 ^ 64 - 1)

namespace Count

theorem nearest_mono {p q : ℚ} (le : p ≤ q) : nearest p ≤ nearest q :=
  min_le_min_right _ (Nat.floor_mono (add_le_add_left le _))

/-- **It is the number itself** if and only if that is a count. -/
theorem nearest_eq_iff {q : ℚ} : (nearest q : ℚ) = q ↔ ∃ n : ℕ, n < 2 ^ 64 ∧ q = n := by
  constructor
  · intro same
    have bound : nearest q ≤ 2 ^ 64 - 1 := min_le_right _ _
    exact ⟨nearest q, by omega, same.symm⟩
  · rintro ⟨n, bound, rfl⟩
    rw [nearest, floor_natCast_add_half, min_eq_left (by omega)]

end Count

namespace UsageDelta

/-! ## The three values -/

/-- **The values that a delta is made of**, in the order of the fields. -/
def values? : Json → Option (Json × Json × Json)
  | .object members => do
    return (← members.lookup "requests", ← members.lookup "bytes", ← members.lookup "avg_latency")
  | .array [requests, bytes, latency] => some (requests, bytes, latency)
  | _ => none

theorem values?_object_eq_some_iff {members : List (String × Json)} {r b l : Json} :
    values? (.object members) = some (r, b, l) ↔
      members.lookup "requests" = some r ∧ members.lookup "bytes" = some b ∧
        members.lookup "avg_latency" = some l := by
  simp [values?, Option.bind_eq_some_iff]

/-- Parts of what is read from a text are as if they were read themselves. -/
theorem proper_of_values? {v r b l : Json} (proper : v.Proper)
    (found : values? v = some (r, b, l)) : r.Proper ∧ b.Proper ∧ l.Proper := by
  cases proper with
  | object keys each =>
    have part : ∀ {key : String} {w : Json}, List.lookup key _ = some w → w.Proper :=
      fun found => each _ ((RecordShape.lookup_eq_some_iff_mem keys).1 found)
    obtain ⟨requests, bytes, latency⟩ := values?_object_eq_some_iff.1 found
    exact ⟨part requests, part bytes, part latency⟩
  | @array items each =>
    match items, found with
    | [_, _, _], rfl => exact ⟨each _ (by simp), each _ (by simp), each _ (by simp)⟩
  | null | bool | int | float | string => cases found

/-! ## The three fields -/

/-- **What setting a field does.** -/
theorem set_ok {f : Field UsageDelta} (mem : f ∈ shape.fields) {v : Json} {d d' : UsageDelta}
    (set : f.set v d = .ok d') :
    (f.name = "requests" ∧ ∃ n, Scalar.count v = .ok n ∧ d' = { d with requests := n }) ∨
      (f.name = "bytes" ∧ ∃ n, Scalar.count v = .ok n ∧ d' = { d with bytes := n }) ∨
      (f.name = "avg_latency" ∧
        ∃ x, Scalar.measure v = .ok x ∧ d' = { d with avgLatency := x }) := by
  simp only [shape, List.mem_cons, List.not_mem_nil, or_false] at mem
  rcases mem with rfl | rfl | rfl <;> obtain ⟨x, read, rfl⟩ := RecordShape.exists_of_set set
  · exact .inl ⟨rfl, x, read, rfl⟩
  · exact .inr (.inl ⟨rfl, x, read, rfl⟩)
  · exact .inr (.inr ⟨rfl, x, read, rfl⟩)

theorem reads_requests : shape.Reads "requests" Scalar.count (·.requests) where
  field := ⟨_, rfl, fun _ _ _ => RecordShape.read_of_set fun _ => rfl⟩
  others := by
    intro f mem other v d d' set
    rcases set_ok mem set with ⟨own, -⟩ | ⟨-, _, -, rfl⟩ | ⟨-, _, -, rfl⟩
    · exact absurd own other
    · rfl
    · rfl

theorem reads_bytes : shape.Reads "bytes" Scalar.count (·.bytes) where
  field := ⟨_, rfl, fun _ _ _ => RecordShape.read_of_set fun _ => rfl⟩
  others := by
    intro f mem other v d d' set
    rcases set_ok mem set with ⟨-, _, -, rfl⟩ | ⟨own, -⟩ | ⟨-, _, -, rfl⟩
    · rfl
    · exact absurd own other
    · rfl

theorem reads_avgLatency : shape.Reads "avg_latency" Scalar.measure (·.avgLatency) where
  field := ⟨_, rfl, fun _ _ _ => RecordShape.read_of_set fun _ => rfl⟩
  others := by
    intro f mem other v d d' set
    rcases set_ok mem set with ⟨-, _, -, rfl⟩ | ⟨-, _, -, rfl⟩ | ⟨own, -⟩
    · rfl
    · rfl
    · exact absurd own other

/-- What can be put into one field can be put into it at any time. -/
theorem regular_shape : shape.Regular where
  names := by decide
  uniform := by
    rintro f mem v ⟨d, d', set⟩ e
    simp only [shape, List.mem_cons, List.not_mem_nil, or_false] at mem
    rcases mem with rfl | rfl | rfl <;> obtain ⟨x, read, -⟩ := RecordShape.exists_of_set set <;>
      exact ⟨_, RecordShape.set_of_read read⟩

/-! ## Which values are deltas -/

/-- An object is a delta if its three members are what the fields hold. -/
theorem ofJson_object_ok_iff {members : List (String × Json)} (nodup : (members.map (·.1)).Nodup)
    {d : UsageDelta} :
    ofJson (.object members) = .ok d ↔
      ∃ r b l, values? (.object members) = some (r, b, l) ∧ Scalar.count r = .ok d.requests ∧
        Scalar.count b = .ok d.bytes ∧ Scalar.measure l = .ok d.avgLatency := by
  have holds : ∀ {d : UsageDelta} {r b l : Json}, ofJson (.object members) = .ok d →
      values? (.object members) = some (r, b, l) → Scalar.count r = .ok d.requests ∧
        Scalar.count b = .ok d.bytes ∧ Scalar.measure l = .ok d.avgLatency := by
    intro d r b l ok found
    obtain ⟨requests, bytes, latency⟩ := values?_object_eq_some_iff.1 found
    exact ⟨reads_requests.of_decode (v := .object members) requests ok,
      reads_bytes.of_decode (v := .object members) bytes ok,
      reads_avgLatency.of_decode (v := .object members) latency ok⟩
  have accepted := RecordShape.exists_decode_object_iff regular_shape nodup
  constructor
  · intro ok
    have fits := accepted.1 ⟨d, ok⟩
    have there : ∀ f ∈ shape.fields, ∃ v, members.lookup f.name = some v := by
      intro f mem
      have required : f.required = true := by
        simp only [shape, List.mem_cons, List.not_mem_nil, or_false] at mem
        rcases mem with rfl | rfl | rfl <;> rfl
      have fit := fits f mem
      cases found : members.lookup f.name with
      | some v => exact ⟨v, rfl⟩
      | none =>
        rw [found, required] at fit
        cases fit
    obtain ⟨r, requests⟩ := there _ (.head _)
    obtain ⟨b, bytes⟩ := there _ (.tail _ (.head _))
    obtain ⟨l, latency⟩ := there _ (.tail _ (.tail _ (.head _)))
    have found := values?_object_eq_some_iff.2 ⟨requests, bytes, latency⟩
    exact ⟨r, b, l, found, holds ok found⟩
  · rintro ⟨r, b, l, found, count, count', measure⟩
    obtain ⟨requests, bytes, latency⟩ := values?_object_eq_some_iff.1 found
    obtain ⟨d', ok⟩ : ∃ d', ofJson (.object members) = .ok d' := by
      refine accepted.2 fun f mem => ?_
      simp only [shape, List.mem_cons, List.not_mem_nil, or_false] at mem
      rcases mem with rfl | rfl | rfl
      · rw [requests]
        exact ⟨shape.blank, _, RecordShape.set_of_read count⟩
      · rw [bytes]
        exact ⟨shape.blank, _, RecordShape.set_of_read count'⟩
      · rw [latency]
        exact ⟨shape.blank, _, RecordShape.set_of_read measure⟩
    obtain ⟨sameRequests, sameBytes, sameLatency⟩ := holds ok found
    have same : d' = d := by
      rw [mk.injEq]
      exact ⟨Except.ok.inj (sameRequests.symm.trans count),
        Except.ok.inj (sameBytes.symm.trans count'),
        Except.ok.inj (sameLatency.symm.trans measure)⟩
    rw [ok, same]

/-- **The delta that three values make.** -/
theorem ofJson_ok_iff {v : Json} (proper : v.Proper) {d : UsageDelta} :
    ofJson v = .ok d ↔
      ∃ r b l, values? v = some (r, b, l) ∧ Scalar.count r = .ok d.requests ∧
        Scalar.count b = .ok d.bytes ∧ Scalar.measure l = .ok d.avgLatency := by
  cases proper with
  | object keys => exact ofJson_object_ok_iff keys
  | @array items =>
    have nodup : (((shape.fields.map (·.name)).zip items).map (·.1)).Nodup := by
      rw [RecordShape.map_fst_zip]
      exact regular_shape.names.sublist (List.take_sublist ..)
    rw [ofJson, RecordShape.decode_array_ok_iff regular_shape]
    refine (and_congr_right fun _ => ofJson_object_ok_iff nodup).trans ?_
    match items with
    | [] | [_] | [_, _] =>
      refine iff_of_false (fun h => ?_) (by rintro ⟨_, _, _, no, -⟩; cases no)
      obtain ⟨-, _, _, _, found, -⟩ := h
      cases found
    | [_, _, _] => exact and_iff_right le_rfl
    | _ :: _ :: _ :: _ :: _ =>
      refine iff_of_false (fun h => ?_) (by rintro ⟨_, _, _, no, -⟩; cases no)
      have short : _ + 4 ≤ 3 := h.1
      omega
  | null | bool | int | float | string =>
    refine iff_of_false (fun no => by cases no) ?_
    rintro ⟨_, _, _, no, -⟩
    cases no

/-- **The numbers that a delta is made of.** -/
def amounts? (v : Json) : Option (ℚ × ℚ × ℚ) := do
  let (requests, bytes, latency) ← values? v
  return (← requests.amount?, ← bytes.amount?, ← latency.amount?)

theorem amounts?_eq_some_iff {v : Json} {p q s : ℚ} :
    amounts? v = some (p, q, s) ↔
      ∃ r b l, values? v = some (r, b, l) ∧ r.amount? = some p ∧ b.amount? = some q ∧
        l.amount? = some s := by
  simp [amounts?, Option.bind_eq_some_iff]

/-- **Which delta it is.** -/
theorem eq_of_ofJson {v : Json} (proper : v.Proper) {d : UsageDelta} (ok : ofJson v = .ok d) :
    ∃ p q s, amounts? v = some (p, q, s) ∧ 0 ≤ p ∧ 0 ≤ q ∧ 0 ≤ s ∧
      d.requests.toNat = Count.nearest p ∧ d.bytes.toNat = Count.nearest q ∧
      Scalar.Stands d.avgLatency s := by
  obtain ⟨r, b, l, found, count, count', measure⟩ := (ofJson_ok_iff proper).1 ok
  obtain ⟨p, isP, nonneg, requests⟩ := Scalar.count_ok_iff.1 count
  obtain ⟨q, isQ, nonneg', bytes⟩ := Scalar.count_ok_iff.1 count'
  obtain ⟨s, isS, nonneg'', stands⟩ :=
    Scalar.stands_of_measure (proper_of_values? proper found).2.2 measure
  refine ⟨p, q, s, amounts?_eq_some_iff.2 ⟨r, b, l, found, isP, isQ, isS⟩, nonneg, nonneg',
    nonneg'', ?_, ?_, stands⟩
  · rw [requests, Count.toNat_ofNatCapped]
    rfl
  · rw [bytes, Count.toNat_ofNatCapped]
    rfl

/-- **Which values are deltas**: three numbers, none of them negative. -/
theorem exists_ofJson_iff {v : Json} (proper : v.Proper) :
    (∃ d, ofJson v = .ok d) ↔
      ∃ p q s, amounts? v = some (p, q, s) ∧ 0 ≤ p ∧ 0 ≤ q ∧ 0 ≤ s := by
  constructor
  · rintro ⟨d, ok⟩
    obtain ⟨p, q, s, amounts, nonneg, nonneg', nonneg'', -⟩ := eq_of_ofJson proper ok
    exact ⟨p, q, s, amounts, nonneg, nonneg', nonneg''⟩
  · rintro ⟨p, q, s, amounts, nonneg, nonneg', nonneg''⟩
    obtain ⟨r, b, l, found, isP, isQ, isS⟩ := amounts?_eq_some_iff.1 amounts
    obtain ⟨x, measure⟩ :=
      (Scalar.exists_measure_iff (proper_of_values? proper found).2.2).2 ⟨s, isS, nonneg''⟩
    exact ⟨⟨_, _, x⟩, (ofJson_ok_iff proper).2 ⟨r, b, l, found,
      Scalar.count_ok_iff.2 ⟨p, isP, nonneg, rfl⟩, Scalar.count_ok_iff.2 ⟨q, isQ, nonneg', rfl⟩,
      measure⟩⟩

/-- **Any counts** and any latency that is finite and not negative make a delta. -/
theorem exists_ofJson_eq_iff {d : UsageDelta} :
    (∃ v : Json, v.Proper ∧ ofJson v = .ok d) ↔
      d.avgLatency.isFinite = true ∧ 0 ≤ Double.exact d.avgLatency := by
  constructor
  · rintro ⟨v, proper, ok⟩
    obtain ⟨-, -, l, -, -, -, measure⟩ := (ofJson_ok_iff proper).1 ok
    obtain ⟨-, finite, nonneg⟩ := Scalar.measure_ok_iff.1 measure
    exact ⟨finite, (Double.zero_le_iff finite).1 nonneg⟩
  · rintro ⟨finite, nonneg⟩
    have proper : (Json.array [.int d.requests.toNat, .int d.bytes.toNat,
        .float d.avgLatency]).Proper := by
      refine .array fun v mem => ?_
      simp only [List.mem_cons, List.not_mem_nil, or_false] at mem
      rcases mem with rfl | rfl | rfl
      · exact Json.proper_toNat _
      · exact Json.proper_toNat _
      · exact .float finite
    refine ⟨_, proper, (ofJson_ok_iff proper).2 ⟨_, _, _, rfl, Scalar.count_toNat _,
      Scalar.count_toNat _, Scalar.measure_ok_iff.2 ⟨rfl, finite, ?_⟩⟩⟩
    exact (Double.zero_le_iff finite).2 nonneg

end UsageDelta

/-! ## Events about the usage -/

namespace Event

theorem decode_ok_iff {ρ : Type} {e : Event} {read : Json → Except Fault ρ} {record : ρ} :
    e.decode read = .ok record ↔ read e.data = .ok record := by
  unfold decode
  cases read e.data <;> simp

/-- **What cannot be decoded** is reported as such. -/
theorem exists_decode_of_error {ρ : Type} {e : Event} {read : Json → Except Fault ρ}
    {error : ChannelError} (failed : e.decode read = .error error) :
    ∃ fault, read e.data = .error fault ∧
      error = .decode (e.type ++ " payload: " ++ fault.message) := by
  unfold decode at failed
  cases parsed : read e.data with
  | ok record =>
    rw [parsed] at failed
    cases failed
  | error fault =>
    rw [parsed] at failed
    exact ⟨fault, rfl, (Except.error.inj failed).symm⟩

/-- **What an event about the usage comes to.** It is a delta if its data are three
numbers that are not negative. Then the requests and the bytes are these numbers rounded
and cut off, which leaves every number alone that is a count and keeps their order; and
the latency is the nearest double, which is the number wherever a double is. Otherwise the
event cannot be decoded, and an engine is as it was before. -/
theorem usage_decoded (event : Event) (proper : event.data.Proper) :
    ((∃ d, event.decode UsageDelta.ofJson = .ok d) ↔
      ∃ p q s, UsageDelta.amounts? event.data = some (p, q, s) ∧ 0 ≤ p ∧ 0 ≤ q ∧ 0 ≤ s) ∧
    (∀ d, event.decode UsageDelta.ofJson = .ok d →
      ∃ p q s, UsageDelta.amounts? event.data = some (p, q, s) ∧
        d.requests.toNat = Count.nearest p ∧ d.bytes.toNat = Count.nearest q ∧
        d.avgLatency.isFinite = true ∧
        (∀ x : Float, x.isFinite = true →
          |s - Double.exact d.avgLatency| ≤ |s - Double.exact x|) ∧
        ((∃ x : Float, x.isFinite = true ∧ Double.exact x = s) → Double.exact d.avgLatency = s)) ∧
    (∀ p q, p ≤ q → Count.nearest p ≤ Count.nearest q) ∧
    (∀ q, (Count.nearest q : ℚ) = q ↔ ∃ n : ℕ, n < 2 ^ 64 ∧ q = n) ∧
    ∀ error, event.decode UsageDelta.ofJson = .error error →
      (∃ fault, error = .decode (event.type ++ " payload: " ++ Fault.message fault)) ∧
      ∀ (e : Engine) (cache : SnapshotCache) (now : Nat),
        (e.handle (.delta event) cache now).engine = e ∧
        (e.handle (.delta event) cache now).cache = cache := by
  refine ⟨?_, fun d decoded => ?_, fun _ _ => Count.nearest_mono, fun _ => Count.nearest_eq_iff,
    fun error failed => ⟨?_, fun e cache now => ?_⟩⟩
  · simp only [decode_ok_iff]
    exact UsageDelta.exists_ofJson_iff proper
  · obtain ⟨p, q, s, amounts, -, -, -, requests, bytes, stands⟩ :=
      UsageDelta.eq_of_ofJson proper (decode_ok_iff.1 decoded)
    refine ⟨p, q, s, amounts, requests, bytes, stands.isFinite, fun x _ => ?_, ?_⟩
    · rw [stands.exact_eq]
      exact abs_sub_rounded_le _ (Double.representable_exact x)
    · rintro ⟨x, -, rfl⟩
      rw [stands.exact_eq, rounded_of_representable (Double.representable_exact x)]
  · obtain ⟨fault, -, rfl⟩ := exists_decode_of_error failed
    exact ⟨fault, rfl⟩
  · have put : (e.takeEvent event).1 = e := by
      rw [Engine.takeEvent, failed]
      split <;> rfl
    exact ⟨put, rfl⟩

/-- An event with three numbers that are not written the same way, and a member more. -/
def mixed : Event where
  type := usageEvents
  data := .object [("avg_latency", .float 12.5), ("bytes", .int (2 ^ 64 - 1)), ("extra", .null),
    ("requests", .float 2.5)]
  sequence := 1
  receivedAt := 0

theorem usage_decoded_mixed :
    mixed.data.Proper ∧ ∃ d, mixed.decode UsageDelta.ofJson = .ok d ∧ d.requests.toNat = 3 ∧
      d.bytes.toNat = 2 ^ 64 - 1 ∧ Double.exact d.avgLatency = 25 / 2 := by
  have latency : Double.exact 12.5 = 25 / 2 := by
    rw [Double.exact, show Binary.ofFloat 12.5 = .finite false 7036874417766400 (-49) from rfl,
      Binary.value]
    norm_num
  have requests : Double.exact 2.5 = 5 / 2 := by
    rw [Double.exact, show Binary.ofFloat 2.5 = .finite false 5629499534213120 (-51) from rfl,
      Binary.value]
    norm_num
  have amounts : UsageDelta.amounts? mixed.data = some (5 / 2, 2 ^ 64 - 1, 25 / 2) := by
    rw [← latency, ← requests]
    exact UsageDelta.amounts?_eq_some_iff.2 ⟨_, _, _, rfl, rfl, by norm_num [Json.amount?], rfl⟩
  have proper : mixed.data.Proper := by
    refine .object (by decide) fun m mem => ?_
    simp only [List.mem_cons, List.not_mem_nil, or_false] at mem
    rcases mem with rfl | rfl | rfl | rfl
    · exact .float rfl
    · exact .int (by decide) (by decide)
    · exact .null
    · exact .float rfl
  obtain ⟨accepted, holds, -⟩ := usage_decoded mixed proper
  obtain ⟨d, decoded⟩ := accepted.2 ⟨_, _, _, amounts, by norm_num, by norm_num, by norm_num⟩
  obtain ⟨p, q, s, same, three, all, -, -, equal⟩ := holds d decoded
  obtain ⟨rfl, rfl, rfl⟩ : 5 / 2 = p ∧ 2 ^ 64 - 1 = q ∧ 25 / 2 = s := by
    simpa using amounts.symm.trans same
  refine ⟨proper, d, decoded, ?_, ?_, equal ⟨12.5, rfl, latency⟩⟩
  · rw [three, Count.nearest]
    norm_num
  · rw [all, Count.nearest]
    norm_num

/-- An event with a latency between two doubles, at `2 ^ 53 + 1`. -/
def between : Event where
  type := usageEvents
  data := .object [("avg_latency", .int 9007199254740993), ("bytes", .int 0), ("requests", .int 0)]
  sequence := 1
  receivedAt := 0

/-- **A latency need not be the number given**, for that need not be a double. -/
theorem between_rounded :
    between.data.Proper ∧ UsageDelta.amounts? between.data = some (0, 0, 9007199254740993) ∧
      ∃ d, between.decode UsageDelta.ofJson = .ok d ∧
        Double.exact d.avgLatency ≠ 9007199254740993 := by
  refine ⟨?_, ?_, ⟨0, 0, Scalar.floatOfInt 9007199254740993⟩, rfl, ?_⟩
  · refine .object (by decide) fun m mem => ?_
    simp only [List.mem_cons, List.not_mem_nil, or_false] at mem
    rcases mem with rfl | rfl | rfl <;> exact .int (by decide) (by decide)
  · exact UsageDelta.amounts?_eq_some_iff.2 ⟨_, _, _, rfl, rfl, rfl, rfl⟩
  · rw [Double.exact, show Binary.ofFloat (Scalar.floatOfInt 9007199254740993)
      = .finite false 4503599627370496 1 from rfl, Binary.value]
    norm_num

end Event

end Liveboard
