import Liveboard.Proofs.Wire.Reading
import Liveboard.Proofs.Wire.Usage

/-!
# Records that are passed on

A record that came from the backend is written out again, for whoever asked for it. It is
read from many spellings: counts from whole numbers and from doubles, fields that are missing
or `null`, a list in the place of an object. It is written in one, an object with a member
for every field, and this one is read as the same record (`RecordShape.Retracts`).

Two things could be lost on the way. A double that is not finite is written as `null`, and a
latency below zero is refused by the reader. Neither of them is ever read, so whatever is
read is written without loss. `payloads_retract` has both directions for all records that the
backend sends: which of them come back, and that what was read is among these.
-/

namespace Liveboard

/-! ## Single values -/

theorem Json.proper_ofFloat (x : Float) : (Json.ofFloat x).Proper := by
  rw [Json.ofFloat]
  split
  · rename_i finite
    exact .float finite
  · exact .null

theorem Json.ofFloat_of_isFinite {x : Float} (finite : x.isFinite = true) :
    Json.ofFloat x = .float x :=
  if_pos finite

theorem SnapshotBody.proper_optionalFloat (o : Option Float) : (optionalFloat o).Proper := by
  cases o with
  | none => exact .null
  | some x => exact Json.proper_ofFloat x

namespace Scalar

theorem double_ok_iff {v : Json} {x : Float} : double v = .ok x ↔ number? v = some x := by
  rw [double]
  cases number? v <;> simp

/-- **A double that is read is finite.** -/
theorem isFinite_of_double {v : Json} (proper : v.Proper) {x : Float} (ok : double v = .ok x) :
    x.isFinite = true := by
  obtain ⟨_, -, stands⟩ := stands_of_number? proper (double_ok_iff.1 ok)
  exact stands.isFinite

theorem isFinite_of_optional_double {v : Json} (proper : v.Proper) {o : Option Float}
    (ok : optional double v = .ok o) : ∀ x ∈ o, x.isFinite = true := by
  intro x mem
  obtain rfl := Option.mem_def.1 mem
  have read : (double v).map some = .ok (some x) := by
    cases v with
    | null => cases ok
    | bool | int | float | string | array | object => exact ok
  cases parsed : double v with
  | error =>
    rw [parsed] at read
    cases read
  | ok y =>
    rw [parsed] at read
    cases read
    exact isFinite_of_double proper parsed

/-- **A finite double is read as it was written.** -/
theorem double_ofFloat {x : Float} (finite : x.isFinite = true) : double (.ofFloat x) = .ok x := by
  rw [Json.ofFloat_of_isFinite finite]
  rfl

/-- Where a double may be missing, a finite one is read as it was written. -/
theorem optional_double_optionalFloat {o : Option Float} (finite : ∀ x ∈ o, x.isFinite = true) :
    optional double (SnapshotBody.optionalFloat o) = .ok o := by
  cases o with
  | none => rfl
  | some x =>
    rw [SnapshotBody.optionalFloat, Json.ofFloat_of_isFinite (finite x rfl)]
    rfl

theorem measure_ofFloat {x : Float} (finite : x.isFinite = true) (nonneg : 0.0 ≤ x) :
    measure (.ofFloat x) = .ok x := by
  rw [Json.ofFloat_of_isFinite finite]
  exact measure_ok_iff.2 ⟨rfl, finite, nonneg⟩

end Scalar

/-! ## Records -/

namespace RecordShape

variable {ρ : Type} {shape : RecordShape ρ} {write : ρ → Json} {writable : ρ → Prop}

/-- **What is written is what was read.** -/
structure Retracts (shape : RecordShape ρ) (write : ρ → Json) (writable : ρ → Prop) : Prop where
  /-- A record is written as an object with a member for every field, and no other. -/
  members : ∀ x, ∃ ms, write x = .object ms ∧
    (ms.map (·.1)).Perm (shape.fields.map (·.name))
  /-- Records that can be written, and only these, are read as they were. -/
  reads : ∀ x, shape.decode (write x) = .ok x ↔ writable x
  /-- What is read from a value, however that spells it, is read again from what it is
  written as. -/
  again : ∀ v x, v.Proper → shape.decode v = .ok x → shape.decode (write x) = .ok x

/-- It is enough that what holds of a record however its fields are set makes it writable. -/
theorem Retracts.of_keeps (keeps : shape.Keeps writable)
    (members : ∀ x, ∃ ms, write x = .object ms ∧
      (ms.map (·.1)).Perm (shape.fields.map (·.name)))
    (proper : ∀ x, (write x).Proper)
    (reads : ∀ x, writable x → shape.decode (write x) = .ok x) :
    shape.Retracts write writable := by
  have kept : ∀ {v x}, v.Proper → shape.decode v = .ok x → writable x :=
    fun proper ok => keeps.of_decodeWith (fun _ => proper.of_mem_parts) ok
  exact ⟨members, fun x => ⟨kept (proper x), reads x⟩,
    fun v x proper ok => reads x (kept proper ok)⟩

/-- **A member is put in its field**, if that was not set before. -/
theorem setMembers_cons_of_set {key : String} {f : Field ρ} {v : Json} {seen : List String}
    {record record' : ρ} (found : shape.field? key = some f) (new : seen.contains key = false)
    (set : f.set v record = .ok record') (rest : List (String × Json)) :
    shape.setMembers seen record ((key, v) :: rest)
      = shape.setMembers (key :: seen) record' rest := by
  rw [setMembers_cons_of_some found new, set]
  rfl

end RecordShape

open RecordShape

/-! ## The usage since the last event -/

namespace UsageDelta

theorem keeps_measure : shape.Keeps fun d => d.avgLatency.isFinite = true ∧ 0.0 ≤ d.avgLatency where
  blank := ⟨rfl, by decide⟩
  set := by
    intro f mem v d d' proper before set
    rcases set_ok mem set with ⟨-, _, -, rfl⟩ | ⟨-, _, -, rfl⟩ | ⟨-, x, read, rfl⟩
    · exact before
    · exact before
    · exact (Scalar.measure_ok_iff.1 read).2

/-- The members in the order in which they are written. -/
theorem toJson_eq (d : UsageDelta) :
    d.toJson = .object [("avg_latency", .ofFloat d.avgLatency), ("bytes", .int d.bytes.toNat),
      ("requests", .int d.requests.toNat)] :=
  rfl

theorem proper_toJson (d : UsageDelta) : d.toJson.Proper := by
  refine Json.proper_ofMembers ?_
  simp only [List.forall_mem_cons]
  exact ⟨Json.proper_toNat _, Json.proper_toNat _, Json.proper_ofFloat _, List.forall_mem_nil _⟩

theorem decode_toJson {d : UsageDelta} (finite : d.avgLatency.isFinite = true)
    (nonneg : 0.0 ≤ d.avgLatency) : shape.decode d.toJson = .ok d := by
  rw [toJson_eq]
  refine decode_object_ok_iff.2 ⟨["requests", "bytes", "avg_latency"], ?_, rfl⟩
  rw [setMembers_cons_of_set rfl rfl (set_of_read (Scalar.measure_ofFloat finite nonneg)),
    setMembers_cons_of_set rfl rfl (set_of_read (Scalar.count_toNat d.bytes)),
    setMembers_cons_of_set rfl rfl (set_of_read (Scalar.count_toNat d.requests))]
  rfl

theorem retracts :
    shape.Retracts toJson fun d => d.avgLatency.isFinite = true ∧ 0.0 ≤ d.avgLatency :=
  .of_keeps keeps_measure (fun d => ⟨_, toJson_eq d, List.isPerm_iff.1 rfl⟩) proper_toJson
    fun _ writable => decode_toJson writable.1 writable.2

end UsageDelta

/-! ## The metrics of one API -/

namespace ApiMetrics

/-- **Metrics whose doubles are finite.** -/
structure Finite (m : ApiMetrics) : Prop where
  /-- The share of requests that succeed is. -/
  successRate : m.successRate.isFinite = true
  /-- The mean latency is. -/
  avgLatencyMs : m.avgLatencyMs.isFinite = true
  /-- The high latency is. -/
  p95LatencyMs : m.p95LatencyMs.isFinite = true

theorem keeps_finite : shape.Keeps Finite where
  blank := ⟨rfl, rfl, rfl⟩
  set := by
    intro f mem v m m' proper before set
    simp only [shape, List.mem_cons, List.not_mem_nil, or_false] at mem
    rcases mem with rfl | rfl | rfl | rfl | rfl | rfl | rfl <;>
      obtain ⟨x, read, rfl⟩ := exists_of_set set
    · exact ⟨before.1, before.2, before.3⟩
    · exact ⟨before.1, before.2, before.3⟩
    · exact ⟨Scalar.isFinite_of_double proper read, before.2, before.3⟩
    · exact ⟨before.1, Scalar.isFinite_of_double proper read, before.3⟩
    · exact ⟨before.1, before.2, Scalar.isFinite_of_double proper read⟩
    · exact ⟨before.1, before.2, before.3⟩
    · exact ⟨before.1, before.2, before.3⟩

/-- A text that may be missing. -/
def optionalText : Option String → Json
  | some s => .string s
  | none => .null

theorem optional_text_optionalText (o : Option String) :
    Scalar.optional Scalar.text (optionalText o) = .ok o := by
  cases o <;> rfl

theorem proper_optionalText (o : Option String) : (optionalText o).Proper := by
  cases o with
  | none => exact .null
  | some s => exact .string s

/-- The members in the order in which they are written. -/
theorem toJson_eq (m : ApiMetrics) :
    m.toJson = .object [("avg_latency_ms", .ofFloat m.avgLatencyMs),
      ("error_count", .int m.errorCount.toNat), ("last_request_at", optionalText m.lastRequestAt),
      ("p95_latency_ms", .ofFloat m.p95LatencyMs), ("requests_hour", .int m.requestsHour.toNat),
      ("requests_today", .int m.requestsToday.toNat), ("success_rate", .ofFloat m.successRate)] :=
  rfl

theorem proper_toJson (m : ApiMetrics) : m.toJson.Proper := by
  refine Json.proper_ofMembers ?_
  simp only [List.forall_mem_cons]
  exact ⟨Json.proper_toNat _, Json.proper_toNat _, Json.proper_ofFloat _, Json.proper_ofFloat _,
    Json.proper_ofFloat _, Json.proper_toNat _, proper_optionalText _, List.forall_mem_nil _⟩

theorem decode_toJson {m : ApiMetrics} (finite : m.Finite) : shape.decode m.toJson = .ok m := by
  rw [toJson_eq]
  refine decode_object_ok_iff.2 ⟨["success_rate", "requests_today", "requests_hour",
    "p95_latency_ms", "last_request_at", "error_count", "avg_latency_ms"], ?_, rfl⟩
  rw [setMembers_cons_of_set rfl rfl (set_of_read (Scalar.double_ofFloat finite.avgLatencyMs)),
    setMembers_cons_of_set rfl rfl (set_of_read (Scalar.count_toNat m.errorCount)),
    setMembers_cons_of_set rfl rfl (set_of_read (optional_text_optionalText m.lastRequestAt)),
    setMembers_cons_of_set rfl rfl (set_of_read (Scalar.double_ofFloat finite.p95LatencyMs)),
    setMembers_cons_of_set rfl rfl (set_of_read (Scalar.count_toNat m.requestsHour)),
    setMembers_cons_of_set rfl rfl (set_of_read (Scalar.count_toNat m.requestsToday)),
    setMembers_cons_of_set rfl rfl (set_of_read (Scalar.double_ofFloat finite.successRate))]
  rfl

theorem retracts : shape.Retracts toJson Finite :=
  .of_keeps keeps_finite (fun m => ⟨_, toJson_eq m, List.isPerm_iff.1 rfl⟩) proper_toJson
    fun _ => decode_toJson

end ApiMetrics

/-! ## Events about one API -/

namespace ApiUpdate

theorem keeps_finite : shape.Keeps fun u => u.metrics.Finite where
  blank := ApiMetrics.keeps_finite.blank
  set := by
    intro f mem v u u' proper before set
    simp only [shape, List.mem_cons, List.not_mem_nil, or_false] at mem
    rcases mem with rfl | rfl | rfl <;> obtain ⟨x, read, rfl⟩ := exists_of_set set
    · exact before
    · exact before
    · exact ApiMetrics.keeps_finite.of_decodeWith (fun _ => proper.of_mem_parts) read

/-- The members in the order in which they are written. -/
theorem toJson_eq (u : ApiUpdate) :
    u.toJson = .object [("api_id", .string u.apiId), ("api_name", .string u.apiName),
      ("metrics", u.metrics.toJson)] :=
  rfl

theorem proper_toJson (u : ApiUpdate) : u.toJson.Proper := by
  refine Json.proper_ofMembers ?_
  simp only [List.forall_mem_cons]
  exact ⟨.string _, .string _, u.metrics.proper_toJson, List.forall_mem_nil _⟩

theorem decode_toJson {u : ApiUpdate} (finite : u.metrics.Finite) :
    shape.decode u.toJson = .ok u := by
  rw [toJson_eq]
  refine decode_object_ok_iff.2 ⟨["metrics", "api_name", "api_id"], ?_, rfl⟩
  have reads : ∀ s, Scalar.text (.string s) = .ok s := fun _ => rfl
  rw [setMembers_cons_of_set rfl rfl (set_of_read (reads u.apiId)),
    setMembers_cons_of_set rfl rfl (set_of_read (reads u.apiName)),
    setMembers_cons_of_set rfl rfl (set_of_read (ApiMetrics.decode_toJson finite))]
  rfl

theorem retracts : shape.Retracts toJson fun u => u.metrics.Finite :=
  .of_keeps keeps_finite (fun u => ⟨_, toJson_eq u, List.isPerm_iff.1 rfl⟩) proper_toJson
    fun _ => decode_toJson

end ApiUpdate

/-! ## The body of a snapshot -/

namespace SnapshotBody

/-- **A body whose doubles are finite**, as far as there are any. -/
structure Finite (b : SnapshotBody) : Prop where
  /-- The bytes in larger units are. -/
  totalBytesGb : ∀ x ∈ b.totalBytesGb, x.isFinite = true
  /-- The mean duration is. -/
  avgDurationMs : ∀ x ∈ b.avgDurationMs, x.isFinite = true
  /-- The longest duration is. -/
  maxDurationMs : ∀ x ∈ b.maxDurationMs, x.isFinite = true

theorem keeps_finite : shape.Keeps Finite where
  blank := ⟨fun _ no => (by cases no), fun _ no => (by cases no), fun _ no => (by cases no)⟩
  set := by
    intro f mem v b b' proper before set
    simp only [shape, List.mem_cons, List.not_mem_nil, or_false] at mem
    rcases mem with rfl | rfl | rfl | rfl | rfl <;> obtain ⟨x, read, rfl⟩ := exists_of_set set
    · exact ⟨before.1, before.2, before.3⟩
    · exact ⟨before.1, before.2, before.3⟩
    · exact ⟨Scalar.isFinite_of_optional_double proper read, before.2, before.3⟩
    · exact ⟨before.1, Scalar.isFinite_of_optional_double proper read, before.3⟩
    · exact ⟨before.1, before.2, Scalar.isFinite_of_optional_double proper read⟩

/-- The members in the order in which they are written. -/
theorem toJson_eq (b : SnapshotBody) :
    b.toJson = .object [("avg_duration_ms", optionalFloat b.avgDurationMs),
      ("max_duration_ms", optionalFloat b.maxDurationMs),
      ("total_bytes", .int b.totalBytes.toNat), ("total_bytes_gb", optionalFloat b.totalBytesGb),
      ("total_streams", .int b.totalStreams.toNat)] :=
  rfl

theorem proper_toJson (b : SnapshotBody) : b.toJson.Proper := by
  refine Json.proper_ofMembers ?_
  simp only [List.forall_mem_cons]
  exact ⟨Json.proper_toNat _, Json.proper_toNat _, proper_optionalFloat _, proper_optionalFloat _,
    proper_optionalFloat _, List.forall_mem_nil _⟩

theorem decode_toJson {b : SnapshotBody} (finite : b.Finite) : shape.decode b.toJson = .ok b := by
  rw [toJson_eq]
  refine decode_object_ok_iff.2 ⟨["total_streams", "total_bytes_gb", "total_bytes",
    "max_duration_ms", "avg_duration_ms"], ?_, rfl⟩
  rw [setMembers_cons_of_set rfl rfl
      (set_of_read (Scalar.optional_double_optionalFloat finite.avgDurationMs)),
    setMembers_cons_of_set rfl rfl
      (set_of_read (Scalar.optional_double_optionalFloat finite.maxDurationMs)),
    setMembers_cons_of_set rfl rfl (set_of_read (Scalar.count_toNat b.totalBytes)),
    setMembers_cons_of_set rfl rfl
      (set_of_read (Scalar.optional_double_optionalFloat finite.totalBytesGb)),
    setMembers_cons_of_set rfl rfl (set_of_read (Scalar.count_toNat b.totalStreams))]
  rfl

theorem retracts : shape.Retracts toJson Finite :=
  .of_keeps keeps_finite (fun b => ⟨_, toJson_eq b, List.isPerm_iff.1 rfl⟩) proper_toJson
    fun _ => decode_toJson

end SnapshotBody

/-- **The records that the backend sends are passed on without loss.** Each is written as an
object with all its fields, however it was spelled, and what is read of this object is the
record. Of the records that nobody sent, the ones that can be passed on are those whose
doubles are finite, and where the reader asks for it not negative. -/
theorem payloads_retract :
    UsageDelta.shape.Retracts UsageDelta.toJson
      (fun d => d.avgLatency.isFinite = true ∧ 0.0 ≤ d.avgLatency) ∧
    ApiMetrics.shape.Retracts ApiMetrics.toJson ApiMetrics.Finite ∧
    ApiUpdate.shape.Retracts ApiUpdate.toJson (fun u => u.metrics.Finite) ∧
    SnapshotBody.shape.Retracts SnapshotBody.toJson SnapshotBody.Finite :=
  ⟨UsageDelta.retracts, ApiMetrics.retracts, ApiUpdate.retracts, SnapshotBody.retracts⟩

/-- A list, with a count that is rounded. -/
theorem payloads_retract_list :
    (Json.array [.float 2.5, .int 12, .int 7]).Proper ∧
      ∃ d, UsageDelta.ofJson (.array [.float 2.5, .int 12, .int 7]) = .ok d ∧
        d.requests = 3 ∧ UsageDelta.ofJson d.toJson = .ok d := by
  have proper : (Json.array [.float 2.5, .int 12, .int 7]).Proper := by
    refine .array ?_
    simp only [List.forall_mem_cons]
    exact ⟨.float rfl, .int (by decide) (by decide), .int (by decide) (by decide),
      List.forall_mem_nil _⟩
  exact ⟨proper, ⟨3, 12, Scalar.floatOfInt 7⟩, rfl, rfl,
    payloads_retract.1.again _ _ proper rfl⟩

end Liveboard
