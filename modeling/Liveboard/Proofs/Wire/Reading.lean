import Mathlib.Data.String.Basic
import Liveboard.Proofs.Board.Deliveries
import Liveboard.Proofs.Decimal.Reading
import Liveboard.Proofs.Wire.Number
import Liveboard.Proofs.Wire.Record

/-!
# What is read from a text

A text has whatever its writer put into it: numbers of any size, the same key twice. What is
read from it has not. A number without point and exponent that fits 64 bits is read as it is,
any other one as the nearest double, and a text with a number beyond the doubles is not read
at all. Of a repeated key only the last value is left, for members are put in their place by
key.

So a value that comes from a text is a proper one: its whole numbers have 64 bits, its
doubles are finite, and its objects have each key once. This holds of the data of every
frame, although a frame is read without asking what its other members mean, and so of every
event that is told: `Json.proper_of_ofText?`, `Frame.proper_of_parse` and
`Moment.proper_of_mem_dispatched` take the fact from the text to the board. None of them
depends on which double is read for a number with many digits, only on its being finite.

That it is the nearest one (`Numeral.toFloat?_eq_some_iff`) is the rule of this reader. Where
numbers are read with less care, `Numeral.exact_of_toFloat?` may be off by one in the last
place of a double, for numbers that have more digits than a double can hold.
-/

namespace Liveboard

open Rounding

/-! ## Numbers -/

namespace Numeral

/-- **The number that is written.** -/
def value (n : Numeral) : ℚ :=
  (if n.negative then -1 else 1) * (digitsValue (n.whole ++ n.fraction.getD []) * 10 ^ n.scale)

/-- **A number is read as the nearest double**, unless it is beyond all of them. So says
`floatOfDecimal`; a reader that only does its best may end up at a neighbour. -/
theorem toFloat?_eq_some_iff {n : Numeral} {x : Float} :
    n.toFloat? = some x ↔
      |rounded n.value| < Double.limit ∧
        x = floatOfDecimal n.negative (digitsValue (n.whole ++ n.fraction.getD [])) n.scale := by
  have result := Double.rounds_floatOfDecimal n.negative
    (digitsValue (n.whole ++ n.fraction.getD [])) n.scale
  unfold toFloat?
  dsimp only
  split_ifs with infinite
  · have large := not_lt.2 (result.isInf_iff.1 infinite)
    exact iff_of_false (fun no => by cases no) fun h => large h.1
  · have small := not_le.1 (result.isInf_iff.not.1 infinite)
    rw [Option.some_inj, eq_comm]
    exact (and_iff_right small).symm

/-- The double that is read is the number that is written, rounded once. -/
theorem exact_of_toFloat? {n : Numeral} {x : Float} (read : n.toFloat? = some x) :
    x.isFinite = true ∧ Double.exact x = rounded n.value := by
  obtain ⟨small, rfl⟩ := toFloat?_eq_some_iff.1 read
  have result := Double.rounds_floatOfDecimal n.negative
    (digitsValue (n.whole ++ n.fraction.getD [])) n.scale
  have finite := result.isFinite_iff.2 small
  exact ⟨finite, result.exact_eq finite⟩

/-- The value of a number without point and exponent. -/
theorem value_of_whole {n : Numeral} (fraction : n.fraction = none) (exponent : n.exponent = none) :
    n.value = (if n.negative then -1 else 1) * digitsValue n.whole := by
  have scale : n.scale = 0 := by
    rw [Numeral.scale, fraction, exponent]
    rfl
  rw [value, scale, fraction, zpow_zero, mul_one, Option.getD_none, List.append_nil]

/-- **Which number is read**: the one that is written, if it is written without point and
exponent and fits 64 bits, and the nearest double if not. -/
theorem toJson?_cases {n : Numeral} {v : Json} (read : n.toJson? = some v) :
    (∃ k : Int, v = .int k ∧ -2 ^ 63 ≤ k ∧ k < 2 ^ 64 ∧ (k : ℚ) = n.value) ∨
      ∃ x, v = .float x ∧ x.isFinite = true ∧ Double.exact x = rounded n.value := by
  have double : n.toFloat?.map Json.float = some v →
      ∃ x, v = .float x ∧ x.isFinite = true ∧ Double.exact x = rounded n.value := by
    intro read
    obtain ⟨x, float, rfl⟩ := Option.map_eq_some_iff.1 read
    exact ⟨x, rfl, exact_of_toFloat? float⟩
  unfold toJson? at read
  cases negative : n.negative with
  | false =>
    simp only [negative, Bool.false_eq_true, if_false, Bool.false_and, Bool.not_false,
      Bool.and_true, Bool.and_eq_true, decide_eq_true_eq, Option.isNone_iff_eq_none] at read
    split_ifs at read with whole
    · obtain ⟨⟨fraction, exponent⟩, most⟩ := whole
      obtain rfl := Option.some.inj read
      refine .inl ⟨_, rfl, by omega, by omega, ?_⟩
      rw [value_of_whole fraction exponent, negative, if_neg Bool.false_ne_true, one_mul,
        Int.cast_natCast]
    · exact .inr (double read)
  | true =>
    simp only [negative, if_true, Bool.true_and, Bool.and_eq_true, decide_eq_true_eq,
      Option.isNone_iff_eq_none] at read
    split_ifs at read with whole
    · obtain ⟨⟨⟨fraction, exponent⟩, -⟩, least⟩ := whole
      obtain rfl := Option.some.inj read
      refine .inl ⟨_, rfl, by omega, by omega, ?_⟩
      rw [value_of_whole fraction exponent, negative, if_pos rfl, neg_one_mul, Int.cast_neg,
        Int.cast_natCast]
    · exact .inr (double read)

theorem proper_of_toJson? {n : Numeral} {v : Json} (read : n.toJson? = some v) : v.Proper := by
  rcases toJson?_cases read with ⟨k, rfl, least, most, -⟩ | ⟨x, rfl, finite, -⟩
  · exact .int least most
  · exact .float finite

end Numeral

/-! ## Objects -/

namespace Json

/-- Nothing but the member that is put in comes to the others. -/
theorem mem_insertMember {key : String} {value : Json} {members : List (String × Json)}
    {m : String × Json} (mem : m ∈ insertMember key value members) :
    m = (key, value) ∨ m ∈ members := by
  induction members with
  | nil => exact .inl (List.mem_singleton.1 mem)
  | cons first rest ih =>
    obtain ⟨k, v⟩ := first
    rw [insertMember] at mem
    split_ifs at mem with same before
    · subst same
      rcases List.mem_cons.1 mem with rfl | later
      · exact .inl rfl
      · exact .inr (.tail _ later)
    · exact List.mem_cons.1 mem
    · rcases List.mem_cons.1 mem with rfl | later
      · exact .inr (.head _)
      · exact (ih later).imp_right (.tail _)

/-- **Members are in the order of their keys**, each key once. -/
def Sorted (members : List (String × Json)) : Prop :=
  members.Pairwise (·.1 < ·.1)

theorem sorted_insertMember (key : String) (value : Json) {members : List (String × Json)}
    (sorted : Sorted members) : Sorted (insertMember key value members) := by
  induction members with
  | nil => exact List.pairwise_singleton ..
  | cons first rest ih =>
    obtain ⟨k, v⟩ := first
    obtain ⟨least, later⟩ := List.pairwise_cons.1 sorted
    rw [insertMember]
    split_ifs with same before
    · exact List.pairwise_cons.2 ⟨least, later⟩
    · refine List.pairwise_cons.2 ⟨fun m mem => ?_, sorted⟩
      rcases List.mem_cons.1 mem with rfl | mem
      · exact before
      · exact before.trans (least m mem)
    · have after : k < key := (not_lt.1 before).lt_of_ne (Ne.symm same)
      refine List.pairwise_cons.2 ⟨fun m mem => ?_, ih later⟩
      rcases mem_insertMember mem with rfl | mem
      · exact after
      · exact least m mem

/-- The object of proper members is proper, whatever keys are repeated. -/
theorem proper_ofMembers {members : List (String × Json)} (each : ∀ m ∈ members, m.2.Proper) :
    (ofMembers members).Proper := by
  have built : ∀ done : List (String × Json), Sorted done → (∀ m ∈ done, m.2.Proper) →
      Sorted (members.foldl (fun done m => insertMember m.1 m.2 done) done) ∧
        ∀ m ∈ members.foldl (fun done m => insertMember m.1 m.2 done) done, m.2.Proper := by
    induction members with
    | nil => exact fun done sorted proper => ⟨sorted, proper⟩
    | cons m rest ih =>
      intro done sorted proper
      obtain ⟨first, later⟩ := List.forall_mem_cons.1 each
      refine ih later _ (sorted_insertMember m.1 m.2 sorted) fun m' mem => ?_
      rcases mem_insertMember mem with rfl | mem
      · exact first
      · exact proper m' mem
  obtain ⟨sorted, proper⟩ := built [] List.Pairwise.nil (by simp)
  refine .object ?_ proper
  rw [List.Nodup, List.pairwise_map]
  exact sorted.imp fun less => less.ne

end Json

/-! ## Trees -/

mutual

/-- **The value of a tree is proper.** -/
theorem Document.proper_of_toJson? {depth : Nat} {tree : Document} {v : Json}
    (read : tree.toJson? depth = some v) : v.Proper := by
  cases tree with
  | null =>
    obtain rfl := Option.some.inj read
    exact .null
  | bool b =>
    obtain rfl := Option.some.inj read
    exact .bool b
  | number n => exact Numeral.proper_of_toJson? read
  | text pieces =>
    obtain ⟨s, -, rfl⟩ := Option.map_eq_some_iff.1 read
    exact .string s
  | array items =>
    rw [Document.toJson?] at read
    split at read
    · cases read
    · obtain ⟨values, items, rfl⟩ := Option.map_eq_some_iff.1 read
      exact .array (Document.proper_of_itemsToJson? items)
  | object members =>
    rw [Document.toJson?] at read
    split at read
    · cases read
    · obtain ⟨values, members, rfl⟩ := Option.map_eq_some_iff.1 read
      exact Json.proper_ofMembers (Document.proper_of_membersToJson? members)

theorem Document.proper_of_itemsToJson? {depth : Nat} {items : List Document} {values : List Json}
    (read : Document.itemsToJson? depth items = some values) : ∀ v ∈ values, v.Proper := by
  cases items with
  | nil =>
    obtain rfl := Option.some.inj read
    simp
  | cons item rest =>
    rw [Document.itemsToJson?] at read
    simp only [Option.bind_eq_bind, Option.bind_eq_some_iff] at read
    obtain ⟨value, first, more, later, same⟩ := read
    obtain rfl := Option.some.inj same
    exact List.forall_mem_cons.2
      ⟨Document.proper_of_toJson? first, Document.proper_of_itemsToJson? later⟩

theorem Document.proper_of_membersToJson? {depth : Nat} {members : List (List Piece × Document)}
    {values : List (String × Json)} (read : Document.membersToJson? depth members = some values) :
    ∀ m ∈ values, m.2.Proper := by
  cases members with
  | nil =>
    obtain rfl := Option.some.inj read
    simp
  | cons member rest =>
    obtain ⟨key, value⟩ := member
    rw [Document.membersToJson?] at read
    simp only [Option.bind_eq_bind, Option.bind_eq_some_iff] at read
    obtain ⟨key, -, value, first, more, later, same⟩ := read
    obtain rfl := Option.some.inj same
    exact List.forall_mem_cons.2
      ⟨Document.proper_of_toJson? first, Document.proper_of_membersToJson? later⟩

end

/-- **What is read from a text is proper.** -/
theorem Json.proper_of_ofText? {s : String} {v : Json} (read : Json.ofText? s = some v) :
    v.Proper := by
  obtain ⟨tree, -, value⟩ := Option.bind_eq_some_iff.1 read
  exact Document.proper_of_toJson? value

/-! ## Records -/

/-- The values that a value is made of. -/
def Json.parts : Json → List Json
  | .array items => items
  | .object members => members.map (·.2)
  | _ => []

theorem Json.Proper.of_mem_parts {v part : Json} (proper : v.Proper) (mem : part ∈ v.parts) :
    part.Proper := by
  cases proper with
  | array each => exact each part mem
  | object _ each =>
    obtain ⟨m, inside, rfl⟩ := List.mem_map.1 mem
    exact each m inside
  | null | bool | int | float | string => cases mem

namespace RecordShape

variable {ρ : Type} {shape : RecordShape ρ} {holds : ρ → Prop}

/-- **What holds of a record however its fields are set** from proper values. -/
structure Keeps (shape : RecordShape ρ) (holds : ρ → Prop) : Prop where
  /-- It holds before any field is set. -/
  blank : holds shape.blank
  /-- It still holds when a field is set. -/
  set : ∀ f ∈ shape.fields, ∀ v r r', v.Proper → holds r → f.set v r = .ok r' → holds r'

namespace Keeps

variable (keeps : shape.Keeps holds)
include keeps

theorem of_setMembers {members : List (String × Json)} (each : ∀ m ∈ members, m.2.Proper)
    {seen seen' : List String} {record record' : ρ} (before : holds record)
    (ok : shape.setMembers seen record members = .ok (seen', record')) : holds record' := by
  induction members generalizing seen record with
  | nil =>
    obtain ⟨-, rfl⟩ : seen = seen' ∧ record = record' := by simpa [setMembers] using ok
    exact before
  | cons m rest ih =>
    obtain ⟨first, later⟩ := List.forall_mem_cons.1 each
    rcases setMembers_cons ok with ⟨-, ok⟩ | ⟨f, record₁, found, -, set, ok⟩
    · exact ih later before ok
    · exact ih later (keeps.set f (mem_of_field? found).1 _ _ _ first before set) ok

theorem of_setItems {fields : List (Field ρ)} (some : ∀ f ∈ fields, f ∈ shape.fields)
    {items : List Json} (each : ∀ v ∈ items, v.Proper) {index : Nat} {record record' : ρ}
    (before : holds record) (ok : shape.setItems index record fields items = .ok record') :
    holds record' := by
  induction fields generalizing items index record with
  | nil =>
    obtain rfl : record = record' := by simpa [setItems] using ok
    exact before
  | cons f fields ih =>
    obtain ⟨mem, more⟩ := List.forall_mem_cons.1 some
    cases items with
    | nil =>
      rw [setItems] at ok
      split at ok
      · cases ok
      · exact ih more each before ok
    | cons v rest =>
      obtain ⟨first, later⟩ := List.forall_mem_cons.1 each
      rw [setItems] at ok
      cases set : f.set v record with
      | error =>
        rw [set] at ok
        cases ok
      | ok record₁ =>
        rw [set] at ok
        exact ih more later (keeps.set f mem _ _ _ first before set) ok

/-- **It holds of every record that is decoded** from proper parts. -/
theorem of_decodeWith {excess : Nat → Fault} {v : Json} (each : ∀ part ∈ v.parts, part.Proper)
    {record : ρ} (ok : shape.decodeWith excess v = .ok record) : holds record := by
  cases v with
  | object members =>
    have proper : ∀ m ∈ members, m.2.Proper := fun m mem => each m.2 (List.mem_map_of_mem mem)
    rw [decodeWith] at ok
    cases set : shape.setMembers [] shape.blank members with
    | error =>
      rw [set] at ok
      cases ok
    | ok result =>
      obtain ⟨seen, record'⟩ := result
      rw [set] at ok
      dsimp only [Except.bind, bind] at ok
      split at ok
      · cases ok
      · obtain rfl := Except.ok.inj ok
        exact keeps.of_setMembers proper keeps.blank set
  | array items =>
    rw [decodeWith] at ok
    cases set : shape.setItems 0 shape.blank shape.fields items with
    | error =>
      rw [set] at ok
      cases ok
    | ok record' =>
      rw [set] at ok
      dsimp only [Except.bind, bind] at ok
      split at ok
      · cases ok
      · obtain rfl := Except.ok.inj ok
        exact keeps.of_setItems (fun _ mem => mem) each keeps.blank set
  | null | bool | int | float | string => cases ok

end Keeps

/-- The members that a record looks at are proper, whatever the others are. -/
theorem proper_of_knownMembers? {members : List (List Piece × Document)}
    {known : List (String × Json)} (read : shape.knownMembers? members = some known) :
    ∀ m ∈ known, m.2.Proper := by
  induction members generalizing known with
  | nil =>
    obtain rfl := Option.some.inj read
    simp
  | cons member rest ih =>
    obtain ⟨key, tree⟩ := member
    rw [knownMembers?] at read
    simp only [Option.bind_eq_bind, Option.bind_eq_some_iff] at read
    obtain ⟨name, -, more, later, read⟩ := read
    split at read
    · obtain ⟨value, first, same⟩ := Option.bind_eq_some_iff.1 read
      obtain rfl := Option.some.inj same
      exact List.forall_mem_cons.2 ⟨Document.proper_of_toJson? first, ih later⟩
    · obtain rfl := Option.some.inj read
      exact ih later

/-- **It holds of every record that is read from a text.** -/
theorem Keeps.of_ofText (keeps : shape.Keeps holds) {s : String} {record : ρ}
    (ok : shape.ofText s = .ok record) : holds record := by
  unfold ofText at ok
  cases document : Document.ofText? s with
  | none =>
    rw [document] at ok
    cases ok
  | some tree =>
    rw [document] at ok
    dsimp only at ok
    cases view : shape.view? tree with
    | none =>
      rw [view] at ok
      cases ok
    | some v =>
      have each : ∀ part ∈ v.parts, part.Proper := by
        intro part mem
        cases tree with
        | object members =>
          obtain ⟨known, read, rfl⟩ := Option.map_eq_some_iff.1 view
          obtain ⟨m, inside, rfl⟩ := List.mem_map.1 mem
          exact proper_of_knownMembers? read m inside
        | null | bool | number | text | array =>
          exact (Document.proper_of_toJson? view).of_mem_parts mem
      rw [view] at ok
      dsimp only at ok
      split at ok
      · rename_i record' decoded
        obtain rfl := Except.ok.inj ok
        exact keeps.of_decodeWith each decoded
      · split at ok <;> cases ok

end RecordShape

/-! ## Frames -/

namespace Frame

/-- Fields are set to proper values only. -/
theorem keeps_proper : shape.Keeps (·.data.Proper) where
  blank := .null
  set := by
    intro f mem v r r' proper before ok
    simp only [shape, List.mem_cons, List.not_mem_nil, or_false] at mem
    rcases mem with rfl | rfl
    · obtain ⟨x, -, rfl⟩ := RecordShape.exists_of_set ok
      exact before
    · obtain rfl := Except.ok.inj ok
      exact proper

/-- **The data of a frame** are proper, whatever the text has in it. -/
theorem proper_of_parse {text : String} {f : Frame} (read : parse text = .ok f) : f.data.Proper :=
  keeps_proper.of_ofText read

end Frame

/-! ## Events -/

theorem Incident.proper_of_readable? {i : Incident} {frame : Frame × Int}
    (read : i.readable? = some frame) : frame.1.data.Proper := by
  cases i with
  | frame text time =>
    rw [readable?] at read
    cases parsed : Frame.parse text with
    | error =>
      rw [parsed] at read
      cases read
    | ok f =>
      rw [parsed] at read
      obtain rfl := Option.some.inj read
      exact Frame.proper_of_parse parsed
  | garbled | cleared | dialled | opened | refused | outlived | lost => cases read

theorem Ledger.proper_of_mem_events {b : Ledger} {log : List Incident} {event : Event}
    (told : event ∈ b.events log) : event.data.Proper := by
  rw [Ledger.events_eq] at told
  obtain ⟨k, inside, rfl⟩ := List.mem_mapIdx.1 told
  obtain ⟨i, -, read⟩ := List.mem_filterMap.1 (List.getElem_mem inside)
  exact i.proper_of_readable? read

/-- **Every event that is told** in a run of the board has proper data, whatever comes in on
the channel. -/
theorem Moment.proper_of_mem_dispatched {m : Moment} {es : List BoardEvent} {event : Event}
    (told : event ∈ m.dispatched es) : event.data.Proper := by
  have told : event ∈ (m.told es).filterMap ChannelNotice.event? := told
  rw [(m.books_run es).told] at told
  exact Ledger.proper_of_mem_events told

end Liveboard
