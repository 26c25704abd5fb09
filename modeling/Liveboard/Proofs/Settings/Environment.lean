import Liveboard.Proofs.Decimal.Spelling
import Liveboard.Proofs.Settings.Layers
import Liveboard.Proofs.Text.Splitting
import Liveboard.Proofs.Wire.Acceptance
import Liveboard.Settings.Loading

/-!
# Texts from the environment

A variable of the environment has a text, and some settings are texts. On the way
from one to the other the text is taken for a truth value, a whole number or a
double if it is one, and written again at the end, because the setting asks for a
text. What is written is not always what was read: a truth value comes in small
letters, a whole number without a plus and without zeros in front, a double in the
shortest digits and without an exponent. So a token of digits loses its zeros, and
one that looks like a double with an exponent is changed beyond recognition. A text
in quotes in a file does not go this way.

Every other text arrives as it is. Which ones do is stated here exactly
(`Variable.arrival_eq_iff`), for each setting that is a text, and for every file
below the environment. Of the other variables only those that come later matter,
and of these only those that do not spare the setting (`Variable.Spares`).

The settings that are texts are one type, `TextSetting`, and the variables for a
setting and its place in the tree that the layers make are functions on it. So
`ClientSettings.load_text` is one statement about all of them.
-/

namespace Liveboard

/-! ## Settings that are texts -/

/-- **The settings that are texts.** -/
inductive TextSetting where
  /-- The address of the backend. -/
  | baseUrl
  /-- The address of the channel. -/
  | channelUrl
  /-- The token. -/
  | token
  /-- The delay before the first retry. -/
  | baseDelay
  /-- The cap of the delays. -/
  | maxDelay
  /-- The level of the log. -/
  | level
  deriving DecidableEq

namespace TextSetting

/-- The names on the way to a setting. -/
def names : TextSetting → List String
  | .baseUrl => ["api_base_url"]
  | .channelUrl => ["channel_url"]
  | .token => ["auth_token"]
  | .baseDelay => ["reconnect", "base_delay"]
  | .maxDelay => ["reconnect", "max_delay"]
  | .level => ["logging", "level"]

/-- **The name of the variable** for a setting, in small letters. -/
def variableName (t : TextSetting) : String :=
  Variable.start ++ Variable.separator.intercalate t.names

/-- **The value of a setting**, if it has one. -/
def value? (t : TextSetting) (s : ClientSettings) : Option String :=
  match t with
  | .baseUrl => some s.baseUrl
  | .channelUrl => s.channelUrl
  | .token => s.token
  | .baseDelay => some s.reconnect.baseDelay
  | .maxDelay => some s.reconnect.maxDelay
  | .level => some s.log.level

/-- The key that the variable sets. -/
def key (t : TextSetting) : String :=
  ".".intercalate t.names

theorem ofKey_key (t : TextSetting) : SettingPath.ofKey t.key = t.names.map .member := by
  cases t <;> decide +kernel

end TextSetting

/-! ## What becomes of a text -/

namespace Variable

/-- **What a text may be taken for**: itself, unless it is something else. -/
theorem guess_cases (text : String) :
    (∃ b, guess text = .bool b) ∨ (∃ n, guess text = .int n ∧ readSigned? text = some n) ∨
      (∃ x, guess text = .float x) ∨ guess text = .string text := by
  unfold guess
  split
  · exact .inl ⟨true, rfl⟩
  · exact .inl ⟨false, rfl⟩
  · cases readSigned? text with
    | some n => exact .inr (.inl ⟨n, rfl, rfl⟩)
    | none =>
      cases readDouble? text with
      | some x => exact .inr (.inr (.inl ⟨x, rfl⟩))
      | none => exact .inr (.inr (.inr rfl))

/-- **What a text arrives as** where a text is asked for: what it is taken for, written again. -/
def arrival (text : String) : String :=
  match guess text with
  | .bool b => if b then "true" else "false"
  | .int n => toString n
  | .float x => FloatLayout.prose.render x
  | _ => text

/-- **The texts that stay**: the words for truth values in small letters, whole numbers in
their plain spelling, doubles as they are written in prose, and all that is none of these. -/
def Verbatim (text : String) : Prop :=
  match guess text with
  | .bool b => text = if b then "true" else "false"
  | .int _ => IsPlainWhole text
  | .float x => text = FloatLayout.prose.render x
  | _ => True

/-- **A text arrives as it is** if and only if it is one of these. -/
theorem arrival_eq_iff (text : String) : arrival text = text ↔ Verbatim text := by
  unfold arrival Verbatim
  rcases guess_cases text with ⟨b, taken⟩ | ⟨n, taken, whole⟩ | ⟨x, taken⟩ | taken <;> rw [taken]
  · exact eq_comm
  · exact toString_readSigned? whole
  · exact eq_comm
  · exact iff_of_true rfl trivial

theorem text?_guess (text : String) : Loose.text? (guess text) = some (arrival text) := by
  unfold arrival
  rcases guess_cases text with ⟨b, taken⟩ | ⟨n, taken, -⟩ | ⟨x, taken⟩ | taken <;> rw [taken]
  all_goals rfl

/-- No text is taken for a table. -/
theorem guess_ne_object (text : String) (ms : List (String × Json)) : guess text ≠ .object ms := by
  intro table
  have written := text?_guess text
  rw [table] at written
  cases written

/-- **What the variable for a setting sets**, in whatever letters its name is. -/
theorem entry_of_named {t : TextSetting} {v : Variable}
    (named : Loose.lower v.name = t.variableName) : v.entry? = some (t.key, guess v.value) := by
  have name : t.variableName.startsWith start = true ∧
      (String.ofList (t.variableName.toList.drop start.length)).splitOn separator = t.names := by
    cases t <;>
      exact ⟨by decide +kernel, splitOn_eq 40 (by decide) (by decide +kernel)⟩
  unfold entry?
  rw [named]
  dsimp only
  rw [if_pos name.1, name.2]
  rfl

/-- **A variable that spares a setting**: it sets something else, or nothing. -/
def Spares (v : Variable) (t : TextSetting) : Prop :=
  ∀ entry, v.entry? = some entry → (SettingPath.ofKey entry.1).Spares t.names

/-- **The variables for two settings** spare one another's. -/
theorem spares_of_ne {t u : TextSetting} (ne : u ≠ t) {v : Variable}
    (named : Loose.lower v.name = u.variableName) : v.Spares t := by
  intro entry sets
  rw [entry_of_named named] at sets
  obtain rfl := Option.some.inj sets
  dsimp only
  rw [u.ofKey_key]
  cases u <;> cases t <;> first
    | exact absurd rfl ne
    | simp [SettingPath.Spares, TextSetting.names]

/-- **Variables for settings**, one after the other. -/
theorem overlay_named {given : List (TextSetting × Variable)}
    (named : ∀ g ∈ given, Loose.lower g.2.name = g.1.variableName) (below : Json) :
    Json.overlay ((given.map Prod.snd).filterMap entry?) below
      = given.foldl (fun v g => Json.changeAt (fun _ => guess g.2.value) (g.1.names.map .member) v)
          below := by
  induction given generalizing below with
  | nil => rfl
  | cons g given ih =>
    obtain ⟨first, later⟩ := List.forall_mem_cons.1 named
    rw [List.map_cons, List.filterMap_cons_some (entry_of_named first), List.foldl_cons, ← ih later,
      ← g.1.ofKey_key]
    have put : Json.merge (guess g.2.value) = fun _ => guess g.2.value :=
      funext (Json.merge_eq (guess_ne_object g.2.value))
    rw [← put]
    rfl

end Variable

/-! ## Records of settings -/

open RecordShape

namespace ReconnectSettings

theorem set_keeps {f : Field ReconnectSettings} (mem : f ∈ shape.fields) {v : Json}
    {r r' : ReconnectSettings} (set : f.set v r = .ok r') :
    (f.name ≠ "base_delay" → r'.baseDelay = r.baseDelay) ∧
      (f.name ≠ "max_delay" → r'.maxDelay = r.maxDelay) := by
  simp only [shape, List.mem_cons, List.not_mem_nil, or_false] at mem
  rcases mem with rfl | rfl | rfl | rfl | rfl <;>
    obtain ⟨x, -, rfl⟩ := exists_of_set set <;> simp

theorem reads_baseDelay : shape.Reads "base_delay" Scalar.text (·.baseDelay) where
  field := ⟨_, rfl, fun _ _ _ => read_of_set fun _ => rfl⟩
  others _ mem other _ _ _ set := (set_keeps mem set).1 other

theorem reads_maxDelay : shape.Reads "max_delay" Scalar.text (·.maxDelay) where
  field := ⟨_, rfl, fun _ _ _ => read_of_set fun _ => rfl⟩
  others _ mem other _ _ _ set := (set_keeps mem set).2 other

end ReconnectSettings

theorem LogSettings.reads_level : shape.Reads "level" Scalar.text (·.level) where
  field := ⟨_, rfl, fun _ _ _ => read_of_set fun _ => rfl⟩
  others f mem other v r r' set := by
    simp only [shape, List.mem_cons, List.not_mem_nil, or_false] at mem
    rcases mem with rfl | rfl | rfl
    · exact absurd rfl other
    all_goals
      obtain ⟨x, -, rfl⟩ := exists_of_set set
      rfl

namespace ClientSettings

theorem set_keeps {f : Field ClientSettings} (mem : f ∈ shape.fields) {v : Json}
    {r r' : ClientSettings} (set : f.set v r = .ok r') :
    (f.name ≠ "api_base_url" → r'.baseUrl = r.baseUrl) ∧
      (f.name ≠ "channel_url" → r'.channelUrl = r.channelUrl) ∧
      (f.name ≠ "auth_token" → r'.token = r.token) ∧
      (f.name ≠ "reconnect" → r'.reconnect = r.reconnect) ∧
      (f.name ≠ "logging" → r'.log = r.log) := by
  simp only [shape, List.mem_cons, List.not_mem_nil, or_false] at mem
  rcases mem with rfl | rfl | rfl | rfl | rfl | rfl | rfl <;>
    obtain ⟨x, -, rfl⟩ := exists_of_set set <;> simp

theorem reads_baseUrl : shape.Reads "api_base_url" Scalar.text (·.baseUrl) where
  field := ⟨_, rfl, fun _ _ _ => read_of_set fun _ => rfl⟩
  others _ mem other _ _ _ set := (set_keeps mem set).1 other

theorem reads_channelUrl :
    shape.Reads "channel_url" (Scalar.optional Scalar.text) (·.channelUrl) where
  field := ⟨_, rfl, fun _ _ _ => read_of_set fun _ => rfl⟩
  others _ mem other _ _ _ set := (set_keeps mem set).2.1 other

theorem reads_token : shape.Reads "auth_token" (Scalar.optional Scalar.text) (·.token) where
  field := ⟨_, rfl, fun _ _ _ => read_of_set fun _ => rfl⟩
  others _ mem other _ _ _ set := (set_keeps mem set).2.2.1 other

theorem reads_reconnect :
    shape.Reads "reconnect" ReconnectSettings.shape.decode (·.reconnect) where
  field := ⟨_, rfl, fun _ _ _ => read_of_set fun _ => rfl⟩
  others _ mem other _ _ _ set := (set_keeps mem set).2.2.2.1 other

theorem reads_log : shape.Reads "logging" LogSettings.shape.decode (·.log) where
  field := ⟨_, rfl, fun _ _ _ => read_of_set fun _ => rfl⟩
  others _ mem other _ _ _ set := (set_keeps mem set).2.2.2.2 other

end ClientSettings

/-! ## From the tree to a setting -/

namespace TextSetting

variable {x y : Json} {text : String}

/-- A list or a table is no text, so a place that a text was taken from bears it. -/
theorem text_of_bears (kind : y = x ∨ y.IsCompound) (written : Loose.text? x = some text)
    {z : Json} (bent : Loose.text y = some z) : z = .string text := by
  obtain ⟨found, same, rfl⟩ := Option.map_eq_some_iff.1 bent
  rcases kind with rfl | compound
  · rw [Option.some.inj (same.symm.trans written)]
  · cases y with
    | array | object => cases same
    | _ => cases compound

theorem optionalText_of_bears (kind : y = x ∨ y.IsCompound)
    (written : Loose.text? x = some text) {z : Json} (bent : Loose.optionalText y = some z) :
    z = .string text := by
  cases y with
  | null =>
    rcases kind with rfl | compound
    · cases written
    · cases compound
  | _ => exact text_of_bears kind written bent

section Records

variable {ρ α : Type} {shape : RecordShape ρ} {fields : List (String × Loose.Bend)} {name : String}
  {bend : Loose.Bend} {read : Json → Except Fault α} {component : ρ → α} {v r : Json} {s : ρ}

/-- **A component of a record** is what is read of the member, once this is bent. -/
theorem read_member (nodup : (fields.map Prod.fst).Nodup) (field : fields.lookup name = some bend)
    (reads : shape.Reads name read component) (bent : Loose.record fields v = some r)
    (decoded : shape.decode r = .ok s) {w : Json} (member : v.get? name = some w) :
    ∃ z, bend w = some z ∧ read z = .ok (component s) := by
  obtain ⟨z, same, found⟩ := Loose.get?_record nodup bent field member
  exact ⟨z, same, reads.of_decode found decoded⟩

/-- **A component that is a text**, where the member bears the text. -/
theorem read_text (nodup : (fields.map Prod.fst).Nodup) (field : fields.lookup name = some bend)
    (reads : shape.Reads name read component) (bent : Loose.record fields v = some r)
    (decoded : shape.decode r = .ok s) (bears : v.Bears [name] x)
    (text_of : ∀ y z, (y = x ∨ y.IsCompound) → bend y = some z → z = .string text) :
    read (.string text) = .ok (component s) := by
  obtain ⟨y, there, kind⟩ := bears
  obtain ⟨w, member, same⟩ := Option.bind_eq_some_iff.1 there
  obtain rfl := Option.some.inj same
  obtain ⟨z, bent', value⟩ := read_member nodup field reads bent decoded member
  rw [← text_of w z kind bent', value]

end Records

/-- **The table around a setting** is a member of the tree, and bears the setting. -/
theorem exists_group {v : Json} {group name : String} (bears : v.Bears [group, name] x) :
    ∃ w, v.get? group = some w ∧ w.Bears [name] x := by
  obtain ⟨y, there, kind⟩ := bears
  obtain ⟨w, member, inside⟩ := Option.bind_eq_some_iff.1 there
  exact ⟨w, member, y, inside, kind⟩

/-- **A setting, from the tree** that the layers make. -/
theorem value?_of_bears (t : TextSetting) {tree : Json} {s : ClientSettings}
    (bears : tree.Bears t.names x) (written : Loose.text? x = some text)
    (made : ClientSettings.ofLoose? tree = some s) : t.value? s = some text := by
  obtain ⟨r, bent, decoded⟩ := Option.bind_eq_some_iff.1 made
  have decoded : ClientSettings.shape.decode r = .ok s := by
    split at decoded
    · rename_i found
      rw [found, Option.some.inj decoded]
    · cases decoded
  have plain := fun y z (kind : y = x ∨ y.IsCompound) (bent : Loose.text y = some z) =>
    text_of_bears kind written bent
  have optional := fun y z (kind : y = x ∨ y.IsCompound) (bent : Loose.optionalText y = some z) =>
    optionalText_of_bears kind written bent
  cases t with
  | baseUrl =>
    have value := read_text (by decide) rfl ClientSettings.reads_baseUrl bent decoded bears plain
    exact congrArg some (Except.ok.inj value).symm
  | channelUrl =>
    have value :=
      read_text (by decide) rfl ClientSettings.reads_channelUrl bent decoded bears optional
    exact (Except.ok.inj value).symm
  | token =>
    have value := read_text (by decide) rfl ClientSettings.reads_token bent decoded bears optional
    exact (Except.ok.inj value).symm
  | baseDelay =>
    obtain ⟨w, around, bears⟩ := exists_group bears
    obtain ⟨group, bent, read⟩ :=
      read_member (by decide) rfl ClientSettings.reads_reconnect bent decoded around
    have value := read_text (by decide) rfl ReconnectSettings.reads_baseDelay bent read bears plain
    exact congrArg some (Except.ok.inj value).symm
  | maxDelay =>
    obtain ⟨w, around, bears⟩ := exists_group bears
    obtain ⟨group, bent, read⟩ :=
      read_member (by decide) rfl ClientSettings.reads_reconnect bent decoded around
    have value := read_text (by decide) rfl ReconnectSettings.reads_maxDelay bent read bears plain
    exact congrArg some (Except.ok.inj value).symm
  | level =>
    obtain ⟨w, around, bears⟩ := exists_group bears
    obtain ⟨group, bent, read⟩ :=
      read_member (by decide) rfl ClientSettings.reads_log bent decoded around
    have value := read_text (by decide) rfl LogSettings.reads_level bent read bears plain
    exact congrArg some (Except.ok.inj value).symm

end TextSetting

/-! ## From the environment to a setting -/

namespace ClientSettings

open TextSetting Variable

/-- The tree that settings were made from. -/
theorem load_ok {file : Option SettingsFile} {environment : List Variable} {s : ClientSettings}
    (loaded : load file environment = .ok s) :
    ∃ below, ofLoose? (Json.overlay (environment.filterMap entry?) below) = some s := by
  unfold load at loaded
  cases read : fileLayer? file with
  | none =>
    rw [read] at loaded
    cases loaded
  | some layer =>
    rw [read] at loaded
    refine ⟨Json.overlay layer (.object []), ?_⟩
    dsimp only at loaded
    split at loaded
    · cases loaded
    · rename_i made
      rw [made, Except.ok.inj loaded]

/-- **Settings from variables for texts**, without a file: each text is put in its place. -/
theorem load_named (given : List (TextSetting × Variable)) {s : ClientSettings}
    (named : ∀ g ∈ given, Loose.lower g.2.name = g.1.variableName)
    (made : ofLoose? (given.foldl (fun v g =>
      Json.changeAt (fun _ => guess g.2.value) (g.1.names.map .member) v) (.object [])) = some s) :
    load none (given.map Prod.snd) = .ok s := by
  unfold load
  dsimp only [fileLayer?, Json.overlay, List.foldl_nil]
  rw [← Json.overlay, overlay_named named, made]

/-- **A setting that is a text, from the environment.** Whatever the file, and whatever the
variables before, if the variables after it spare the setting and the settings are loaded, then
the setting is what the text of the variable arrives as. So it is this text if and only if it is
one that stays. -/
theorem load_text (t : TextSetting) (file : Option SettingsFile) (before after : List Variable)
    (v : Variable) (s : ClientSettings) (named : Loose.lower v.name = t.variableName)
    (spared : ∀ w ∈ after, w.Spares t) (loaded : load file (before ++ v :: after) = .ok s) :
    t.value? s = some (arrival v.value) ∧ (t.value? s = some v.value ↔ Verbatim v.value) := by
  obtain ⟨below, made⟩ := load_ok loaded
  have entries : (before ++ v :: after).filterMap entry? = before.filterMap entry?
      ++ (t.key, guess v.value) :: after.filterMap entry? := by
    rw [List.filterMap_append, List.filterMap_cons_some (entry_of_named named)]
  have spare : ∀ entry ∈ after.filterMap entry?, (SettingPath.ofKey entry.1).Spares t.names := by
    intro entry mem
    obtain ⟨w, inside, sets⟩ := List.mem_filterMap.1 mem
    exact spared w inside entry sets
  rw [entries] at made
  have value := value?_of_bears t
    (Json.bears_overlay_append (guess_ne_object v.value) t.ofKey_key spare below)
    (text?_guess v.value) made
  refine ⟨value, ?_⟩
  rw [value, Option.some_inj]
  exact arrival_eq_iff v.value

theorem load_text_bearer :
    ∃ s, load none [⟨"AXON_DASH__API_BASE_URL", "http://env:1/x"⟩,
        ⟨"AXON_DASH__AUTH_TOKEN", "Bearer 007"⟩,
        ⟨"AXON_DASH__RECONNECT__BASE_DELAY", "2s"⟩] = .ok s ∧ s.token = some "Bearer 007" := by
  have loaded : load none _ = .ok _ :=
    load_named [(.baseUrl, ⟨"AXON_DASH__API_BASE_URL", "http://env:1/x"⟩),
      (.token, ⟨"AXON_DASH__AUTH_TOKEN", "Bearer 007"⟩),
      (.baseDelay, ⟨"AXON_DASH__RECONNECT__BASE_DELAY", "2s"⟩)] (by decide +kernel) rfl
  have spared : Variable.Spares ⟨"AXON_DASH__RECONNECT__BASE_DELAY", "2s"⟩ .token :=
    spares_of_ne (u := .baseDelay) (by decide) (by decide +kernel)
  have stays : Verbatim "Bearer 007" := by
    rw [Verbatim, show guess "Bearer 007" = .string "Bearer 007" from rfl]
    trivial
  have arrives := load_text .token none [_] [_] _ _ (by decide +kernel)
    (List.forall_mem_singleton.2 spared) loaded
  exact ⟨_, loaded, arrives.2.2 stays⟩

/-- **A token of digits** loses the zeros in front. -/
theorem load_text_not_always :
    ∃ s, load none [⟨"AXON_DASH__AUTH_TOKEN", "007"⟩] = .ok s ∧ s.token = some "7" ∧
      s.token ≠ some "007" :=
  ⟨{ standard with token := some "7" },
    load_named [(.token, ⟨"AXON_DASH__AUTH_TOKEN", "007"⟩)] (by decide +kernel) rfl,
    rfl, by decide⟩

end ClientSettings

end Liveboard
