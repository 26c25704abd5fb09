import Liveboard.Proofs.Decimal.Order
import Liveboard.Proofs.Text.Splitting
import Liveboard.Settings.Validation

/-!
# The rules for settings

Settings are good if they obey some rules, and each rule is about one field. The rules are
stated here as what they ask for, without regard to how it is checked: that a text can be
read, that a number lies in a range. What can be read is for the readers to say, so
`SettingsRule.Holds` has them as a parameter, as the validation does. Some of the rules depend
on others. A delay that cannot be read is neither too small nor too large, and of two delays
nothing can be said unless both can be read.

What is wrong is put together from several lists, and a list that were dropped, or a check
that ended too early, would keep something from whoever wrote the settings. So the verdict
is compared with the rules: settings are accepted if they obey all of them, and otherwise
there is one issue for each rule that is broken, in the order of the rules
(`ClientSettings.validate_reports`). The wording of the verdict has one line for each issue.

Rule by rule this is `SettingsRule.judged_check`, that a rule is obeyed or there is one issue
about it; the rest is that the lists of the checks, one after the other, are the issues.
-/

namespace Liveboard

/-! ## The rules -/

/-- **An address that can be used**: it can be read, its scheme is one of those asked for,
and it names a host. -/
def IsAddress (readers : SettingsReaders) (schemes : List String) (text : String) : Prop :=
  ∃ url, readers.url text = .ok url ∧ url.scheme ∈ schemes ∧ url.host.isSome = true

/-- A text of white space only. -/
def IsBlank (text : String) : Prop :=
  ∀ c ∈ text.toList, Blank.isBlank c = true

/-- **The rules for settings.** -/
inductive SettingsRule where
  /-- There is an address of the backend, and it is one of the web. -/
  | baseUrl
  /-- The address of the channel, if it is set, is one of a web socket. -/
  | channelUrl
  /-- The token, if it is set, is not blank. -/
  | token
  /-- The delay before the first retry is a span of time. -/
  | baseDelay
  /-- The cap of the delays is a span of time. -/
  | maxDelay
  /-- The delay before the first retry is not nothing. -/
  | someDelay
  /-- The cap is not smaller than the delay before the first retry. -/
  | delayOrder
  /-- The factor of the delays does not shrink them. -/
  | multiplier
  /-- The deviation is a share of the delay. -/
  | jitter
  /-- The client does not give up before the first failure. -/
  | failures
  /-- There is a wait after a failed pull. -/
  | retry
  /-- There is time for a request. -/
  | timeout
  /-- There is room for deltas. -/
  | pending
  /-- The level of the log is a filter. -/
  | level
  deriving DecidableEq

namespace SettingsRule

/-- **The order of the rules.** -/
def all : List SettingsRule :=
  [.baseUrl, .channelUrl, .token, .baseDelay, .maxDelay, .someDelay, .delayOrder, .multiplier,
    .jitter, .failures, .retry, .timeout, .pending, .level]

theorem mem_all (r : SettingsRule) : r ∈ all := by
  cases r <;> decide

/-- The field that a rule is about. -/
def field : SettingsRule → String
  | .baseUrl => "api_base_url"
  | .channelUrl => "channel_url"
  | .token => "auth_token"
  | .baseDelay | .someDelay => "reconnect.base_delay"
  | .maxDelay | .delayOrder => "reconnect.max_delay"
  | .multiplier => "reconnect.multiplier"
  | .jitter => "reconnect.jitter"
  | .failures => "reconnect.max_consecutive_failures"
  | .retry => "snapshot.retry_interval_secs"
  | .timeout => "snapshot.request_timeout_secs"
  | .pending => "snapshot.max_pending_deltas"
  | .level => "logging.level"

/-- **What a rule asks for**, with texts read as the readers say. -/
def Holds (readers : SettingsReaders) (s : ClientSettings) : SettingsRule → Prop
  | .baseUrl => ¬IsBlank s.baseUrl ∧ IsAddress readers ["http", "https"] s.baseUrl
  | .channelUrl => ∀ text, s.channelUrl = some text → IsAddress readers ["ws", "wss"] text
  | .token => ∀ text, s.token = some text → ¬IsBlank text
  | .baseDelay => ∃ base, readers.span s.reconnect.baseDelay = .ok base
  | .maxDelay => ∃ cap, readers.span s.reconnect.maxDelay = .ok cap
  | .someDelay => ∀ base, readers.span s.reconnect.baseDelay = .ok base → 0 < base.nanos
  | .delayOrder => ∀ base cap, readers.span s.reconnect.baseDelay = .ok base →
      readers.span s.reconnect.maxDelay = .ok cap → base.nanos ≤ cap.nanos
  | .multiplier => s.reconnect.multiplier.isFinite = true ∧ 1 ≤ Double.exact s.reconnect.multiplier
  | .jitter => s.reconnect.jitter.isFinite = true ∧ 0 ≤ Double.exact s.reconnect.jitter ∧
      Double.exact s.reconnect.jitter < 1
  | .failures => 0 < s.reconnect.maxFailures
  | .retry => 0 < s.snapshot.retrySecs
  | .timeout => 0 < s.snapshot.timeoutSecs
  | .pending => 0 < s.snapshot.maxPending
  | .level => readers.isFilter s.log.level = true

end SettingsRule

/-! ## What issues say -/

/-- What is said to be wrong with an address is. -/
def AddressFault.Describes (readers : SettingsReaders) (schemes : List String) (text : String) :
    AddressFault → Prop
  | .invalid complaint => readers.url text = .error complaint
  | .scheme found => ∃ url, readers.url text = .ok url ∧ url.scheme = found ∧ found ∉ schemes
  | .noHost => ∃ url, readers.url text = .ok url ∧ url.scheme ∈ schemes ∧ url.host = none

/-- The text of a delay. -/
def DelayName.text (s : ReconnectSettings) : DelayName → String
  | .base => s.baseDelay
  | .max => s.maxDelay

namespace SettingsIssue

/-- **The rule that an issue is about.** -/
def rule : SettingsIssue → SettingsRule
  | .noBaseUrl | .baseUrl _ => .baseUrl
  | .channelUrl _ => .channelUrl
  | .blankToken => .token
  | .delay .base _ _ => .baseDelay
  | .delay .max _ _ => .maxDelay
  | .zeroBaseDelay => .someDelay
  | .capTooSmall _ => .delayOrder
  | .multiplier _ => .multiplier
  | .jitter _ => .jitter
  | .zeroFailures => .failures
  | .zeroRetry => .retry
  | .zeroTimeout => .timeout
  | .zeroPending => .pending
  | .level _ => .level

/-- **What an issue says of settings.** It shows what was found there. -/
def Describes (readers : SettingsReaders) (s : ClientSettings) : SettingsIssue → Prop
  | .noBaseUrl => IsBlank s.baseUrl
  | .baseUrl fault => ¬IsBlank s.baseUrl ∧ fault.Describes readers ["http", "https"] s.baseUrl
  | .channelUrl fault =>
    ∃ text, s.channelUrl = some text ∧ fault.Describes readers ["ws", "wss"] text
  | .blankToken => ∃ text, s.token = some text ∧ IsBlank text
  | .delay which text complaint =>
    text = which.text s.reconnect ∧ readers.span text = .error complaint
  | .zeroBaseDelay => readers.span s.reconnect.baseDelay = .ok .zero
  | .capTooSmall text => text = s.reconnect.baseDelay ∧
      ∃ base cap, readers.span s.reconnect.baseDelay = .ok base ∧
        readers.span s.reconnect.maxDelay = .ok cap ∧ cap.nanos < base.nanos
  | .multiplier found =>
    found = s.reconnect.multiplier ∧ ¬SettingsRule.multiplier.Holds readers s
  | .jitter found => found = s.reconnect.jitter ∧ ¬SettingsRule.jitter.Holds readers s
  | .zeroFailures => s.reconnect.maxFailures = 0
  | .zeroRetry => s.snapshot.retrySecs = 0
  | .zeroTimeout => s.snapshot.timeoutSecs = 0
  | .zeroPending => s.snapshot.maxPending = 0
  | .level found => found = s.log.level ∧ readers.isFilter found = false

/-- **An issue names the field that its rule is about.** -/
theorem message_eq (issue : SettingsIssue) :
    issue.message = "Missing required field: " ++ issue.rule.field ∨
      ∃ complaint, issue.message
        = "Invalid field '" ++ issue.rule.field ++ "': " ++ complaint := by
  have onField : ∀ field complaint : String, SettingsIssue.onField field complaint
      = "Invalid field '" ++ field ++ "': " ++ complaint := fun _ _ => rfl
  cases issue with
  | noBaseUrl => exact .inl rfl
  | baseUrl fault => cases fault <;> exact .inr ⟨_, onField _ _⟩
  | channelUrl fault => cases fault <;> exact .inr ⟨_, onField _ _⟩
  | delay which => cases which <;> exact .inr ⟨_, onField _ _⟩
  | _ => exact .inr ⟨_, onField _ _⟩

end SettingsIssue

/-! ## The checks -/

theorem isBlankText_iff {text : String} : Blank.isBlankText text = true ↔ IsBlank text :=
  List.all_eq_true

/-- **What is wrong with an address**: nothing, if it can be used. -/
theorem addressFault?_cases (readers : SettingsReaders) (schemes : List String) (text : String) :
    (IsAddress readers schemes text ∧ addressFault? readers schemes text = none) ∨
      (¬IsAddress readers schemes text ∧
        ∃ fault, addressFault? readers schemes text = some fault ∧
          fault.Describes readers schemes text) := by
  unfold addressFault? IsAddress
  cases parsed : readers.url text with
  | error complaint => exact .inr ⟨by simp, .invalid complaint, rfl, parsed⟩
  | ok url =>
    simp only [Except.ok.injEq, exists_eq_left', Bool.not_eq_true']
    split_ifs with scheme host
    · have other : url.scheme ∉ schemes := by simpa using scheme
      exact .inr ⟨fun h => other h.1, .scheme url.scheme, rfl, url, parsed, rfl, other⟩
    · have one : url.scheme ∈ schemes := by simpa using scheme
      have none : url.host = none := Option.isNone_iff_eq_none.1 host
      exact .inr ⟨fun h => by simp [none] at h, .noHost, rfl, url, parsed, one, none⟩
    · have one : url.scheme ∈ schemes := by simpa using scheme
      exact .inl ⟨⟨one, by simpa [Option.isSome_iff_ne_none] using host⟩, rfl⟩

/-- A number is the factor of the delays if it is finite and at least one. -/
theorem isFactor_iff (x : Float) :
    ReconnectSettings.isFactor x = true ↔ x.isFinite = true ∧ 1 ≤ Double.exact x := by
  have finite : BackoffPolicy.isFiniteNumber x = true ↔ x.isFinite = true := by
    rw [Double.isFinite_iff, BackoffPolicy.isFiniteNumber]
    cases Binary.ofFloat x <;> simp
  rw [ReconnectSettings.isFactor, Bool.and_eq_true, finite, decide_eq_true_iff]
  exact and_congr_right fun h => by
    rw [Double.le_iff Double.isFinite_one h, Double.exact_one_point_zero]

/-- A number is a share of a delay if it lies between zero and one. -/
theorem isShare_iff (x : Float) :
    ReconnectSettings.isShare x = true ↔
      x.isFinite = true ∧ 0 ≤ Double.exact x ∧ Double.exact x < 1 := by
  rw [ReconnectSettings.isShare, Bool.and_eq_true, decide_eq_true_iff, decide_eq_true_iff]
  constructor
  · rintro ⟨low, high⟩
    have h := Double.isFinite_of_between Double.isFinite_zero Double.isFinite_one low high
    rw [Double.lt_iff h Double.isFinite_one, Double.exact_one_point_zero] at high
    exact ⟨h, (Double.zero_le_iff h).1 low, high⟩
  · rintro ⟨h, low, high⟩
    rw [Double.lt_iff h Double.isFinite_one, Double.exact_one_point_zero]
    exact ⟨(Double.zero_le_iff h).2 low, high⟩

namespace SettingsRule

/-- **What is reported of a rule.** -/
def check (readers : SettingsReaders) (s : ClientSettings) : SettingsRule → List SettingsIssue
  | .baseUrl => ClientSettings.baseUrlIssues readers s
  | .channelUrl => ClientSettings.channelUrlIssues readers s
  | .token => s.tokenIssues
  | .baseDelay => ReconnectSettings.delayIssues readers .base s.reconnect.baseDelay
  | .maxDelay => ReconnectSettings.delayIssues readers .max s.reconnect.maxDelay
  | .someDelay =>
    match readers.span s.reconnect.baseDelay with
    | .ok base => issueIf (base.nanos = 0) .zeroBaseDelay
    | .error _ => []
  | .delayOrder =>
    match readers.span s.reconnect.baseDelay, readers.span s.reconnect.maxDelay with
    | .ok base, .ok cap => issueIf (cap.nanos < base.nanos) (.capTooSmall s.reconnect.baseDelay)
    | _, _ => []
  | .multiplier =>
    issueIf (!ReconnectSettings.isFactor s.reconnect.multiplier)
      (.multiplier s.reconnect.multiplier)
  | .jitter => issueIf (!ReconnectSettings.isShare s.reconnect.jitter) (.jitter s.reconnect.jitter)
  | .failures => issueIf (s.reconnect.maxFailures = 0) .zeroFailures
  | .retry => issueIf (s.snapshot.retrySecs = 0) .zeroRetry
  | .timeout => issueIf (s.snapshot.timeoutSecs = 0) .zeroTimeout
  | .pending => issueIf (s.snapshot.maxPending = 0) .zeroPending
  | .level => LogSettings.issues readers s.log

/-- **A rule is kept or broken**: nothing is reported of a rule that is obeyed, and of one that
is not there is one issue, which is about this rule and right. -/
structure Judged (readers : SettingsReaders) (s : ClientSettings) (r : SettingsRule)
    (issues : List SettingsIssue) : Prop where
  /-- Of a rule that is obeyed nothing is reported. -/
  kept : r.Holds readers s → issues = []
  /-- Of a rule that is not there is one issue. -/
  broken : ¬r.Holds readers s →
    ∃ issue, issues = [issue] ∧ issue.rule = r ∧ issue.Describes readers s

variable {readers : SettingsReaders} {s : ClientSettings} {r : SettingsRule}

theorem judged_nil (holds : r.Holds readers s) : r.Judged readers s [] :=
  ⟨fun _ => rfl, fun h => absurd holds h⟩

theorem judged_singleton {issue : SettingsIssue} (broken : ¬r.Holds readers s)
    (rule : issue.rule = r) (describes : issue.Describes readers s) : r.Judged readers s [issue] :=
  ⟨fun h => absurd h broken, fun _ => ⟨issue, rfl, rule, describes⟩⟩

/-- An issue that is reported on a condition. -/
theorem judged_issueIf {condition : Bool} {issue : SettingsIssue} (rule : issue.rule = r)
    (kept : condition = false → r.Holds readers s)
    (broken : condition = true → ¬r.Holds readers s ∧ issue.Describes readers s) :
    r.Judged readers s (issueIf condition issue) := by
  cases condition with
  | false => exact judged_nil (kept rfl)
  | true => exact judged_singleton (broken rfl).1 rule (broken rfl).2

/-- A delay that cannot be read. -/
theorem judged_delayIssues (which : DelayName)
    (rule : ∀ text complaint, (SettingsIssue.delay which text complaint).rule = r)
    (holds : r.Holds readers s ↔ ∃ span, readers.span (which.text s.reconnect) = .ok span) :
    r.Judged readers s (ReconnectSettings.delayIssues readers which (which.text s.reconnect)) := by
  unfold ReconnectSettings.delayIssues
  cases parsed : readers.span (which.text s.reconnect) with
  | ok span => exact judged_nil (holds.2 ⟨span, parsed⟩)
  | error complaint =>
    refine judged_singleton (fun h => ?_) (rule _ _) ⟨rfl, parsed⟩
    obtain ⟨span, ok⟩ := holds.1 h
    rw [ok] at parsed
    cases parsed

/-- A number that must not be zero. -/
theorem judged_zero {n : ℕ} {issue : SettingsIssue} (rule : issue.rule = r)
    (holds : r.Holds readers s ↔ 0 < n) (describes : issue.Describes readers s ↔ n = 0) :
    r.Judged readers s (issueIf (n = 0) issue) :=
  judged_issueIf rule (fun some => holds.2 (Nat.pos_of_ne_zero (of_decide_eq_false some)))
    fun none => ⟨fun h => (holds.1 h).ne' (of_decide_eq_true none),
      describes.2 (of_decide_eq_true none)⟩

/-- A test that settings have to pass. -/
theorem judged_test {good : Bool} {issue : SettingsIssue} (rule : issue.rule = r)
    (test : good = true ↔ r.Holds readers s)
    (describes : ¬r.Holds readers s → issue.Describes readers s) :
    r.Judged readers s (issueIf (!good) issue) := by
  cases good with
  | true => exact judged_nil (test.1 rfl)
  | false =>
    have broken : ¬r.Holds readers s := fun h => Bool.false_ne_true (test.2 h)
    exact judged_singleton broken rule (describes broken)

variable (readers s)

theorem judged_baseUrl :
    baseUrl.Judged readers s (ClientSettings.baseUrlIssues readers s) := by
  unfold ClientSettings.baseUrlIssues
  split_ifs with blank
  · have blank := isBlankText_iff.1 blank
    exact judged_singleton (fun h => h.1 blank) rfl blank
  · have some : ¬IsBlank s.baseUrl := fun h => blank (isBlankText_iff.2 h)
    rcases addressFault?_cases readers ["http", "https"] s.baseUrl with
      ⟨good, none⟩ | ⟨bad, fault, found, describes⟩
    · rw [none]
      exact judged_nil ⟨some, good⟩
    · rw [found]
      exact judged_singleton (fun h => bad h.2) rfl ⟨some, describes⟩

theorem judged_channelUrl :
    channelUrl.Judged readers s (ClientSettings.channelUrlIssues readers s) := by
  unfold ClientSettings.channelUrlIssues
  cases set : s.channelUrl with
  | none => exact judged_nil fun text h => by rw [set] at h; cases h
  | some text =>
    rw [Option.bind_some]
    rcases addressFault?_cases readers ["ws", "wss"] text with
      ⟨good, none⟩ | ⟨bad, fault, found, describes⟩
    · rw [none]
      refine judged_nil fun text' h => ?_
      obtain rfl := Option.some.inj (set.symm.trans h)
      exact good
    · rw [found]
      exact judged_singleton (fun h => bad (h text set)) rfl ⟨text, set, describes⟩

theorem judged_token : token.Judged readers s s.tokenIssues := by
  refine judged_issueIf rfl (fun some text set blank => ?_) fun blank => ?_
  · rw [set, Option.any_some, isBlankText_iff.2 blank] at some
    cases some
  · obtain ⟨text, set, blank⟩ := (Option.any_eq_true _ _).1 blank
    have blank := isBlankText_iff.1 blank
    exact ⟨fun h => h text set blank, text, set, blank⟩

/-- The delay before the first retry is nothing; asked only if it can be read. -/
theorem judged_someDelay : someDelay.Judged readers s (someDelay.check readers s) := by
  unfold check
  cases parsed : readers.span s.reconnect.baseDelay with
  | error => exact judged_nil fun base h => by rw [parsed] at h; cases h
  | ok base =>
    refine judged_zero rfl ⟨fun h => h base parsed, fun some base' h => ?_⟩ ?_
    · obtain rfl := Except.ok.inj (parsed.symm.trans h)
      exact some
    · obtain ⟨nanos⟩ := base
      simp [SettingsIssue.Describes, parsed, Span.zero]

/-- The cap is smaller than the first delay; asked only if both can be read. -/
theorem judged_delayOrder : delayOrder.Judged readers s (delayOrder.check readers s) := by
  unfold check
  cases first : readers.span s.reconnect.baseDelay with
  | error => exact judged_nil fun base cap h => by rw [first] at h; cases h
  | ok base =>
    cases second : readers.span s.reconnect.maxDelay with
    | error => exact judged_nil fun base cap _ h => by rw [second] at h; cases h
    | ok cap =>
      refine judged_issueIf rfl (fun ordered base' cap' h h' => ?_) fun less => ?_
      · obtain rfl := Except.ok.inj (first.symm.trans h)
        obtain rfl := Except.ok.inj (second.symm.trans h')
        exact not_lt.1 (of_decide_eq_false ordered)
      · have less := of_decide_eq_true less
        exact ⟨fun h => (h base cap first second).not_gt less, rfl, base, cap, first, second, less⟩

/-- **The checks are right**, rule by rule. -/
theorem judged_check (r : SettingsRule) : r.Judged readers s (r.check readers s) := by
  cases r with
  | baseUrl => exact judged_baseUrl readers s
  | channelUrl => exact judged_channelUrl readers s
  | token => exact judged_token readers s
  | baseDelay => exact judged_delayIssues .base (fun _ _ => rfl) Iff.rfl
  | maxDelay => exact judged_delayIssues .max (fun _ _ => rfl) Iff.rfl
  | someDelay => exact judged_someDelay readers s
  | delayOrder => exact judged_delayOrder readers s
  | multiplier => exact judged_test rfl (isFactor_iff _) fun broken => ⟨rfl, broken⟩
  | jitter => exact judged_test rfl (isShare_iff _) fun broken => ⟨rfl, broken⟩
  | failures => exact judged_zero rfl Iff.rfl Iff.rfl
  | retry => exact judged_zero rfl Iff.rfl Iff.rfl
  | timeout => exact judged_zero rfl Iff.rfl Iff.rfl
  | pending => exact judged_zero rfl Iff.rfl Iff.rfl
  | level => exact judged_test rfl Iff.rfl fun broken => ⟨rfl, Bool.not_eq_true _ ▸ broken⟩

/-! ## All rules -/

open Classical in
/-- **Rules that are checked one after the other**: the issues are about those that are broken,
each once and in the order of the rules. -/
theorem map_rule_flatMap (rs : List SettingsRule) :
    (rs.flatMap (check readers s)).map SettingsIssue.rule
      = rs.filter fun r => ¬r.Holds readers s := by
  induction rs with
  | nil => rfl
  | cons r rs ih =>
    have judged := judged_check readers s r
    rw [List.flatMap_cons, List.map_append, ih]
    by_cases holds : r.Holds readers s
    · rw [judged.kept holds, List.filter_cons_of_neg (by simpa using holds)]
      rfl
    · obtain ⟨issue, one, rule, -⟩ := judged.broken holds
      rw [one, List.filter_cons_of_pos (by simpa using holds), ← rule]
      rfl

variable {readers s} in
theorem describes_of_mem_flatMap {issue : SettingsIssue} {rs : List SettingsRule}
    (mem : issue ∈ rs.flatMap (check readers s)) : issue.Describes readers s := by
  obtain ⟨r, -, inside⟩ := List.mem_flatMap.1 mem
  have judged := judged_check readers s r
  by_cases holds : r.Holds readers s
  · rw [judged.kept holds] at inside
    cases inside
  · obtain ⟨issue', one, -, describes⟩ := judged.broken holds
    rw [one] at inside
    obtain rfl := List.mem_singleton.1 inside
    exact describes

/-- The sizes of the delays are the matter of two rules. -/
theorem delaySizeIssues_eq :
    ReconnectSettings.delaySizeIssues readers s.reconnect
      = someDelay.check readers s ++ delayOrder.check readers s := by
  unfold ReconnectSettings.delaySizeIssues check
  cases readers.span s.reconnect.baseDelay with
  | error => rfl
  | ok base => cases readers.span s.reconnect.maxDelay <;> rfl

end SettingsRule

/-- There is nothing wrong with the standard level of the log, if a level alone is a filter. -/
theorem LogSettings.issues_standard {readers : SettingsReaders}
    (known : readers.isFilter "info" = true) : issues readers standard = [] := by
  rw [LogSettings.issues, show standard.level = "info" from rfl, known]
  rfl

/-- A level alone is a filter. -/
theorem LogFilter.isPlain_info : isPlain "info" = true := by
  have pieces : "info".splitOn "," = ["info"] := splitOn_eq 5 (by decide) (by decide +kernel)
  rw [isPlain, pieces]
  decide +kernel

namespace ClientSettings

open SettingsRule

/-- **The issues, rule by rule**: no list of them is dropped on the way. -/
theorem issues_eq (readers : SettingsReaders) (s : ClientSettings) :
    issues readers s = all.flatMap (check readers s) := by
  simp only [issues, ReconnectSettings.issues, SnapshotSettings.issues, delaySizeIssues_eq, all,
    List.flatMap_cons, List.flatMap_nil, List.append_assoc, List.append_nil]
  rfl

theorem issues_eq_nil_iff (readers : SettingsReaders) (s : ClientSettings) :
    issues readers s = [] ↔ ∀ r : SettingsRule, r.Holds readers s := by
  rw [issues_eq, ← List.map_eq_nil_iff (f := SettingsIssue.rule), map_rule_flatMap,
    List.filter_eq_nil_iff]
  simp [mem_all]

theorem validate_ok_iff (readers : SettingsReaders) (s : ClientSettings) :
    s.validate readers = .ok () ↔ issues readers s = [] := by
  rw [validate]
  cases issues readers s <;> simp

/-- Valid settings obey the rules. -/
theorem holds_of_validate {readers : SettingsReaders} {s : ClientSettings}
    (valid : s.validate readers = .ok ()) (r : SettingsRule) : r.Holds readers s :=
  (issues_eq_nil_iff readers s).1 ((validate_ok_iff readers s).1 valid) r

/-- Standard settings stay valid with any good address and any good way to reconnect. -/
theorem validate_standard_with {readers : SettingsReaders}
    (known : readers.isFilter "info" = true) {base : String} {reconnect : ReconnectSettings}
    (address : baseUrlIssues readers { standard with baseUrl := base } = [])
    (delays : ReconnectSettings.issues readers reconnect = []) :
    validate { standard with baseUrl := base, reconnect := reconnect } readers = .ok () := by
  rw [validate_ok_iff]
  simp only [issues, List.append_eq_nil_iff]
  exact ⟨⟨⟨⟨⟨address, rfl⟩, rfl⟩, delays⟩, rfl⟩, LogSettings.issues_standard known⟩

theorem validate_error_iff (readers : SettingsReaders) (s : ClientSettings) (verdict : Invalid) :
    s.validate readers = .error verdict ↔
      issues readers s = verdict.issues ∧ issues readers s ≠ [] := by
  obtain ⟨found⟩ := verdict
  rw [validate]
  cases issues readers s <;> simp

end ClientSettings

/-! ## The wording -/

namespace Invalid

/-- **The report on issues**, of which the wordings are given: a single one speaks for itself;
several are counted, and numbered from one. -/
def report : List String → String
  | [message] => message
  | messages => s!"Found {messages.length} validation errors:\n" ++
      String.join (messages.mapIdx fun i message => s!"  {i + 1}. {message}\n")

theorem lines_eq (number : ℕ) (issues : List SettingsIssue) :
    lines number issues = String.join ((issues.map SettingsIssue.message).mapIdx
      fun i message => s!"  {number + i}. {message}\n") := by
  induction issues generalizing number with
  | nil => rfl
  | cons issue rest ih =>
    rw [lines, ih, List.map_cons, List.mapIdx_cons, String.join_cons]
    simp only [Nat.add_zero, Nat.add_assoc, Nat.add_comm 1, line]

theorem summary_eq {issues : List SettingsIssue} (some : issues ≠ []) :
    summary issues = report (issues.map SettingsIssue.message) := by
  match issues with
  | [] => exact absurd rfl some
  | [issue] => rfl
  | first :: second :: rest =>
    rw [summary, lines_eq, report, List.length_map]
    · simp only [Nat.add_comm 1]
    all_goals simp

end Invalid

namespace ClientSettings

open SettingsRule

open Classical in
/-- **The verdict on settings**, whatever addresses, spans of time and filters are. They are
accepted if and only if they obey all rules. Otherwise

* the issues are about the rules that are broken, each of them once and in the order of the
  rules;
* what they say is so, and their wording names the field;
* the wording of the verdict is the report on them. -/
theorem validate_reports (readers : SettingsReaders) (s : ClientSettings) :
    (s.validate readers = .ok () ↔ ∀ r : SettingsRule, r.Holds readers s) ∧
      ∀ verdict, s.validate readers = .error verdict →
        verdict.issues.map SettingsIssue.rule
          = SettingsRule.all.filter (fun r => ¬r.Holds readers s) ∧
        (∀ issue ∈ verdict.issues, issue.Describes readers s ∧
          (issue.message = "Missing required field: " ++ issue.rule.field ∨
            ∃ complaint, issue.message
              = "Invalid field '" ++ issue.rule.field ++ "': " ++ complaint)) ∧
        verdict.message
          = "Validation failed: " ++ Invalid.report (verdict.issues.map SettingsIssue.message) := by
  refine ⟨(validate_ok_iff readers s).trans (issues_eq_nil_iff readers s),
    fun verdict refused => ?_⟩
  obtain ⟨found, some⟩ := (validate_error_iff readers s verdict).1 refused
  have rules : verdict.issues = all.flatMap (check readers s) :=
    found.symm.trans (issues_eq readers s)
  refine ⟨?_, fun issue mem => ⟨?_, issue.message_eq⟩, ?_⟩
  · rw [rules, map_rule_flatMap]
  · rw [rules] at mem
    exact describes_of_mem_flatMap mem
  · rw [found] at some
    exact congrArg ("Validation failed: " ++ ·) (Invalid.summary_eq some)

/-- Settings with three faults. -/
def troubled : ClientSettings :=
  { standard with
    reconnect := { ReconnectSettings.standard with baseDelay := "soon", jitter := 1.5 }
    snapshot := { SnapshotSettings.standard with maxPending := 0 } }

/-- Of three faults in different groups each is reported, with its number. As the first delay
cannot be read, nothing is said of its size. -/
theorem validate_reports_three :
    ∃ verdict, troubled.validate .standard = .error verdict ∧
      verdict.issues.map SettingsIssue.rule = [.baseDelay, .jitter, .pending] ∧
      verdict.message = "Validation failed: Found 3 validation errors:\n" ++
        "  1. Invalid field 'reconnect.base_delay': 'soon' is not a valid duration: " ++
          "expected number at 0\n" ++
        "  2. Invalid field 'reconnect.jitter': Must be in [0, 1), got 1.5\n" ++
        "  3. Invalid field 'snapshot.max_pending_deltas': Must be greater than 0\n" := by
  have log : LogSettings.issues .standard troubled.log = [] :=
    LogSettings.issues_standard LogFilter.isPlain_info
  have rules : (issues .standard troubled).map SettingsIssue.rule
      = [.baseDelay, .jitter, .pending] := by
    rw [issues, log, List.append_nil]
    decide +kernel
  have messages : (issues .standard troubled).map SettingsIssue.message = [
      "Invalid field 'reconnect.base_delay': 'soon' is not a valid duration: expected number at 0",
      "Invalid field 'reconnect.jitter': Must be in [0, 1), got 1.5",
      "Invalid field 'snapshot.max_pending_deltas': Must be greater than 0"] := by
    rw [issues, log, List.append_nil]
    decide +kernel
  have some : issues .standard troubled ≠ [] := fun none => by
    rw [none] at rules
    cases rules
  have refused := (validate_error_iff .standard troubled ⟨issues .standard troubled⟩).2
    ⟨rfl, some⟩
  obtain ⟨-, -, wording⟩ := (validate_reports .standard troubled).2 _ refused
  rw [messages] at wording
  exact ⟨_, refused, rules, wording.trans (by decide +kernel)⟩

end ClientSettings

end Liveboard
