import Mathlib.Data.List.Basic
import PolicyProvider.Proofs.Number.Duration
import PolicyProvider.Provider.Settings
/-!
# Settings — what decides a setting, and what is reported

A setting is decided by its attribute in the block, if that is set and of the right type; otherwise by its variable, if
that is not empty; and otherwise by what holds without either (`SettingRule.Decides`).  So no setting depends on the
attribute or the variable of another, and the settings are refused exactly with the problems of those that have one
(`resolve_exact`).  The timeout is the one setting that is rounded, and rounding may leave nothing of a positive number
of seconds (`timeout_positive_iff`).
-/
namespace PolicyProvider

/-! ## What decides a setting -/

/-- **How a setting is read**: what a value of the block says of it, if it is of the right type; what the text of its
variable says; and what holds if neither is given. -/
structure SettingRule (α : Type) where
  ofValue? : Value → Option (Except Diagnostic α)
  ofText : String → Except Diagnostic α
  ungiven : Except Diagnostic α

namespace SettingRule

variable {α : Type} {rule : SettingRule α} {value? : Option Value} {text? : Option String}

/-- That an attribute decides nothing: it is missing, or not set, or of another type. -/
def Open (rule : SettingRule α) (value? : Option Value) : Prop :=
  ∀ v, value? = some v → v.isSet = true → rule.ofValue? v = none

/-- **What decides a setting**, by its own attribute and its own variable alone. -/
inductive Decides (rule : SettingRule α) (value? : Option Value) (text? : Option String) : Except Diagnostic α → Prop
  | block {v : Value} {r : Except Diagnostic α} (hgiven : value? = some v) (hset : v.isSet = true)
      (htype : rule.ofValue? v = some r) : Decides rule value? text? r
  | environment {s : String} (hopen : rule.Open value?) (htext : text? = some s) (hne : s ≠ "") :
      Decides rule value? text? (rule.ofText s)
  | neither (hopen : rule.Open value?) (hempty : ∀ s, text? = some s → s = "") :
      Decides rule value? text? rule.ungiven

def settle (rule : SettingRule α) (value? : Option Value) (text? : Option String) : Except Diagnostic α :=
  match (value?.filter Value.isSet).bind rule.ofValue? with
  | some r => r
  | none => match text?.filter (· != "") with
    | some s => rule.ofText s
    | none => rule.ungiven

theorem ofValue?_of_open (h : rule.Open value?) : (value?.filter Value.isSet).bind rule.ofValue? = none := by
  rw [Option.bind_eq_none_iff]
  intro v hv
  obtain ⟨hgiven, hset⟩ := Option.filter_eq_some_iff.1 hv
  exact h v hgiven hset

theorem decides_settle (rule : SettingRule α) (value? : Option Value) (text? : Option String) :
    rule.Decides value? text? (rule.settle value? text?) := by
  unfold settle
  cases hvalue : (value?.filter Value.isSet).bind rule.ofValue? with
  | some r =>
    obtain ⟨v, hv, htype⟩ := Option.bind_eq_some_iff.1 hvalue
    obtain ⟨hgiven, hset⟩ := Option.filter_eq_some_iff.1 hv
    exact .block hgiven hset htype
  | none =>
    have hopen : rule.Open value? := fun v hgiven hset =>
      Option.bind_eq_none_iff.1 hvalue v (Option.filter_eq_some_iff.2 ⟨hgiven, hset⟩)
    cases htext : text?.filter (· != "") with
    | some s =>
      obtain ⟨hgiven, hne⟩ := Option.filter_eq_some_iff.1 htext
      exact .environment hopen hgiven (bne_iff_ne.1 hne)
    | none =>
      refine .neither hopen fun s hgiven => ?_
      have hempty := Option.filter_eq_none_iff.1 htext s hgiven
      simpa using hempty

/-- **A setting is decided in one way only.** -/
theorem decides_iff {r : Except Diagnostic α} : rule.Decides value? text? r ↔ rule.settle value? text? = r := by
  constructor
  · unfold settle
    rintro (⟨rfl, hset, htype⟩ | ⟨hopen, rfl, hne⟩ | ⟨hopen, hempty⟩)
    · rw [Option.filter_some, if_pos hset, Option.bind_some, htype]
    · rw [ofValue?_of_open hopen, Option.filter_some, if_pos (bne_iff_ne.2 hne)]
    · have hfilter : text?.filter (· != "") = none :=
        Option.filter_eq_none_iff.2 fun s hs => by simp [hempty s hs]
      rw [ofValue?_of_open hopen, hfilter]
  · rintro rfl
    exact decides_settle rule value? text?

end SettingRule

/-! ## The six settings -/

namespace Settings

def textRule (name varName : String) : SettingRule String where
  ofValue? v := v.string?.map .ok
  ofText s := .ok s
  ungiven := .error (.errorAt (.ofName name) ("Missing " ++ name)
    (name ++ " is required (set in provider config or " ++ varName ++ " env var)"))

def switchRule (varName : String) : SettingRule Bool where
  ofValue? v := v.bool?.map .ok
  ofText s := match boolOfText? s with
    | some b => .ok b
    | none => .error (.error ("Invalid " ++ varName) ("expected a boolean, got " ++ quoted s))
  ungiven := .ok false

def timeoutRule : SettingRule Duration where
  ofValue? v := v.number?.map fun x => match (if x.isPositive then Duration.ofSeconds? x else none) with
    | some d => .ok d
    | none => .error (.errorAt (.ofName "request_timeout") "Invalid request_timeout"
      ("expected a positive number of seconds, got " ++ x.plainText))
  ofText s := match Digit.word? s with
    | some (n + 1) => .ok (.ofWholeSeconds (n + 1))
    | _ => .error (.error ("Invalid " ++ requestTimeoutVariable)
      ("expected a positive number of seconds, got " ++ quoted s))
  ungiven := .ok defaultTimeout

variable {env : Environment} {block : Value} {s : Settings}

theorem settle_typed {α β : Type} {rule : SettingRule α} {typed? : Value → Option β} {f : β → Except Diagnostic α}
    (h : ∀ v, rule.ofValue? v = (typed? v).map f) (env : Environment) (block : Value) (name varName : String) :
    rule.settle (block.get? (.ofName name)) (env varName) = match (configured? block name).bind typed? with
      | some b => f b
      | none => match setVariable? env varName with
        | some s => rule.ofText s
        | none => rule.ungiven := by
  have hread : ((block.get? (.ofName name)).filter Value.isSet).bind rule.ofValue? =
      ((configured? block name).bind typed?).map f := by
    rw [Option.map_bind]
    exact congrArg _ (funext h)
  unfold SettingRule.settle
  rw [hread]
  cases (configured? block name).bind typed? <;> rfl

theorem requiredText_eq (env : Environment) (block : Value) (name varName : String) :
    requiredText env block name varName = (textRule name varName).settle (block.get? (.ofName name)) (env varName) := by
  rw [settle_typed (fun _ => rfl) env block name varName]
  unfold requiredText
  cases (configured? block name).bind Value.string? with
  | some text => rfl
  | none => cases setVariable? env varName <;> rfl

theorem switch_eq (env : Environment) (block : Value) (name varName : String) :
    switch env block name varName = (switchRule varName).settle (block.get? (.ofName name)) (env varName) := by
  rw [settle_typed (fun _ => rfl) env block name varName]
  unfold switch
  cases (configured? block name).bind Value.bool? with
  | some b => rfl
  | none => cases setVariable? env varName <;> rfl

theorem timeout_eq (env : Environment) (block : Value) :
    timeout env block = timeoutRule.settle (block.get? (.ofName "request_timeout")) (env requestTimeoutVariable) := by
  rw [settle_typed (fun _ => rfl) env block "request_timeout" requestTimeoutVariable]
  unfold timeout
  cases (configured? block "request_timeout").bind Value.number? with
  | some x => rfl
  | none => cases setVariable? env requestTimeoutVariable <;> rfl

end Settings

/-- The settings, in the order in which their problems are reported. -/
inductive Setting where
  | host
  | username
  | password
  | allowUnverifiedTls
  | globalManager
  | requestTimeout
deriving DecidableEq

namespace Setting

open Settings

def all : List Setting := [.host, .username, .password, .allowUnverifiedTls, .globalManager, .requestTimeout]

def Content : Setting → Type
  | .host | .username | .password => String
  | .allowUnverifiedTls | .globalManager => Bool
  | .requestTimeout => Duration

def name : Setting → String
  | .host => "host"
  | .username => "username"
  | .password => "password"
  | .allowUnverifiedTls => "allow_unverified_ssl"
  | .globalManager => "global_manager"
  | .requestTimeout => "request_timeout"

def varName : Setting → String
  | .host => hostVariable
  | .username => usernameVariable
  | .password => passwordVariable
  | .allowUnverifiedTls => allowUnverifiedVariable
  | .globalManager => globalManagerVariable
  | .requestTimeout => requestTimeoutVariable

def rule : (x : Setting) → SettingRule x.Content
  | .host => textRule "host" hostVariable
  | .username => textRule "username" usernameVariable
  | .password => textRule "password" passwordVariable
  | .allowUnverifiedTls => switchRule allowUnverifiedVariable
  | .globalManager => switchRule globalManagerVariable
  | .requestTimeout => timeoutRule

def of (s : Settings) : (x : Setting) → x.Content
  | .host => s.host
  | .username => s.username
  | .password => s.password
  | .allowUnverifiedTls => s.allowUnverifiedTls
  | .globalManager => s.globalManager
  | .requestTimeout => s.requestTimeout

/-- **What becomes of a setting**: its value, or what is wrong with it. -/
def outcome (env : Environment) (block : Value) : (x : Setting) → Except Diagnostic x.Content
  | .host => requiredText env block "host" hostVariable
  | .username => requiredText env block "username" usernameVariable
  | .password => requiredText env block "password" passwordVariable
  | .allowUnverifiedTls => switch env block "allow_unverified_ssl" allowUnverifiedVariable
  | .globalManager => switch env block "global_manager" globalManagerVariable
  | .requestTimeout => timeout env block

variable {env env' : Environment} {block block' : Value}

theorem outcome_eq (env : Environment) (block : Value) (x : Setting) :
    outcome env block x = x.rule.settle (block.get? (.ofName x.name)) (env x.varName) := by
  cases x with
  | host => exact requiredText_eq env block _ _
  | username => exact requiredText_eq env block _ _
  | password => exact requiredText_eq env block _ _
  | allowUnverifiedTls => exact switch_eq env block _ _
  | globalManager => exact switch_eq env block _ _
  | requestTimeout => exact timeout_eq env block

/-- **Nothing but its own attribute and its own variable bears on a setting.** -/
theorem outcome_congr {x : Setting} (hblock : block'.get? (.ofName x.name) = block.get? (.ofName x.name))
    (henv : env' x.varName = env x.varName) : outcome env' block' x = outcome env block x := by
  rw [outcome_eq, outcome_eq, hblock, henv]

end Setting

namespace Settings

variable {env : Environment} {block : Value} {s : Settings}

def fault? {α : Type} : Except Diagnostic α → Option Diagnostic
  | .ok _ => none
  | .error d => some d

theorem problem_eq {α : Type} (r : Except Diagnostic α) : problem r = (fault? r).toList := by
  cases r <;> rfl

theorem fault?_eq_none {α : Type} {r : Except Diagnostic α} : fault? r = none ↔ ∃ a, r = .ok a := by
  cases r <;> simp [fault?]

def faults (env : Environment) (block : Value) : List Diagnostic :=
  Setting.all.filterMap fun x => fault? (Setting.outcome env block x)

theorem faults_eq_nil_iff : faults env block = [] ↔ ∀ x, ∃ a, Setting.outcome env block x = .ok a := by
  unfold faults
  rw [List.filterMap_eq_nil_iff]
  constructor
  · intro h x
    exact fault?_eq_none.1 (h x (by cases x <;> decide))
  · intro h x _
    exact fault?_eq_none.2 (h x)

theorem faults_eq (env : Environment) (block : Value) :
    faults env block = problem (requiredText env block "host" hostVariable) ++
      problem (requiredText env block "username" usernameVariable) ++
      problem (requiredText env block "password" passwordVariable) ++
      problem (switch env block "allow_unverified_ssl" allowUnverifiedVariable) ++
      problem (switch env block "global_manager" globalManagerVariable) ++ problem (timeout env block) := by
  unfold faults
  rw [List.filterMap_eq_flatMap_toList]
  simp only [← problem_eq, Setting.all, List.flatMap_cons, List.flatMap_nil, List.append_nil, List.append_assoc]
  rfl

theorem resolve_cases (env : Environment) (block : Value) :
    (∃ s, resolve env block = .ok s ∧ ∀ x, Setting.outcome env block x = .ok (x.of s)) ∨
      (resolve env block = .error (faults env block) ∧ faults env block ≠ []) := by
  rw [ne_eq, faults_eq_nil_iff, faults_eq]
  unfold resolve
  dsimp only
  split
  · rename_i hhost husername hpassword hallow hglobal htimeout
    refine .inl ⟨_, rfl, fun x => ?_⟩
    cases x <;> assumption
  · rename_i hnot
    refine .inr ⟨rfl, fun h => ?_⟩
    obtain ⟨host, hhost⟩ := h .host
    obtain ⟨username, husername⟩ := h .username
    obtain ⟨password, hpassword⟩ := h .password
    obtain ⟨allow, hallow⟩ := h .allowUnverifiedTls
    obtain ⟨globalManager, hglobal⟩ := h .globalManager
    obtain ⟨timeout, htimeout⟩ := h .requestTimeout
    exact hnot host username password allow globalManager timeout hhost husername hpassword hallow hglobal htimeout

theorem outcome_of_resolve (h : resolve env block = .ok s) (x : Setting) :
    Setting.outcome env block x = .ok (x.of s) := by
  rcases resolve_cases env block with ⟨s', hs', houtcome⟩ | ⟨hfaults, -⟩
  · cases h.symm.trans hs'
    exact houtcome x
  · cases h.symm.trans hfaults

/-- **The settings are accepted or refused for what each of them is by itself.**  They are accepted exactly if nothing
is wrong with any of them, and then each has its own value; they are refused with one diagnostic for each that something
is wrong with, in order, and with one at least.  What becomes of a setting is decided by its own attribute and its own
variable: whatever the others are, and in another environment and block that agree on these two, it is the same. -/
theorem resolve_exact (env : Environment) (block : Value) :
    ((∃ s, resolve env block = .ok s) ↔ ∀ x d, Setting.outcome env block x ≠ .error d) ∧
    (∀ s, resolve env block = .ok s → ∀ x, Setting.outcome env block x = .ok (x.of s)) ∧
    (∀ ds, resolve env block = .error ds →
      ds ≠ [] ∧ ds = Setting.all.filterMap fun x => fault? (Setting.outcome env block x)) ∧
    (∀ x r, x.rule.Decides (block.get? (.ofName x.name)) (env x.varName) r ↔ r = Setting.outcome env block x) ∧
    ∀ x env' block', block'.get? (.ofName x.name) = block.get? (.ofName x.name) → env' x.varName = env x.varName →
      Setting.outcome env' block' x = Setting.outcome env block x ∧
      ∀ s s', resolve env block = .ok s → resolve env' block' = .ok s' → x.of s' = x.of s := by
  refine ⟨⟨?_, fun hfine => ?_⟩, fun s h => outcome_of_resolve h, fun ds h => ?_, fun x r => ?_, ?_⟩
  · rintro ⟨s, h⟩ x d hd
    cases (outcome_of_resolve h x).symm.trans hd
  · rcases resolve_cases env block with ⟨s, h, -⟩ | ⟨-, hne⟩
    · exact ⟨s, h⟩
    · refine absurd (faults_eq_nil_iff.2 fun x => ?_) hne
      cases hx : Setting.outcome env block x with
      | ok a => exact ⟨a, rfl⟩
      | error d => exact absurd hx (hfine x d)
  · rcases resolve_cases env block with ⟨s, hs, -⟩ | ⟨hfaults, hne⟩
    · cases h.symm.trans hs
    · cases h.symm.trans hfaults
      exact ⟨hne, rfl⟩
  · rw [SettingRule.decides_iff, Setting.outcome_eq, eq_comm]
  · intro x env' block' hblock henv
    have hsame := Setting.outcome_congr hblock henv
    refine ⟨hsame, fun s s' h h' => ?_⟩
    exact Except.ok.inj ((outcome_of_resolve h' x).symm.trans (hsame.trans (outcome_of_resolve h x)))

/-- A number in the block decides, though the variable would do better, and so does an empty text; a text in place of a
truth value decides nothing. -/
example : (faults
    (fun name => List.lookup name
      [(hostVariable, ""), (passwordVariable, "p"), (globalManagerVariable, "yes"), (requestTimeoutVariable, "7")])
    (.object [("global_manager", .string "true"), ("host", .unknown), ("request_timeout", .number (.ofBits 0)),
      ("username", .string "")])).map Diagnostic.summary =
    ["Missing host", "Invalid NSXT_GLOBAL_MANAGER", "Invalid request_timeout"] := by decide +kernel

/-! ## The timeout -/

/-- The number of seconds that the block gives as the timeout, if it gives one. -/
def seconds? (block : Value) : Option Binary64 := (configured? block "request_timeout").bind Value.number?

theorem timeout_of_seconds {x : Binary64} {d : Duration} (hseconds : seconds? block = some x)
    (h : timeout env block = .ok d) : x.isPositive = true ∧ Duration.ofSeconds? x = some d := by
  unfold timeout at h
  unfold seconds? at hseconds
  simp only [hseconds] at h
  by_cases hpositive : x.isPositive = true
  · rw [if_pos hpositive] at h
    refine ⟨hpositive, ?_⟩
    cases hspan : Duration.ofSeconds? x with
    | some d' =>
      rw [hspan] at h
      exact congrArg some (Except.ok.inj h)
    | none =>
      rw [hspan] at h
      cases h
  · rw [if_neg hpositive] at h
    cases h

theorem timeout_of_none {d : Duration} (hseconds : seconds? block = none) (h : timeout env block = .ok d) :
    ∃ n, d = .ofWholeSeconds (n + 1) := by
  unfold timeout at h
  unfold seconds? at hseconds
  simp only [hseconds] at h
  cases htext : setVariable? env requestTimeoutVariable with
  | none =>
    rw [htext] at h
    exact ⟨59, (Except.ok.inj h).symm⟩
  | some text =>
    simp only [htext] at h
    split at h
    · rename_i n hword
      exact ⟨n, (Except.ok.inj h).symm⟩
    · cases h

/-- **When the timeout of accepted settings is above zero.**  One that the block gives as a number of seconds is within
half a nanosecond of that number, which is positive; but it is zero if the number is at most half a nanosecond.  One
that comes from the environment or is the default is a second at least. -/
theorem timeout_positive_iff (h : resolve env block = .ok s) :
    (0 < s.requestTimeout.nanoseconds ↔
      ∀ x, seconds? block = some x → Binary64.unitsPerOne < 2 * (x.units * Duration.perSecond)) ∧
    (∀ x, seconds? block = some x → x.isNegative = false ∧ 0 < x.units ∧
      2 * (s.requestTimeout.nanoseconds * Binary64.unitsPerOne) ≤
        2 * (x.units * Duration.perSecond) + Binary64.unitsPerOne ∧
      2 * (x.units * Duration.perSecond) ≤
        2 * (s.requestTimeout.nanoseconds * Binary64.unitsPerOne) + Binary64.unitsPerOne) ∧
    (seconds? block = none → Duration.perSecond ≤ s.requestTimeout.nanoseconds) := by
  have htimeout : timeout env block = .ok s.requestTimeout := outcome_of_resolve h .requestTimeout
  cases hseconds : seconds? block with
  | some x =>
    obtain ⟨hpositive, hspan⟩ := timeout_of_seconds hseconds htimeout
    obtain ⟨⟨-, hzero⟩, hnegative⟩ : (x.isNaN = false ∧ x.isZero = false) ∧ x.isNegative = false := by
      simpa [Binary64.isPositive] using hpositive
    refine ⟨?_, ?_, fun hnone => nomatch hnone⟩
    · rw [Nat.pos_iff_ne_zero, Ne, Duration.nanoseconds_eq_zero_iff hspan, Nat.not_le]
      constructor
      · rintro hmore _ ⟨⟩
        exact hmore
      · exact fun hmore => hmore x rfl
    · rintro _ ⟨⟩
      exact ⟨hnegative, Binary64.units_pos hzero, Duration.ofSeconds?_near hspan⟩
  | none =>
    obtain ⟨n, hn⟩ := timeout_of_none hseconds htimeout
    have hsecond : Duration.perSecond ≤ s.requestTimeout.nanoseconds := by
      rw [hn]
      exact Nat.le_mul_of_pos_left _ (Nat.succ_pos n)
    have habove : 0 < s.requestTimeout.nanoseconds := Nat.lt_of_lt_of_le (by decide) hsecond
    exact ⟨iff_of_true habove (fun _ hsome => nomatch hsome), (fun _ hsome => nomatch hsome), fun _ => hsecond⟩

def blockWithTimeout (bits : Nat) : Value := .object [("host", .string "nsx.test"), ("password", .string "secret"),
  ("request_timeout", .number (.ofBits bits)), ("username", .string "admin")]

/-- The number next to half a nanosecond is more than that, and makes a nanosecond. -/
theorem timeout_positive_of_half : ∃ s,
    resolve (fun _ => none) (blockWithTimeout 0x3e012e0be826d695) = .ok s ∧ 0 < s.requestTimeout.nanoseconds := by
  have hresolve : resolve (fun _ => none) (blockWithTimeout 0x3e012e0be826d695) =
      .ok ⟨"nsx.test", "admin", "secret", false, false, ⟨1⟩⟩ := by decide +kernel
  refine ⟨_, hresolve, (timeout_positive_iff hresolve).1.2 ?_⟩
  rintro x hx
  cases hx
  decide +kernel

/-- **A tenth of a nanosecond is accepted as a timeout**, and makes none. -/
theorem zero_timeout_accepted : ∃ s,
    resolve (fun _ => none) (blockWithTimeout 0x3ddb7cdfd9d7bdbb) = .ok s ∧ ¬ 0 < s.requestTimeout.nanoseconds :=
  ⟨⟨"nsx.test", "admin", "secret", false, false, ⟨0⟩⟩, by decide +kernel, by decide⟩

end Settings
end PolicyProvider
