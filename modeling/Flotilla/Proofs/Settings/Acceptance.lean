import Flotilla.Config
import Mathlib.Algebra.Ring.Nat
import Mathlib.Data.List.Basic

/-!
# Which settings are accepted

Five settings are read one after another and the first that is not acceptable decides the answer.
Each of them says what texts it accepts (`Setting.Accepts`) and what is said of the others
(`Setting.Blames`), in terms of the text alone.  A number is a numeral of decimal digits
(`IsNumeral`), which `numeral_eq_ok_iff` ties to the reader that stops at the first digit where the
bound is passed: the value only grows from there.

The faults of the five settings make a list, and the answer is its first (`load_eq_error_iff`).  A
fault is found from the text of its own setting, so the settings after it and all other variables
have no say.

* `settings_accepted`: when the settings are accepted, and what is said of them if not.
-/

namespace Flotilla.Text

/-! ## Numerals -/

/-- One or more decimal digits and their value. -/
structure Digits (cs : List Char) (n : Nat) : Prop where
  some : cs ≠ []
  digits : ∀ c ∈ cs, c.isDigit = true
  value : Nat.ofDigitChars 10 cs 0 = n

/-- A numeral: digits, which may have a plus sign in front. -/
def IsNumeral (cs : List Char) (n : Nat) : Prop :=
  Digits cs n ∨ ∃ digits, cs = '+' :: digits ∧ Digits digits n

theorem digitValue_of_isDigit {c : Char} (h : c.isDigit = true) :
    digitValue c = some (c.toNat - '0'.toNat) := by
  rw [Char.isDigit_iff_toNat] at h
  exact if_pos h

theorem digitValue_of_not_isDigit {c : Char} (h : ¬ c.isDigit = true) : digitValue c = none := by
  rw [Char.isDigit_iff_toNat] at h
  exact if_neg h

theorem le_ofDigitChars {cs : List Char} {value : Nat} :
    value ≤ Nat.ofDigitChars 10 cs value := by
  induction cs generalizing value with
  | nil => exact Nat.le_refl value
  | cons c cs ih =>
    rw [Nat.ofDigitChars_cons]
    have hgrown : value ≤ 10 * value + (c.toNat - '0'.toNat) := by omega
    exact Nat.le_trans hgrown ih

/-- The value is that of all digits.  It passes the bound at the end if it did before. -/
theorem digitsValue_eq_ok_iff {bound n : Nat} {cs : List Char} {value : Nat} (h : value ≤ bound) :
    digitsValue bound value cs = .ok n ↔
      (∀ c ∈ cs, c.isDigit = true) ∧ Nat.ofDigitChars 10 cs value = n ∧ n ≤ bound := by
  induction cs generalizing value with
  | nil =>
    rw [digitsValue, Nat.ofDigitChars_nil, Except.ok.injEq]
    constructor
    · rintro rfl
      exact ⟨fun _ hc => absurd hc List.not_mem_nil, rfl, h⟩
    · exact fun hread => hread.2.1
  | cons c cs ih =>
    rw [digitsValue, Nat.ofDigitChars_cons, List.forall_mem_cons, Nat.mul_comm 10]
    by_cases hc : c.isDigit = true
    · rw [digitValue_of_isDigit hc]
      by_cases hbound : value * 10 + (c.toNat - '0'.toNat) ≤ bound
      · simp only [if_pos hbound, ih hbound, hc, true_and]
      · simp only [if_neg hbound]
        refine iff_of_false nofun ?_
        rintro ⟨-, rfl, hle⟩
        exact hbound (Nat.le_trans le_ofDigitChars hle)
    · rw [digitValue_of_not_isDigit hc]
      exact iff_of_false nofun fun hread => hc hread.1.1

theorem digitsValue_zero_iff {bound n : Nat} {cs : List Char} (h : cs ≠ []) :
    digitsValue bound 0 cs = .ok n ↔ Digits cs n ∧ n ≤ bound := by
  rw [digitsValue_eq_ok_iff (Nat.zero_le bound)]
  constructor
  · rintro ⟨hdigits, hvalue, hle⟩
    exact ⟨⟨h, hdigits, hvalue⟩, hle⟩
  · rintro ⟨⟨-, hdigits, hvalue⟩, hle⟩
    exact ⟨hdigits, hvalue, hle⟩

theorem isNumeral_plus {digits : List Char} {n : Nat} :
    IsNumeral ('+' :: digits) n ↔ Digits digits n := by
  constructor
  · rintro (h | ⟨digits', heq, h⟩)
    · exact absurd (h.digits '+' List.mem_cons_self) (by decide)
    · obtain ⟨-, rfl⟩ := List.cons.inj heq
      exact h
  · exact fun h => Or.inr ⟨digits, rfl, h⟩

theorem isNumeral_of_ne_plus {c : Char} {cs : List Char} {n : Nat} (h : c ≠ '+') :
    IsNumeral (c :: cs) n ↔ Digits (c :: cs) n := by
  constructor
  · rintro (h' | ⟨digits, heq, -⟩)
    · exact h'
    · exact absurd (List.cons.inj heq).1 h
  · exact Or.inl

/-- The numerals that are read are those up to the bound. -/
theorem numeral_eq_ok_iff {bound n : Nat} {cs : List Char} :
    numeral bound cs = .ok n ↔ IsNumeral cs n ∧ n ≤ bound := by
  cases cs with
  | nil =>
    refine iff_of_false nofun ?_
    rintro ⟨h | ⟨_, h, _⟩, -⟩
    · exact h.some rfl
    · cases h
  | cons c cs =>
    by_cases hc : c = '+'
    · subst hc
      rw [isNumeral_plus]
      cases cs with
      | nil => exact iff_of_false nofun fun h => h.1.some rfl
      | cons d ds => exact digitsValue_zero_iff (List.cons_ne_nil d ds)
    · have hread : numeral bound (c :: cs) = digitsValue bound 0 (c :: cs) := by
        unfold numeral
        split
        · next h => cases h
        · next h => exact absurd (List.cons.inj h).1 hc
        · next h => exact absurd (List.cons.inj h).1 hc
        · rfl
      rw [hread, isNumeral_of_ne_plus hc, digitsValue_zero_iff (List.cons_ne_nil c cs)]

/-- A numeral has one value. -/
theorem IsNumeral.unique {cs : List Char} {m n : Nat} (hm : IsNumeral cs m)
    (hn : IsNumeral cs n) : n = m := by
  have hread : numeral (m + n) cs = .ok m := numeral_eq_ok_iff.mpr ⟨hm, Nat.le_add_right m n⟩
  have hread' : numeral (m + n) cs = .ok n := numeral_eq_ok_iff.mpr ⟨hn, Nat.le_add_left n m⟩
  exact Except.ok.inj (hread'.symm.trans hread)

end Flotilla.Text

namespace Flotilla.Config

/-! ## The settings and what they accept -/

/-- The settings that may be wrong. -/
inductive Setting where
  | reconcileInterval
  | controllerResync
  | serviceWorkers
  | metricsAddress
  | featureGates
deriving Repr, DecidableEq

/-- A number of seconds or of workers: a numeral with a value from 1 on, blanks around it. -/
def NumberReads (raw : String) (n : Nat) : Prop :=
  Text.IsNumeral (Text.trimList raw.toList) n ∧ 1 ≤ n ∧ n ≤ 2 ^ 64 - 1

/-- An address, blanks around it. -/
def AddressReads (raw : String) (address : Net.SocketAddress) : Prop :=
  Net.SocketAddress.parse? (Text.trimList raw.toList) = some address

/-- Gates. -/
def GatesRead (raw : String) (gates : FeatureGates) : Prop := FeatureGates.parse raw = .ok gates

/-- What is said of a number that is not acceptable: that it is zero, or that it is none. -/
def NumberBlamed (key : String) (zero : ConfigFault) (raw : String) (fault : ConfigFault) : Prop :=
  (Text.IsNumeral (Text.trimList raw.toList) 0 ∧ fault = zero) ∨
    (∀ n ≤ 2 ^ 64 - 1, ¬ Text.IsNumeral (Text.trimList raw.toList) n) ∧
      ∃ reason, fault = .unreadable key raw reason

/-- What is said of a text that is no address. -/
def AddressBlamed (key raw : String) (fault : ConfigFault) : Prop :=
  ∃ reason, fault = .unreadable key raw reason

/-- What is said of gates that are malformed. -/
def GatesBlamed (raw : String) (fault : ConfigFault) : Prop :=
  ∃ malformed, FeatureGates.parse raw = .error malformed ∧ fault = .gate malformed

namespace Setting

/-- The order in which they are read. -/
def all : List Setting :=
  [reconcileInterval, controllerResync, serviceWorkers, metricsAddress, featureGates]

/-- The variable. -/
def key : Setting → String
  | reconcileInterval => "RECONCILE_INTERVAL_SECS"
  | controllerResync => "CONTROLLER_RESYNC_SECS"
  | serviceWorkers => "SERVICE_CONTROLLER_WORKERS"
  | metricsAddress => "METRICS_ADDR"
  | featureGates => "FEATURE_GATES"

/-- How a message about the setting starts. -/
def subject : Setting → String
  | featureGates => "feature gate"
  | s => s.key

/-- The texts that are accepted. -/
def Accepts : Setting → String → Prop
  | reconcileInterval, raw | controllerResync, raw | serviceWorkers, raw => ∃ n, NumberReads raw n
  | metricsAddress, raw => ∃ address, AddressReads raw address
  | featureGates, raw => ∃ gates, GatesRead raw gates

/-- The setting is unset or accepted. -/
def Fits (lookup : String → Option String) (s : Setting) : Prop :=
  ∀ raw, lookup s.key = some raw → s.Accepts raw

/-- What is said of a text that is not accepted. -/
def Blames : Setting → String → ConfigFault → Prop
  | reconcileInterval => NumberBlamed reconcileInterval.key (.zeroTime reconcileInterval.key)
  | controllerResync => NumberBlamed controllerResync.key (.zeroTime controllerResync.key)
  | serviceWorkers => NumberBlamed serviceWorkers.key (.noWorkers serviceWorkers.key)
  | metricsAddress => AddressBlamed metricsAddress.key
  | featureGates => GatesBlamed

end Setting

/-! ## One setting -/

/-- What comes of reading a setting. -/
inductive Reading {α : Type} (lookup : String → Option String) (key : String) (default : α)
    (Reads : String → α → Prop) (Blamed : String → ConfigFault → Prop) :
    Except ConfigFault α → Prop
  | unset (h : lookup key = none) : Reading lookup key default Reads Blamed (.ok default)
  | accepted (raw : String) (value : α) (h : lookup key = some raw) (hreads : Reads raw value) :
      Reading lookup key default Reads Blamed (.ok value)
  | refused (raw : String) (fault : ConfigFault) (h : lookup key = some raw)
      (hnone : ∀ value, ¬ Reads raw value) (hblamed : Blamed raw fault) :
      Reading lookup key default Reads Blamed (.error fault)

/-- The value of a setting: the default, or what its text reads as. -/
def Held {α : Type} (lookup : String → Option String) (key : String) (default : α)
    (Reads : String → α → Prop) (value : α) : Prop :=
  (lookup key = none ∧ value = default) ∨ ∃ raw, lookup key = some raw ∧ Reads raw value

/-- The fault that was found. -/
def faultOf {α : Type} : Except ConfigFault α → Option ConfigFault
  | .ok _ => none
  | .error fault => some fault

namespace Reading

variable {α : Type} {lookup : String → Option String} {key : String} {default : α}
  {Reads : String → α → Prop} {Blamed : String → ConfigFault → Prop}
  {result : Except ConfigFault α}

theorem held {value : α} (h : Reading lookup key default Reads Blamed (.ok value)) :
    Held lookup key default Reads value := by
  cases h with
  | unset h => exact Or.inl ⟨h, rfl⟩
  | accepted raw _ h hreads => exact Or.inr ⟨raw, h, hreads⟩

theorem faultOf_eq_none_iff (h : Reading lookup key default Reads Blamed result) :
    faultOf result = none ↔ ∀ raw, lookup key = some raw → ∃ value, Reads raw value := by
  cases h with
  | unset h =>
    refine iff_of_true rfl fun raw hraw => ?_
    cases h.symm.trans hraw
  | accepted raw value h hreads =>
    refine iff_of_true rfl fun raw' hraw => ?_
    obtain rfl : raw = raw' := Option.some.inj (h.symm.trans hraw)
    exact ⟨value, hreads⟩
  | refused raw fault h hnone hblamed =>
    refine iff_of_false nofun fun hall => ?_
    obtain ⟨value, hreads⟩ := hall raw h
    exact hnone value hreads

theorem of_faultOf_eq_some {fault : ConfigFault}
    (h : Reading lookup key default Reads Blamed result) (hfault : faultOf result = some fault) :
    ∃ raw, lookup key = some raw ∧ (¬ ∃ value, Reads raw value) ∧ Blamed raw fault := by
  cases h with
  | unset => cases hfault
  | accepted => cases hfault
  | refused raw _ h hnone hblamed =>
    cases hfault
    exact ⟨raw, h, not_exists.mpr hnone, hblamed⟩

end Reading

section

variable (lookup : String → Option String) (key : String)

/-- A number that may not be zero. -/
def positive (zero : ConfigFault) : Except ConfigFault Nat → Except ConfigFault Nat
  | .error fault => .error fault
  | .ok 0 => .error zero
  | .ok n => .ok n

theorem positive_of_pos {zero : ConfigFault} {n : Nat} (h : 1 ≤ n) :
    positive zero (.ok n) = .ok n := by
  obtain ⟨m, rfl⟩ := Nat.exists_eq_succ_of_ne_zero (Nat.one_le_iff_ne_zero.mp h)
  rfl

theorem reading_number (zero : ConfigFault) {default : Nat} (h : 1 ≤ default) :
    Reading lookup key default NumberReads (NumberBlamed key zero)
      (positive zero (readNumber lookup key default)) := by
  have hbound : numberBound = 2 ^ 64 - 1 := rfl
  rw [readNumber, hbound]
  cases hraw : lookup key with
  | none =>
    rw [positive_of_pos h]
    exact .unset hraw
  | some raw =>
    dsimp only
    cases hread : Text.numeral (2 ^ 64 - 1) (Text.trimList raw.toList) with
    | error fault =>
      have hnone : ∀ n ≤ 2 ^ 64 - 1, ¬ Text.IsNumeral (Text.trimList raw.toList) n := by
        intro n hle hnumeral
        cases hread.symm.trans (Text.numeral_eq_ok_iff.mpr ⟨hnumeral, hle⟩)
      exact .refused raw _ hraw (fun n hn => hnone n hn.2.2 hn.1) (Or.inr ⟨hnone, _, rfl⟩)
    | ok n =>
      obtain ⟨hnumeral, hle⟩ := Text.numeral_eq_ok_iff.mp hread
      cases n with
      | zero =>
        refine .refused raw _ hraw (fun n hn => ?_) (Or.inl ⟨hnumeral, rfl⟩)
        have hzero : n = 0 := hnumeral.unique hn.1
        have hpos : 1 ≤ n := hn.2.1
        omega
      | succ m => exact .accepted raw _ hraw ⟨hnumeral, Nat.succ_le_succ (Nat.zero_le m), hle⟩

theorem readTime_eq (default : Nat) :
    readTime lookup key default = positive (.zeroTime key) (readNumber lookup key default) :=
  rfl

theorem readWorkers_eq (default : Nat) :
    readWorkers lookup key default = positive (.noWorkers key) (readNumber lookup key default) :=
  rfl

theorem reading_address (default : Net.SocketAddress) :
    Reading lookup key default AddressReads (AddressBlamed key)
      (readAddress lookup key default) := by
  rw [readAddress]
  cases hraw : lookup key with
  | none => exact .unset hraw
  | some raw =>
    dsimp only
    cases hread : Net.SocketAddress.parse? (Text.trimList raw.toList) with
    | none =>
      refine .refused raw _ hraw (fun address haddress => ?_) ⟨_, rfl⟩
      cases hread.symm.trans haddress
    | some address =>
      exact .accepted raw address hraw hread

theorem reading_gates :
    Reading lookup key FeatureGates.none GatesRead GatesBlamed (readGates lookup key) := by
  rw [readGates]
  cases hraw : lookup key with
  | none =>
    have hempty : FeatureGates.parse "" = .ok FeatureGates.none := rfl
    rw [Option.getD_none, hempty]
    exact .unset hraw
  | some raw =>
    rw [Option.getD_some]
    cases hread : FeatureGates.parse raw with
    | error fault =>
      refine .refused raw _ hraw (fun gates hgates => ?_) ⟨fault, hread, rfl⟩
      cases hread.symm.trans hgates
    | ok gates => exact .accepted raw gates hraw hread

end

/-! ## All settings -/

variable {lookup lookup' : String → Option String}

namespace Setting

/-- The fault that is found in a setting. -/
def fault? (lookup : String → Option String) : Setting → Option ConfigFault
  | reconcileInterval => faultOf (readTime lookup reconcileInterval.key 30)
  | controllerResync => faultOf (readTime lookup controllerResync.key 30)
  | serviceWorkers => faultOf (readWorkers lookup serviceWorkers.key 5)
  | metricsAddress => faultOf (readAddress lookup metricsAddress.key defaultMetricsAddress)
  | featureGates => faultOf (readGates lookup featureGates.key)

theorem reading_time (s : Setting) : Reading lookup s.key 30 NumberReads
    (NumberBlamed s.key (.zeroTime s.key)) (readTime lookup s.key 30) := by
  rw [readTime_eq]
  exact reading_number lookup s.key (.zeroTime s.key) (by decide)

theorem reading_workers (s : Setting) : Reading lookup s.key 5 NumberReads
    (NumberBlamed s.key (.noWorkers s.key)) (readWorkers lookup s.key 5) := by
  rw [readWorkers_eq]
  exact reading_number lookup s.key (.noWorkers s.key) (by decide)

theorem fault?_eq_none_iff (s : Setting) : s.fault? lookup = none ↔ s.Fits lookup := by
  cases s with
  | reconcileInterval => exact (reading_time reconcileInterval).faultOf_eq_none_iff
  | controllerResync => exact (reading_time controllerResync).faultOf_eq_none_iff
  | serviceWorkers => exact (reading_workers serviceWorkers).faultOf_eq_none_iff
  | metricsAddress =>
    exact (reading_address lookup metricsAddress.key defaultMetricsAddress).faultOf_eq_none_iff
  | featureGates => exact (reading_gates lookup featureGates.key).faultOf_eq_none_iff

theorem of_fault?_eq_some {s : Setting} {fault : ConfigFault} (h : s.fault? lookup = some fault) :
    ∃ raw, lookup s.key = some raw ∧ ¬ s.Accepts raw ∧ s.Blames raw fault := by
  cases s with
  | reconcileInterval => exact (reading_time reconcileInterval).of_faultOf_eq_some h
  | controllerResync => exact (reading_time controllerResync).of_faultOf_eq_some h
  | serviceWorkers => exact (reading_workers serviceWorkers).of_faultOf_eq_some h
  | metricsAddress =>
    exact (reading_address lookup metricsAddress.key defaultMetricsAddress).of_faultOf_eq_some h
  | featureGates => exact (reading_gates lookup featureGates.key).of_faultOf_eq_some h

/-- A fault is found from the text of its own setting. -/
theorem fault?_congr {s : Setting} (h : lookup' s.key = lookup s.key) :
    s.fault? lookup' = s.fault? lookup := by
  have halone : ∀ lookup : String → Option String,
      s.fault? lookup = s.fault? fun _ => lookup s.key := by
    intro lookup
    cases s with | _ => rfl
  rw [halone lookup', halone lookup, h]

end Setting

/-- The answer is the first fault of the settings in their order. -/
theorem faultOf_load : faultOf (load lookup) = Setting.all.findSome? (Setting.fault? lookup) := by
  simp only [load, Setting.all, List.findSome?, Setting.fault?, Setting.key]
  cases readTime lookup "RECONCILE_INTERVAL_SECS" 30 with
  | error fault => rfl
  | ok interval =>
    cases readTime lookup "CONTROLLER_RESYNC_SECS" 30 with
    | error fault => rfl
    | ok resync =>
      cases readWorkers lookup "SERVICE_CONTROLLER_WORKERS" 5 with
      | error fault => rfl
      | ok workers =>
        cases readAddress lookup "METRICS_ADDR" defaultMetricsAddress with
        | error fault => rfl
        | ok address => cases readGates lookup "FEATURE_GATES" with | _ => rfl

theorem mem_all (s : Setting) : s ∈ Setting.all := by cases s with | _ => decide

theorem exists_load_iff : (∃ config, load lookup = .ok config) ↔ ∀ s : Setting, s.Fits lookup := by
  have hall : (∀ s : Setting, s.Fits lookup) ↔ faultOf (load lookup) = none := by
    rw [faultOf_load, List.findSome?_eq_none_iff]
    exact forall_congr' fun s => ⟨fun h _ => (Setting.fault?_eq_none_iff s).mpr h,
      fun h => (Setting.fault?_eq_none_iff s).mp (h (mem_all s))⟩
  rw [hall]
  cases load lookup with
  | ok config => exact iff_of_true ⟨config, rfl⟩ rfl
  | error fault => exact iff_of_false nofun nofun

/-- What the settings are when they are accepted. -/
structure Holds (lookup : String → Option String) (config : Config) : Prop where
  reconcileInterval : Held lookup "RECONCILE_INTERVAL_SECS" 30 NumberReads config.reconcileInterval
  controllerResync : Held lookup "CONTROLLER_RESYNC_SECS" 30 NumberReads config.controllerResync
  serviceWorkers : Held lookup "SERVICE_CONTROLLER_WORKERS" 5 NumberReads config.serviceWorkers
  metricsAddress :
    Held lookup "METRICS_ADDR" (.v4 [0, 0, 0, 0] 8080) AddressReads config.metricsAddress
  featureGates : Held lookup "FEATURE_GATES" ⟨∅⟩ GatesRead config.featureGates
  /-- The names of the programs are taken as they are. -/
  kindBinary : Held lookup "KIND_BINARY" "kind" Eq config.kindBinary
  dockerBinary : Held lookup "DOCKER_BINARY" "docker" Eq config.dockerBinary

theorem bind_eq_ok {α β : Type} {x : Except ConfigFault α} {f : α → Except ConfigFault β} {b : β}
    (h : (x >>= f) = .ok b) : ∃ a, x = .ok a ∧ f a = .ok b := by
  cases x with
  | error fault => cases h
  | ok a => exact ⟨a, rfl, h⟩

theorem held_getD (key default : String) :
    Held lookup key default Eq ((lookup key).getD default) := by
  cases h : lookup key with
  | none => exact Or.inl ⟨h, rfl⟩
  | some raw => exact Or.inr ⟨raw, h, rfl⟩

theorem holds_of_load {config : Config} (h : load lookup = .ok config) : Holds lookup config := by
  obtain ⟨interval, hinterval, h⟩ := bind_eq_ok h
  obtain ⟨resync, hresync, h⟩ := bind_eq_ok h
  obtain ⟨workers, hworkers, h⟩ := bind_eq_ok h
  obtain ⟨address, haddress, h⟩ := bind_eq_ok h
  obtain ⟨gates, hgates, h⟩ := bind_eq_ok h
  cases h
  exact {
    reconcileInterval := (hinterval ▸ Setting.reading_time .reconcileInterval).held
    controllerResync := (hresync ▸ Setting.reading_time .controllerResync).held
    serviceWorkers := (hworkers ▸ Setting.reading_workers .serviceWorkers).held
    metricsAddress :=
      (haddress ▸ reading_address lookup "METRICS_ADDR" defaultMetricsAddress).held
    featureGates := (hgates ▸ reading_gates lookup "FEATURE_GATES").held
    kindBinary := held_getD "KIND_BINARY" "kind"
    dockerBinary := held_getD "DOCKER_BINARY" "docker" }

theorem Held.pos {key : String} {default n : Nat} (h : Held lookup key default NumberReads n)
    (hdefault : 1 ≤ default) : 1 ≤ n := by
  obtain ⟨-, rfl⟩ | ⟨raw, -, -, hpos, -⟩ := h
  · exact hdefault
  · exact hpos

/-! ## The setting a message is about -/

theorem prefix_append {text : List Char} {a : String} (b : String) (h : text <+: a.toList) :
    text <+: (a ++ b).toList := by
  rw [String.toList_append]
  exact h.trans (List.prefix_append _ _)

theorem prefix_unreadable (key raw reason : String) :
    key.toList <+: (ConfigFault.unreadable key raw reason).message.toList :=
  prefix_append reason (prefix_append "': " (prefix_append raw (prefix_append "='"
    (List.prefix_refl key.toList))))

theorem prefix_zeroTime (key : String) :
    key.toList <+: (ConfigFault.zeroTime key).message.toList :=
  prefix_append " must be greater than zero" (List.prefix_refl key.toList)

theorem prefix_noWorkers (key : String) :
    key.toList <+: (ConfigFault.noWorkers key).message.toList :=
  prefix_append " must be at least 1" (List.prefix_refl key.toList)

theorem prefix_gate (malformed : GateFault) :
    "feature gate".toList <+: (ConfigFault.gate malformed).message.toList := by
  have hquoted : "feature gate".toList <+: "feature gate '".toList := by decide
  have hplain : "feature gate".toList <+: "feature gate ".toList := by decide
  cases malformed with
  | noValue entry =>
    exact prefix_append "' must be Name=true|false" (prefix_append entry hquoted)
  | noName entry => exact prefix_append "' has no name" (prefix_append entry hquoted)
  | notBoolean name value =>
    exact prefix_append "'" (prefix_append value (prefix_append " has non-boolean value '"
      (prefix_append name hplain)))

/-- What is said of a number starts with its variable. -/
theorem NumberBlamed.named {key raw : String} {zero fault : ConfigFault}
    (h : NumberBlamed key zero raw fault) (hzero : key.toList <+: zero.message.toList) :
    key.toList <+: fault.message.toList := by
  obtain ⟨-, rfl⟩ | ⟨-, reason, rfl⟩ := h
  · exact hzero
  · exact prefix_unreadable key raw reason

theorem Setting.Blames.named {s : Setting} {raw : String} {fault : ConfigFault}
    (h : s.Blames raw fault) : s.subject.toList <+: fault.message.toList := by
  cases s with
  | reconcileInterval => exact NumberBlamed.named h (prefix_zeroTime _)
  | controllerResync => exact NumberBlamed.named h (prefix_zeroTime _)
  | serviceWorkers => exact NumberBlamed.named h (prefix_noWorkers _)
  | metricsAddress =>
    obtain ⟨reason, rfl⟩ := h
    exact prefix_unreadable _ raw reason
  | featureGates =>
    obtain ⟨malformed, -, rfl⟩ := h
    exact prefix_gate malformed

/-- The subjects start with different letters. -/
theorem Setting.subject_unique {s t : Setting} {text : List Char} (hs : s.subject.toList <+: text)
    (ht : t.subject.toList <+: text) : t = s := by
  have hsome : ∀ s : Setting, s.subject.toList ≠ [] := by
    intro s
    cases s with | _ => decide
  have hfirst : ∀ s t : Setting, s.subject.toList.head? = t.subject.toList.head? → t = s := by
    intro s t
    cases s <;> cases t <;> decide
  have hhead : ∀ s : Setting, s.subject.toList <+: text → s.subject.toList.head? = text.head? := by
    rintro s ⟨rest, rfl⟩
    rw [List.head?_append_of_ne_nil _ (hsome s)]
  exact hfirst s t ((hhead s hs).trans (hhead t ht).symm)

/-! ## The answer -/

/-- The variables that are looked up. -/
def keys : List String := Setting.all.map Setting.key ++ ["KIND_BINARY", "DOCKER_BINARY"]

/-- The first setting that is not accepted, and what is said of it. -/
structure FirstRefused (lookup : String → Option String) (fault : ConfigFault)
    (before : List Setting) (s : Setting) (after : List Setting) (raw : String) : Prop where
  order : Setting.all = before ++ s :: after
  fit : ∀ t ∈ before, t.Fits lookup
  text : lookup s.key = some raw
  refused : ¬ s.Accepts raw
  blamed : s.Blames raw fault
  /-- The message is about this setting and about no other. -/
  named : ∀ t : Setting, t.subject.toList <+: fault.message.toList ↔ t = s
  /-- No other variable than those up to this one has a say. -/
  decided : ∀ lookup' : String → Option String,
    (∀ t ∈ before ++ [s], lookup' t.key = lookup t.key) → load lookup' = .error fault

/-- What the settings found through a lookup lead to. -/
structure LoadTold (lookup : String → Option String) : Prop where
  accepted : (∃ config, load lookup = .ok config) ↔ ∀ s : Setting, s.Fits lookup
  holds : ∀ config, load lookup = .ok config → Holds lookup config
  positive : ∀ config, load lookup = .ok config →
    1 ≤ config.reconcileInterval ∧ 1 ≤ config.controllerResync ∧ 1 ≤ config.serviceWorkers
  refused : ∀ fault, load lookup = .error fault →
    ∃ before s after raw, FirstRefused lookup fault before s after raw
  /-- Other variables are not looked at. -/
  others : ∀ lookup' : String → Option String,
    (∀ key ∈ keys, lookup' key = lookup key) → load lookup' = load lookup

theorem load_eq_error_iff {fault : ConfigFault} :
    load lookup = .error fault ↔ Setting.all.findSome? (Setting.fault? lookup) = some fault := by
  rw [← faultOf_load]
  cases load lookup with
  | ok config => exact iff_of_false nofun nofun
  | error fault' => rw [faultOf, Option.some.injEq, Except.error.injEq]

theorem exists_firstRefused {fault : ConfigFault} (h : load lookup = .error fault) :
    ∃ before s after raw, FirstRefused lookup fault before s after raw := by
  obtain ⟨before, s, after, horder, hfault, hbefore⟩ :=
    List.findSome?_eq_some_iff.mp (load_eq_error_iff.mp h)
  obtain ⟨raw, htext, hrefused, hblamed⟩ := Setting.of_fault?_eq_some hfault
  refine ⟨before, s, after, raw, horder, fun t ht => ?_, htext, hrefused, hblamed, fun t => ?_,
    fun lookup' hsame => ?_⟩
  · exact (Setting.fault?_eq_none_iff t).mp (hbefore t ht)
  · constructor
    · exact Setting.subject_unique hblamed.named
    · rintro rfl
      exact hblamed.named
  · refine load_eq_error_iff.mpr (List.findSome?_eq_some_iff.mpr ⟨before, s, after, horder, ?_, ?_⟩)
    · rw [Setting.fault?_congr (hsame s (List.mem_append_right _ List.mem_cons_self)), hfault]
    · intro t ht
      rw [Setting.fault?_congr (hsame t (List.mem_append_left _ ht)), hbefore t ht]

theorem load_congr (h : ∀ key ∈ keys, lookup' key = lookup key) : load lookup' = load lookup := by
  have hsetting : ∀ s : Setting, lookup' s.key = lookup s.key := fun s =>
    h s.key (List.mem_append_left _ (List.mem_map_of_mem (mem_all s)))
  have hinterval : lookup' "RECONCILE_INTERVAL_SECS" = lookup "RECONCILE_INTERVAL_SECS" :=
    hsetting .reconcileInterval
  have hresync : lookup' "CONTROLLER_RESYNC_SECS" = lookup "CONTROLLER_RESYNC_SECS" :=
    hsetting .controllerResync
  have hworkers : lookup' "SERVICE_CONTROLLER_WORKERS" = lookup "SERVICE_CONTROLLER_WORKERS" :=
    hsetting .serviceWorkers
  have haddress : lookup' "METRICS_ADDR" = lookup "METRICS_ADDR" := hsetting .metricsAddress
  have hgates : lookup' "FEATURE_GATES" = lookup "FEATURE_GATES" := hsetting .featureGates
  have hkind : lookup' "KIND_BINARY" = lookup "KIND_BINARY" :=
    h _ (List.mem_append_right _ List.mem_cons_self)
  have hdocker : lookup' "DOCKER_BINARY" = lookup "DOCKER_BINARY" :=
    h _ (List.mem_append_right _ (List.mem_cons_of_mem _ List.mem_cons_self))
  simp only [load, readTime, readWorkers, readNumber, readAddress, readGates, hinterval, hresync,
    hworkers, haddress, hgates, hkind, hdocker]

/-- The settings are accepted exactly if each of the five is unset or accepted, and the first that
is not decides what is said. -/
theorem settings_accepted (lookup : String → Option String) : LoadTold lookup where
  accepted := exists_load_iff
  holds _ h := holds_of_load h
  positive config h :=
    have holds := holds_of_load h
    ⟨holds.reconcileInterval.pos (by decide), holds.controllerResync.pos (by decide),
      holds.serviceWorkers.pos (by decide)⟩
  refused _ h := exists_firstRefused h
  others _ h := load_congr h

end Flotilla.Config
